import SearchGateway.Proofs.Template.Normal
import SearchGateway.Proofs.Template.Quoted
import SearchGateway.Proofs.Text.Pieces

/-!
# Where tags stand

A text references parameters exactly where tags stand in it, and it keeps its tags in any
surroundings (`hasReferences_iff`). A text without tags is left alone. Inside of a JSON string a tag
is still one where nothing in it but its name needs escaping: it has to be in single quotes, with no
control character for white space (`hasReferences_escape_iff`).
-/

namespace SearchGateway

namespace Tag

/-- A text without line breaks is read as a name up to its own quote at the latest. -/
lemma isSome_nameUntil? {α : Type} {quote : Char} {tail? : Text → Option α} {name rest : Text}
    (hline : '\n' ∉ name) (h : (tail? rest).isSome) :
    (nameUntil? quote tail? (name ++ quote :: rest)).isSome := by
  induction name with
  | nil =>
    obtain ⟨tail, ht⟩ := Option.isSome_iff_exists.1 h
    simp [nameUntil?, ht]
  | cons c name ih =>
    obtain ⟨hc, hname⟩ := List.ne_and_not_mem_of_not_mem_cons hline
    rw [List.cons_append, nameUntil?]
    split
    · rfl
    · rw [if_neg (Ne.symm hc), Option.isSome_map]
      exact ih hname

/-- What is written as a tag in some spelling is read as one, even where its name ends earlier. -/
lemma isSome_read?_text_append (sp : Spelling) {word name : Text} (rest : Text)
    (hw : ∀ c ∈ word.head?, isBlank c = false) (hline : '\n' ∉ name) :
    (read? word (sp.text word name ++ rest)).isSome := by
  rw [read?_text_append sp name rest hw]
  exact isSome_nameUntil? hline (by rw [close?_closing]; rfl)

end Tag

namespace Template

/-- A text references parameters exactly where a tag stands in it. -/
lemma hasReferences_iff {s : Text} :
    hasReferences s = true ↔ ∃ before sp name behind, '\n' ∉ name ∧
      s = before ++ (Tag.Spelling.text sp "parameter".toList name ++ behind) := by
  constructor
  · intro h
    unfold hasReferences at h
    fun_induction pieces s with
    | case1 s name rest hr _ =>
      obtain ⟨hline, sp, hs⟩ := Tag.exists_spelling_of_read? hr
      exact ⟨[], sp, name, rest, hline, hs⟩
    | case2 => cases h
    | case3 c r _ ih =>
      obtain ⟨before, sp, name, behind, hline, hs⟩ := ih h
      exact ⟨c :: before, sp, name, behind, hline, by rw [hs]; rfl⟩
  · rintro ⟨before, sp, name, behind, hline, rfl⟩
    have hread := Tag.isSome_read?_text_append sp behind isBlank_head_parameter hline
    generalize Tag.Spelling.text sp "parameter".toList name ++ behind = tag at hread
    unfold hasReferences
    -- An earlier tag may take in the beginning of this one, and then there is that one.
    induction before with
    | nil =>
      obtain ⟨⟨name, rest⟩, hr⟩ := Option.isSome_iff_exists.1 hread
      rw [List.nil_append, pieces_of_readReference? hr]
      rfl
    | cons c before ih =>
      cases hr : readReference? (c :: (before ++ tag)) with
      | none =>
        rw [List.cons_append, pieces_cons hr]
        exact ih
      | some x =>
        rw [List.cons_append, pieces_of_readReference? hr]
        rfl

/-- A text keeps its tags in any surroundings. -/
lemma hasReferences_append {s : Text} (h : hasReferences s = true) (front back : Text) :
    hasReferences (front ++ (s ++ back)) = true := by
  obtain ⟨before, sp, name, behind, hline, rfl⟩ := hasReferences_iff.1 h
  exact hasReferences_iff.2 ⟨front ++ before, sp, name, behind ++ back, hline, by simp⟩

/-- Where no tag can begin in front of a text and none can end behind it, the text itself holds all
tags. -/
lemma hasReferences_append_iff {front s back : Text} (hfront : '<' ∉ front) (hback : '>' ∉ back) :
    hasReferences (front ++ (s ++ back)) = true ↔ hasReferences s = true := by
  refine ⟨fun h => ?_, fun h => hasReferences_append h front back⟩
  obtain ⟨before, sp, name, behind, hline, h⟩ := hasReferences_iff.1 h
  obtain ⟨tail, htail⟩ := sp.exists_text_eq "parameter".toList name
  rw [htail, List.cons_append] at h
  obtain ⟨before', rfl, hs⟩ := Text.exists_of_append_eq_of_not_mem_left hfront h
  have hs : s ++ back = (before' ++ '<' :: tail) ++ '>' :: behind := by
    rw [hs]
    simp
  obtain ⟨behind', rfl, -⟩ := Text.exists_of_append_eq_of_not_mem_right hback hs
  refine hasReferences_iff.2 ⟨before', sp, name, behind', hline, ?_⟩
  rw [htail]
  simp

/-- A text without an angle bracket references nothing. -/
lemma hasReferences_of_no_angle {s : Text} (h : '<' ∉ s) : hasReferences s = false := by
  refine Bool.eq_false_iff.2 fun href => h ?_
  obtain ⟨before, sp, name, behind, _, rfl⟩ := hasReferences_iff.1 href
  obtain ⟨tail, htail⟩ := sp.exists_text_eq "parameter".toList name
  rw [htail]
  simp

/-- The characters of a text without references stand for themselves. -/
lemma pieces_of_not_hasReferences {s : Text} (h : hasReferences s = false) :
    pieces s = s.map .literal := by
  unfold hasReferences at h
  fun_induction pieces s with
  | case1 => cases h
  | case2 => rfl
  | case3 c r _ ih =>
    rw [List.map_cons, ih h]

/-- Normalization neither makes references where there are none, nor loses all of them. -/
lemma hasReferences_normalize (s : Text) : hasReferences (normalize s) = hasReferences s := by
  cases h : hasReferences s with
  | false => rw [normalize_of_literal (pieces_of_not_hasReferences h), h]
  | true =>
    obtain ⟨p, hp, hname⟩ := List.any_eq_true.1 h
    cases p with
    | literal c => cases hname
    | reference name =>
      obtain ⟨ps, qs, hpieces⟩ := List.append_of_mem hp
      refine hasReferences_iff.2 ⟨ps.flatMap Piece.text, .canonical, name, qs.flatMap Piece.text,
        not_mem_line_of_mem_pieces hp, ?_⟩
      unfold normalize
      rw [hpieces, List.flatMap_append, List.flatMap_cons, text_reference]

/-- A text without references takes no values. -/
lemma substitute_of_not_hasReferences {s : Text} (h : hasReferences s = false)
    (parameters : Option Parameters) (mode : Mode) : substitute s parameters mode = .ok s :=
  substitute_of_literal (pieces_of_not_hasReferences h) parameters mode

/-- A character that no escape is made of stands in an escaped text where it stands in the text. -/
lemma exists_of_escape_eq_append_cons {s before behind : Text} {c : Char}
    (hc : c ∉ Json.escapeLetters) (h : Json.escape s = before ++ c :: behind) :
    ∃ s₁ s₂, s = s₁ ++ c :: s₂ ∧ Json.escape s₁ = before ∧ Json.escape s₂ = behind := by
  induction s generalizing before with
  | nil => simp [Json.escape] at h
  | cons d s ih =>
    rw [Json.escape_cons] at h
    -- The character stands behind the first escape, or it is the first escape.
    obtain ⟨before', rfl, hs⟩ | ⟨tail, hd, hs⟩ := List.append_eq_append_iff.1 h
    · obtain ⟨s₁, s₂, rfl, rfl, rfl⟩ := ih hs
      exact ⟨d :: s₁, s₂, rfl, Json.escape_cons d s₁, rfl⟩
    · cases tail with
      | nil =>
        have hs : Json.escape s = [] ++ c :: behind := hs.symm
        obtain ⟨s₁, s₂, rfl, hs₁, rfl⟩ := ih hs
        refine ⟨d :: s₁, s₂, rfl, ?_, rfl⟩
        rw [Json.escape_cons, hs₁, hd, List.append_nil, List.append_nil]
      | cons c' tail =>
        obtain ⟨rfl, rfl⟩ := List.cons.inj hs
        obtain hletter | ⟨hplain, rfl⟩ := Json.mem_escapeChar (c := d) (d := c) (by rw [hd]; simp)
        · exact absurd hletter hc
        · rw [Json.escapeChar_of_isPlain hplain] at hd
          cases before with
          | nil =>
            obtain ⟨_, rfl⟩ := List.cons.inj hd
            exact ⟨[], s, rfl, rfl, rfl⟩
          | cons c' before => simp at hd

/-- Where an escaped text begins with a text without backslashes, this text is plain and the text
begins with it. -/
lemma exists_of_escape_eq_append {s before behind : Text} (hbefore : '\\' ∉ before)
    (h : Json.escape s = before ++ behind) :
    before.all Json.isPlain = true ∧ ∃ r, s = before ++ r ∧ Json.escape r = behind := by
  induction before generalizing s with
  | nil => exact ⟨rfl, s, rfl, h⟩
  | cons c before ih =>
    obtain ⟨hc, hbefore⟩ := List.ne_and_not_mem_of_not_mem_cons hbefore
    obtain ⟨hplain, r, rfl, hr⟩ := exists_of_escape_eq_cons (Ne.symm hc) h
    obtain ⟨hall, r', rfl, hr'⟩ := ih hbefore hr
    exact ⟨by rw [List.all_cons, hplain, hall]; rfl, r', rfl, hr'⟩

end Template

namespace Tag.Spelling

/-- The white space inside of a tag. -/
def blanks (sp : Spelling) : Text :=
  sp.beforeWord ++ (sp.beforeQuote ++ (sp.beforeBracket ++ sp.beforeEnd))

/-- Whether nothing around the name of a tag needs escaping inside of a JSON string: the quotes are
single ones, and none of the white space is a control character. -/
def IsPlain (sp : Spelling) : Prop :=
  sp.quote = '\'' ∧ sp.blanks.all Json.isPlain = true

/-- Of the two quotes the single one is plain. -/
lemma isPlain_quote_iff (sp : Spelling) : Json.isPlain sp.quote = true ↔ sp.quote = '\'' := by
  rcases sp.isQuote with h | h <;> rw [h] <;> decide

/-- The tag of a parameter is plain where both of its ends are. -/
lemma isPlain_iff (sp : Spelling) :
    sp.IsPlain ↔ (sp.opening "parameter".toList).all Json.isPlain = true ∧
      sp.closing.all Json.isPlain = true := by
  have hends : List.all "<%=".toList Json.isPlain = true ∧
      List.all "parameter".toList Json.isPlain = true ∧ Json.isPlain '[' = true ∧
      Json.isPlain ']' = true ∧ List.all "%>".toList Json.isPlain = true := by decide
  unfold IsPlain blanks opening closing
  simp only [List.all_append, List.all_cons, List.all_nil, Bool.and_eq_true, Bool.and_true, hends,
    isPlain_quote_iff, true_and]
  constructor
  · rintro ⟨hquote, h₁, h₂, h₃, h₄⟩
    exact ⟨⟨h₁, h₂, hquote⟩, h₃, h₄⟩
  · rintro ⟨⟨h₁, h₂, hquote⟩, h₃, h₄⟩
    exact ⟨hquote, h₁, h₂, h₃, h₄⟩

/-- Outside of its name the tag of a parameter has no backslash. -/
lemma backslash_not_mem (sp : Spelling) :
    '\\' ∉ sp.opening "parameter".toList ∧ '\\' ∉ sp.closing := by
  have hquote : '\\' ≠ sp.quote := by
    rcases sp.isQuote with h | h <;> rw [h] <;> decide
  exact sp.not_mem_ends (by decide) hquote (by decide) (by decide)

end Tag.Spelling

namespace Template

/-- Whether a plain tag stands in a text. -/
def HoldsPlainTag (s : Text) : Prop :=
  ∃ before sp name behind, Tag.Spelling.IsPlain sp ∧
    s = before ++ (sp.text "parameter".toList name ++ behind)

/-- The escaped form of a text references parameters exactly where a plain tag stands in the
text. -/
lemma hasReferences_escape_iff {s : Text} :
    hasReferences (Json.escape s) = true ↔ HoldsPlainTag s := by
  unfold HoldsPlainTag
  rw [hasReferences_iff]
  constructor
  · rintro ⟨before, sp, name, behind, -, h⟩
    -- The tag begins where the text has its angle bracket, and from there on nothing but the name
    -- and what is behind the tag can be escaped.
    have hangle : sp.opening "parameter".toList = '<' :: (sp.opening "parameter".toList).tail := rfl
    rw [sp.text_eq, List.append_assoc, hangle, List.cons_append] at h
    obtain ⟨s₁, s₂, rfl, -, hs₂⟩ := exists_of_escape_eq_append_cons (by decide) h
    have hs : Json.escape ('<' :: s₂) = sp.opening "parameter".toList ++
        (name ++ sp.quote :: sp.closing ++ behind) := by
      rw [Json.escape_cons, hs₂, hangle]
      rfl
    obtain ⟨hopening, r, hr, hname⟩ := exists_of_escape_eq_append sp.backslash_not_mem.1 hs
    have hquote : sp.quote = '\'' := by
      apply sp.isPlain_quote_iff.1
      apply List.all_eq_true.1 hopening
      simp [Tag.Spelling.opening]
    rw [List.append_assoc, List.cons_append, hquote] at hname
    obtain ⟨name', r', rfl, -, hr'⟩ := exists_of_escape_eq_append_cons (by decide) hname
    obtain ⟨hclosing, behind', rfl, -⟩ := exists_of_escape_eq_append sp.backslash_not_mem.2 hr'
    refine ⟨s₁, sp, name', behind', sp.isPlain_iff.2 ⟨hopening, hclosing⟩, ?_⟩
    rw [hr, sp.text_eq, hquote]
    simp
  · rintro ⟨before, sp, name, behind, hplain, rfl⟩
    obtain ⟨hopening, hclosing⟩ := sp.isPlain_iff.1 hplain
    refine ⟨Json.escape before, sp, Json.escape name, Json.escape behind, fun hline => ?_, ?_⟩
    · obtain hletter | ⟨hp, _⟩ := Json.mem_escape hline
      · revert hletter
        decide
      · revert hp
        decide
    · have hquote : Json.escapeChar sp.quote = [sp.quote] :=
        Json.escapeChar_of_isPlain (sp.isPlain_quote_iff.2 hplain.1)
      rw [sp.text_eq, sp.text_eq, Json.escape_append, Json.escape_append, Json.escape_append,
        Json.escape_append, Json.escape_cons, hquote, Json.escape_of_isPlain hopening,
        Json.escape_of_isPlain hclosing]
      rfl

/-- A text without single quotes holds no plain tag. -/
lemma not_holdsPlainTag {s : Text} (h : '\'' ∉ s) : ¬ HoldsPlainTag s := by
  rintro ⟨before, sp, name, behind, ⟨hquote, -⟩, rfl⟩
  apply h
  simp [sp.text_eq, Tag.Spelling.opening, hquote]

end Template

end SearchGateway
