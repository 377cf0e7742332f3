import Mathlib.Algebra.Ring.Parity
import Mathlib.Data.List.DropRight
import Mathlib.Data.List.Find
import Mathlib.Tactic.Lemma
import SearchGateway.Lucene.Escape

/-!
# Escaping in a single pass

The passes of escaping work on text that already holds the backslashes of the passes before, yet
none of their decisions depends on these: what is escaped can be told from the value alone
(`IsEscaped`). A reserved or blank character is escaped wherever it stands, an ampersand or a bar
where it opens a pair within its run, and a letter where it belongs to a keyword between word
boundaries. Escaping is one pass over the value that sets a backslash before exactly these
characters (`escape?_eq_escapeWhere`).
-/

namespace SearchGateway.Lucene

/-- Sets a backslash before each character of a text, which stands behind another one, that a test
picks by what stands in front of the character and behind it. -/
def escapeWhere (picks : Text → Char → Text → Prop) [∀ s c t, Decidable (picks s c t)]
    (s : Text) : Text → Text
  | [] => []
  | c :: t =>
    if picks s c t then '\\' :: c :: escapeWhere picks (s ++ [c]) t
    else c :: escapeWhere picks (s ++ [c]) t

/-- How many times a character stands at the end of a text: its offset within a run that goes on
behind the text. -/
def runOffset (c : Char) (s : Text) : Nat :=
  (s.rtakeWhile (· == c)).length

/-- The characters that join clauses when they stand twice. -/
def IsPairChar (c : Char) : Prop :=
  c = '&' ∨ c = '|'

/-- An ampersand or a bar between two texts is the first one of a pair, where the pairs of a run are
counted from its beginning. -/
def OpensPair (s : Text) (c : Char) (t : Text) : Prop :=
  IsPairChar c ∧ Even (runOffset c s) ∧ t.head? = some c

/-- Whether a text ends with a word character. -/
def endsWord (s : Text) : Bool :=
  s.getLast?.any isWord

/-- Between two texts lies a word boundary: one of them has a word character there and the other one
has not. -/
def IsBoundary (s t : Text) : Prop :=
  endsWord s ≠ beginsWord t

/-- Between two texts stands a keyword with a word boundary at either end. -/
def StandsAlone (s word t : Text) : Prop :=
  word ∈ keywords ∧ IsBoundary s (word ++ t) ∧ IsBoundary (s ++ word) t

/-- A character between two texts belongs to a keyword that stands alone. -/
def InKeyword (s : Text) (c : Char) (t : Text) : Prop :=
  ∃ i ≤ s.length, ∃ j ≤ t.length, StandsAlone (s.take i) (s.drop i ++ c :: t.take j) (t.drop j)

/-- Whether a character of a value is escaped, told from the value alone. -/
def IsEscaped (s : Text) (c : Char) (t : Text) : Prop :=
  needsEscape c = true ∨ OpensPair s c t ∨ InKeyword s c t

instance : DecidablePred IsPairChar :=
  fun _ => inferInstanceAs (Decidable (_ ∨ _))

instance (s t : Text) : Decidable (IsBoundary s t) :=
  inferInstanceAs (Decidable (_ ≠ _))

instance (s word t : Text) : Decidable (StandsAlone s word t) :=
  inferInstanceAs (Decidable (_ ∧ _))

instance (s : Text) (c : Char) (t : Text) : Decidable (OpensPair s c t) :=
  inferInstanceAs (Decidable (_ ∧ _))

instance (s : Text) (c : Char) (t : Text) : Decidable (InKeyword s c t) :=
  inferInstanceAs (Decidable (∃ i ≤ s.length, ∃ j ≤ t.length, _))

instance (s : Text) (c : Char) (t : Text) : Decidable (IsEscaped s c t) :=
  inferInstanceAs (Decidable (_ ∨ _))

/-- A run that goes on has one more character in front of its next one. -/
lemma runOffset_concat_self (c : Char) (s : Text) : runOffset c (s ++ [c]) = runOffset c s + 1 := by
  show ((s ++ [c]).rtakeWhile (· == c)).length = (s.rtakeWhile (· == c)).length + 1
  rw [List.rtakeWhile_concat_pos (· == c) s c (beq_self_eq_true c), List.length_append]
  rfl

/-- Behind another character a run begins anew. -/
lemma runOffset_concat_of_ne {c d : Char} (h : d ≠ c) (s : Text) : runOffset c (s ++ [d]) = 0 := by
  show ((s ++ [d]).rtakeWhile (· == c)).length = 0
  rw [List.rtakeWhile_concat_neg (· == c) s d (by simpa using h)]
  rfl

/-- The characters that are escaped in pairs are not escaped one by one. -/
lemma needsEscape_of_isPairChar {c : Char} (h : IsPairChar c) : needsEscape c = false := by
  rcases h with rfl | rfl
  · decide
  · decide

section Congr

variable {p q : Text → Char → Text → Prop} [∀ s c t, Decidable (p s c t)]
  [∀ s c t, Decidable (q s c t)]

/-- Tests that pick the same characters set the same backslashes. -/
lemma escapeWhere_congr (h : ∀ s c t, p s c t ↔ q s c t) (s v : Text) :
    escapeWhere p s v = escapeWhere q s v := by
  induction v generalizing s with
  | nil => rfl
  | cons c v ih =>
    show (if p s c v then _ else _) = (if q s c v then _ else _)
    rw [ih (s ++ [c])]
    exact if_congr (h s c v) rfl rfl

end Congr

/-- A pair gets a backslash in front, and the pass goes on behind it. -/
lemma escapePairs_pair {c : Char} (h : IsPairChar c) (r : Text) :
    escapePairs (c :: c :: r) = '\\' :: c :: c :: escapePairs r := by
  rcases h with rfl | rfl
  · rfl
  · rfl

/-- A character that begins no pair is kept. -/
lemma escapePairs_cons {c : Char} {r : Text} (h : IsPairChar c → r.head? ≠ some c) :
    escapePairs (c :: r) = c :: escapePairs r := by
  rw [escapePairs]
  · rintro r' rfl rfl
    exact h (.inl rfl) rfl
  · rintro r' rfl rfl
    exact h (.inr rfl) rfl

/-- Each character is escaped on its own, where it is reserved. -/
lemma escapeReserved_cons (c : Char) (v : Text) :
    escapeReserved (c :: v) =
      if needsEscape c then '\\' :: c :: escapeReserved v else c :: escapeReserved v := by
  show (if needsEscape c then ['\\', c] else [c]) ++ escapeReserved v = _
  cases needsEscape c with
  | true => rfl
  | false => rfl

/-- The first pass sets nothing in front of an ampersand or a bar, and brings none. -/
lemma head?_escapeReserved {c : Char} {v : Text} (hc : IsPairChar c)
    (h : (escapeReserved v).head? = some c) : v.head? = some c := by
  cases v with
  | nil => exact h
  | cons d v =>
    rw [escapeReserved_cons] at h
    cases hd : needsEscape d with
    | true =>
      rw [hd] at h
      cases h
      exact absurd hc (by decide)
    | false =>
      rw [hd] at h
      exact h

/-- Where no pair is opened, the second pass goes on behind the character. -/
lemma escapePairs_escapeReserved_cons {c : Char} {v : Text}
    (h : IsPairChar c → v.head? ≠ some c) :
    escapePairs (escapeReserved (c :: v)) =
      if needsEscape c then '\\' :: c :: escapePairs (escapeReserved v)
      else c :: escapePairs (escapeReserved v) := by
  have hrest : escapePairs (c :: escapeReserved v) = c :: escapePairs (escapeReserved v) :=
    escapePairs_cons fun hc hhead => h hc (head?_escapeReserved hc hhead)
  rw [escapeReserved_cons]
  cases needsEscape c with
  | true =>
    show escapePairs ('\\' :: c :: escapeReserved v) = '\\' :: c :: escapePairs (escapeReserved v)
    rw [escapePairs_cons fun hbackslash => absurd hbackslash (by decide), hrest]
  | false => exact hrest

/-- The second pass counts the pairs of a run as they are counted in the value, where it comes to the
run at an even offset: no backslash of the first pass stands within a run. -/
lemma escapePairs_escapeReserved (s v : Text)
    (heven : ∀ c, IsPairChar c → v.head? = some c → Even (runOffset c s)) :
    escapePairs (escapeReserved v) =
      escapeWhere (fun s c t => needsEscape c = true ∨ OpensPair s c t) s v := by
  match v with
  | [] => rfl
  | c :: v =>
    by_cases hpair : OpensPair s c v
    · obtain ⟨hc, hoffset, hhead⟩ := hpair
      obtain ⟨r, rfl⟩ := List.head?_eq_some_iff.1 hhead
      have hreserved := needsEscape_of_isPairChar hc
      -- The second character of the pair stands at an odd offset.
      have hodd : ¬ OpensPair (s ++ [c]) c r := by
        rintro ⟨-, h, -⟩
        rw [runOffset_concat_self] at h
        exact Nat.even_add_one.1 h hoffset
      have hrest := escapePairs_escapeReserved (s ++ [c] ++ [c]) r (by
        intro d _ _
        by_cases hd : c = d
        · subst hd
          rw [runOffset_concat_self, runOffset_concat_self]
          exact hoffset.add even_two
        · rw [runOffset_concat_of_ne hd]
          exact Even.zero)
      rw [escapeReserved_cons, escapeReserved_cons, hreserved]
      show escapePairs (c :: c :: escapeReserved r) = _
      rw [escapePairs_pair hc, hrest]
      have hopens : OpensPair s c (c :: r) := ⟨hc, hoffset, rfl⟩
      simp [escapeWhere, hreserved, hopens, hodd]
    · have hnext : IsPairChar c → v.head? ≠ some c := fun hc hhead =>
        hpair ⟨hc, heven c hc rfl, hhead⟩
      have hrest := escapePairs_escapeReserved (s ++ [c]) v (by
        intro d hd hhead
        by_cases hcd : c = d
        · exact absurd (hcd ▸ hhead) (hnext (hcd ▸ hd))
        · rw [runOffset_concat_of_ne hcd]
          exact Even.zero)
      rw [escapePairs_escapeReserved_cons hnext, hrest]
      simp [escapeWhere, hpair]
termination_by v.length

/-- A number in a table lies in one of its ranges. -/
lemma mem_flatMap_of_inRanges {ranges : List (Nat × Nat)} {n : Nat} (h : inRanges ranges n = true) :
    n ∈ ranges.flatMap fun range => List.range' range.1 (range.2 + 1 - range.1) := by
  induction ranges with
  | nil => cases h
  | cons range ranges ih =>
    rw [List.flatMap_cons, List.mem_append, List.mem_range'_1]
    rw [inRanges] at h
    split at h
    · cases h
    · split at h
      · left
        omega
      · right
        exact ih h

/-- No reserved or blank character is part of a word. -/
lemma isWord_of_needsEscape {c : Char} (h : needsEscape c = true) : isWord c = false := by
  rcases Bool.or_eq_true _ _ ▸ h with hreserved | hblank
  · have hall : ("*+-=~><\"?^$\x7b\x7d():!/[]\\".toList.all fun d => !isWord d) = true := by
      decide +kernel
    simpa using List.all_eq_true.1 hall c (List.contains_iff_mem.1 hreserved)
  · have hall : ((blankRanges.flatMap fun range =>
        List.range' range.1 (range.2 + 1 - range.1)).all fun n => !inRanges wordRanges n) = true := by
      decide +kernel
    have hword := List.all_eq_true.1 hall c.toNat (mem_flatMap_of_inRanges hblank)
    rwa [Bool.not_eq_true'] at hword

/-- The characters of pairs stand in no word. -/
lemma isWord_of_isPairChar {c : Char} (h : IsPairChar c) : isWord c = false := by
  rcases h with rfl | rfl
  · decide
  · decide

/-- The keywords consist of word characters. -/
lemma isWord_of_mem_keyword {word : Text} (h : word ∈ keywords) {c : Char} (hc : c ∈ word) :
    isWord c = true := by
  have hall : (keywords.flatten.all isWord) = true := by
    decide
  exact List.all_eq_true.1 hall c (List.mem_flatten.2 ⟨word, h, hc⟩)

/-- No keyword is empty. -/
lemma keyword_ne_nil {word : Text} (h : word ∈ keywords) : word ≠ [] := by
  rintro rfl
  exact absurd h (by decide)

/-- A text ends in a word where its last character belongs to one. -/
@[simp] lemma endsWord_concat (s : Text) (c : Char) : endsWord (s ++ [c]) = isWord c := by
  show (s ++ [c]).getLast?.any isWord = isWord c
  rw [List.getLast?_concat]
  rfl

/-- Behind the letters of a keyword a text ends with a word character. -/
lemma endsWord_append {l : Text} (hne : l ≠ []) (hl : ∀ c ∈ l, isWord c = true) (s : Text) :
    endsWord (s ++ l) = true := by
  rcases List.eq_nil_or_concat l with rfl | ⟨l, c, rfl⟩
  · exact absurd rfl hne
  · rw [List.concat_eq_append, ← List.append_assoc, endsWord_concat]
    exact hl c (by simp)

/-- In front of the letters of a keyword a text begins with a word character. -/
lemma beginsWord_append {r : Text} (hne : r ≠ []) (hr : ∀ c ∈ r, isWord c = true) (t : Text) :
    beginsWord (r ++ t) = true := by
  cases r with
  | nil => exact absurd rfl hne
  | cons c r => exact hr c (.head _)

/-- A keyword stands alone where no word goes on at either end. -/
lemma standsAlone_iff {s word t : Text} :
    StandsAlone s word t ↔ word ∈ keywords ∧ endsWord s = false ∧ beginsWord t = false := by
  refine and_congr_right fun hword => ?_
  have hbegins := beginsWord_append (keyword_ne_nil hword) (fun _ => isWord_of_mem_keyword hword) t
  have hends := endsWord_append (keyword_ne_nil hword) (fun _ => isWord_of_mem_keyword hword) s
  show (endsWord s ≠ beginsWord (word ++ t)) ∧ (endsWord (s ++ word) ≠ beginsWord t) ↔ _
  rw [hbegins, hends]
  simp

/-- A character belongs to a keyword where some text around it stands alone as one. -/
lemma inKeyword_iff {s t : Text} {c : Char} :
    InKeyword s c t ↔
      ∃ a l r b, s = a ++ l ∧ t = r ++ b ∧ StandsAlone a (l ++ c :: r) b := by
  constructor
  · rintro ⟨i, -, j, -, h⟩
    exact ⟨s.take i, s.drop i, t.take j, t.drop j, (List.take_append_drop i s).symm,
      (List.take_append_drop j t).symm, h⟩
  · rintro ⟨a, l, r, b, rfl, rfl, h⟩
    exact ⟨a.length, by simp, r.length, by simp, by simpa using h⟩

/-- What belongs to a keyword belongs to a word. -/
lemma isWord_of_inKeyword {s t : Text} {c : Char} (h : InKeyword s c t) : isWord c = true := by
  obtain ⟨a, l, r, b, -, -, hword, -⟩ := inKeyword_iff.1 h
  exact isWord_of_mem_keyword hword (by simp)

/-- Where a keyword is found behind a text, it stands alone. -/
lemma exists_of_keywordLength {s v : Text} {n : Nat} (h : keywordLength (endsWord s) v = n + 1) :
    ∃ word t, v = word ++ t ∧ word.length = n + 1 ∧ StandsAlone s word t := by
  rw [keywordLength] at h
  cases hs : endsWord s with
  | true =>
    rw [hs] at h
    cases h
  | false =>
    rw [hs, if_neg Bool.false_ne_true] at h
    split at h
    · cases h
    · rename_i word hfind
      have hbegins := List.find?_some hfind
      rw [beginsWith] at hbegins
      split at hbegins
      · cases hbegins
      · rename_i t ht
        have hword : word ∈ keywords := List.mem_of_find?_eq_some hfind
        have ht' : beginsWord t = false := by simpa using hbegins
        exact ⟨word, t, Text.eq_append_of_after? ht, h, standsAlone_iff.2 ⟨hword, hs, ht'⟩⟩

/-- A keyword that stands alone is found. -/
lemma keywordLength_ne_zero {s word t : Text} (h : StandsAlone s word t) :
    keywordLength (endsWord s) (word ++ t) ≠ 0 := by
  obtain ⟨hword, hs, ht⟩ := standsAlone_iff.1 h
  have hbegins : beginsWith word (word ++ t) = true := by
    rw [beginsWith, Text.after?_append]
    simp [ht]
  rw [keywordLength, hs, if_neg Bool.false_ne_true]
  cases hfind : keywords.find? (beginsWith · (word ++ t)) with
  | none => exact absurd hbegins (List.find?_eq_none.1 hfind word hword)
  | some found =>
    have hfound := keyword_ne_nil (List.mem_of_find?_eq_some hfind)
    exact fun hlength => hfound (List.length_eq_zero_iff.1 hlength)

/-- A keyword is not found at a character that is not part of a word. -/
lemma keywordLength_of_not_isWord {c : Char} (h : isWord c = false) (behindWord : Bool) (t : Text) :
    keywordLength behindWord (c :: t) = 0 := by
  cases behindWord with
  | true => rfl
  | false =>
    cases hlength : keywordLength false (c :: t) with
    | zero => rfl
    | succ n =>
      -- What is found behind the empty text begins with a letter.
      obtain ⟨word, r, hv, -, hword, -⟩ := exists_of_keywordLength (s := []) hlength
      cases word with
      | nil => exact absurd rfl (keyword_ne_nil hword)
      | cons d word =>
        cases hv
        rw [isWord_of_mem_keyword hword (.head _)] at h
        cases h

/-- How many letters of a keyword that stands alone are left at the place between two texts: those
behind it where the keyword reaches there or begins there, or none where no keyword goes on. -/
inductive LettersLeft (s v : Text) : Nat → Prop where
  | within {a l r b n} :
    s = a ++ l →
    v = r ++ b →
    r.length = n + 1 →
    StandsAlone a (l ++ r) b →
    LettersLeft s v (n + 1)
  | outside :
    (∀ a l r b, s = a ++ l → v = r ++ b → l ≠ [] → r ≠ [] → ¬ StandsAlone a (l ++ r) b) →
    LettersLeft s v 0

/-- Behind a character that belongs to no keyword, no letters are left. -/
lemma LettersLeft.of_not_inKeyword {s v : Text} {c : Char} (h : ¬ InKeyword s c v) :
    LettersLeft (s ++ [c]) v 0 := by
  refine .outside fun a l r b hs hv hl _ halone => h (inKeyword_iff.2 ?_)
  rcases List.eq_nil_or_concat l with rfl | ⟨l, d, rfl⟩
  · exact absurd rfl hl
  · rw [List.concat_eq_append, ← List.append_assoc] at hs
    obtain ⟨rfl, hd⟩ := List.append_inj' hs rfl
    cases hd
    exact ⟨a, l, r, b, rfl, hv, by simpa using halone⟩

/-- The next letter of a keyword belongs to it, and one letter less is left behind it. -/
lemma LettersLeft.letter {s v : Text} {c : Char} {n : Nat} (h : LettersLeft s (c :: v) (n + 1)) :
    InKeyword s c v ∧ LettersLeft (s ++ [c]) v n := by
  cases h with
  | @within a l r b _ hs hv hlength halone =>
    cases r with
    | nil => cases hlength
    | cons d r =>
      obtain ⟨rfl, rfl⟩ := List.cons.inj hv
      have hr : r.length = n := Nat.succ.inj hlength
      refine ⟨inKeyword_iff.2 ⟨a, l, r, b, hs, rfl, halone⟩, ?_⟩
      have halone' : StandsAlone a (l ++ [c] ++ r) b := by simpa using halone
      cases n with
      | succ n => exact .within (by rw [hs, List.append_assoc]) rfl hr halone'
      | zero =>
        obtain rfl := List.length_eq_zero_iff.1 hr
        obtain ⟨-, -, hb⟩ := standsAlone_iff.1 halone
        -- The keyword ends here, so no word goes on behind it, and no other keyword does.
        refine .outside fun a' l' r' b' _ hv' _ hr' halone'' => ?_
        have hbegins : beginsWord (r' ++ b') = true :=
          beginsWord_append hr' (fun e he => isWord_of_mem_keyword halone''.1 (by simp [he])) b'
        rw [← hv', show [].append b = b from rfl, hb] at hbegins
        cases hbegins

/-- Where a keyword is found, all its letters are left. -/
lemma LettersLeft.of_keywordLength {s v : Text} {n : Nat}
    (h : keywordLength (endsWord s) v = n + 1) : LettersLeft s v (n + 1) := by
  obtain ⟨word, t, hv, hlength, halone⟩ := exists_of_keywordLength h
  exact .within (List.append_nil s).symm hv hlength halone

/-- Where no letters are left and no keyword is found, the next character belongs to none. -/
lemma LettersLeft.not_inKeyword {s v : Text} {c : Char} (h : LettersLeft s (c :: v) 0)
    (hlength : keywordLength (endsWord s) (c :: v) = 0) : ¬ InKeyword s c v := by
  intro hkeyword
  obtain ⟨a, l, r, b, hs, hv, halone⟩ := inKeyword_iff.1 hkeyword
  cases h with
  | outside hidle =>
    cases l with
    | nil =>
      rw [List.append_nil] at hs
      subst hs hv
      exact keywordLength_ne_zero halone hlength
    | cons d l => exact hidle a (d :: l) (c :: r) b hs (by rw [hv]; rfl) nofun nofun halone

/-- The third pass goes on behind a character at which no keyword is found. -/
lemma escapeKeywordsFrom_of_zero {behindWord : Bool} {c : Char} {t : Text}
    (h : keywordLength behindWord (c :: t) = 0) :
    escapeKeywordsFrom behindWord 0 (c :: t) = c :: escapeKeywordsFrom (isWord c) 0 t := by
  rw [escapeKeywordsFrom, h]

/-- The third pass escapes the first letter of a keyword that it finds. -/
lemma escapeKeywordsFrom_of_succ {behindWord : Bool} {c : Char} {t : Text} {n : Nat}
    (h : keywordLength behindWord (c :: t) = n + 1) :
    escapeKeywordsFrom behindWord 0 (c :: t) = '\\' :: c :: escapeKeywordsFrom (isWord c) n t := by
  rw [escapeKeywordsFrom, h]

section Keywords

variable {picks : Text → Char → Text → Prop} [∀ s c t, Decidable (picks s c t)]
  (hpicks : ∀ s c t, picks s c t → isWord c = false)

include hpicks

/-- No word begins where a backslash is set. -/
lemma beginsWord_escapeWhere (s v : Text) : beginsWord (escapeWhere picks s v) = beginsWord v := by
  cases v with
  | nil => rfl
  | cons c v =>
    rw [escapeWhere]
    split
    · rename_i h
      show isWord '\\' = isWord c
      rw [hpicks s c v h]
      decide
    · rfl

/-- No backslash is set within a word. -/
lemma after?_escapeWhere {word : Text} (hword : ∀ c ∈ word, isWord c = true) (s v : Text) :
    (escapeWhere picks s v).after? word =
      (v.after? word).map (escapeWhere picks (s ++ word)) := by
  induction word generalizing s v with
  | nil => simp [Text.after?]
  | cons d word ih =>
    have hd : isWord d = true := hword d (.head _)
    cases v with
    | nil => rfl
    | cons c v =>
      have ih := ih (fun e he => hword e (.tail _ he)) (s ++ [c]) v
      rw [escapeWhere]
      split
      · rename_i h
        have hslash : d ≠ '\\' := by
          rintro rfl
          revert hd
          decide
        have hdc : d ≠ c := by
          rintro rfl
          rw [hpicks s d v h] at hd
          cases hd
        simp [Text.after?, hslash, hdc]
      · by_cases hdc : d = c
        · subst hdc
          simpa [Text.after?] using ih
        · simp [Text.after?, hdc]

/-- The keywords are found as in the text without the backslashes. -/
lemma keywordLength_escapeWhere (behindWord : Bool) (s v : Text) :
    keywordLength behindWord (escapeWhere picks s v) = keywordLength behindWord v := by
  have hbegins : ∀ word ∈ keywords,
      beginsWith word (escapeWhere picks s v) = beginsWith word v := by
    intro word hword
    rw [beginsWith, after?_escapeWhere hpicks (fun _ => isWord_of_mem_keyword hword), beginsWith]
    cases v.after? word with
    | none => rfl
    | some t => exact congrArg (! ·) (beginsWord_escapeWhere hpicks _ t)
  rw [keywordLength, keywordLength, List.find?_congr hbegins]

/-- The third pass escapes the keywords of the value, from a place on where it knows how many letters
of a keyword are left. -/
lemma escapeKeywordsFrom_escapeWhere {n : Nat} {s v : Text} (hleft : LettersLeft s v n) :
    escapeKeywordsFrom (endsWord s) n (escapeWhere picks s v) =
      escapeWhere (fun s c t => picks s c t ∨ InKeyword s c t) s v := by
  induction v generalizing n s with
  | nil => rfl
  | cons c v ih =>
    have ih {n : Nat} (h : LettersLeft (s ++ [c]) v n) :
        escapeKeywordsFrom (isWord c) n (escapeWhere picks (s ++ [c]) v) = _ :=
      endsWord_concat s c ▸ ih h
    have hlength := keywordLength_escapeWhere hpicks (endsWord s) s (c :: v)
    rw [escapeWhere] at hlength
    rw [escapeWhere, escapeWhere]
    by_cases hc : picks s c v
    · -- A character that has its backslash from an earlier pass belongs to no keyword.
      have hword := hpicks s c v hc
      have hkeyword : ¬ InKeyword s c v := fun h => by simp [isWord_of_inKeyword h] at hword
      rw [if_pos hc] at hlength ⊢
      rw [if_pos (.inl hc), ← ih (.of_not_inKeyword hkeyword)]
      cases n with
      | succ n => exact absurd hleft.letter.1 hkeyword
      | zero =>
        rw [escapeKeywordsFrom_of_zero (keywordLength_of_not_isWord (by decide) _ _),
          escapeKeywordsFrom_of_zero (keywordLength_of_not_isWord hword _ _)]
    · rw [if_neg hc] at hlength ⊢
      cases n with
      | succ n =>
        have ⟨hkeyword, hrest⟩ := hleft.letter
        rw [if_pos (.inr hkeyword), ← ih hrest]
        rfl
      | zero =>
        cases hfound : keywordLength (endsWord s) (c :: v) with
        | succ n =>
          have ⟨hkeyword, hrest⟩ := (LettersLeft.of_keywordLength hfound).letter
          rw [if_pos (.inr hkeyword), ← ih hrest,
            escapeKeywordsFrom_of_succ (hlength.trans hfound)]
        | zero =>
          have hkeyword := hleft.not_inKeyword hfound
          rw [if_neg (not_or_intro hc hkeyword), ← ih (.of_not_inKeyword hkeyword),
            escapeKeywordsFrom_of_zero (hlength.trans hfound)]

end Keywords

/-- A value that is not empty has a term. -/
lemma escape?_eq_some {v : Text} (hv : v ≠ []) : escape? v = some (escape v) := by
  cases v with
  | nil => exact absurd rfl hv
  | cons c v => rfl

/-- The three passes set the backslashes that the value itself asks for. -/
lemma escape_eq_escapeWhere (v : Text) : escape v = escapeWhere IsEscaped [] v := by
  have hpairs : escapePairs (escapeReserved v) =
      escapeWhere (fun s c t => needsEscape c = true ∨ OpensPair s c t) [] v :=
    escapePairs_escapeReserved [] v fun _ _ _ => Even.zero
  have hwords (s : Text) (c : Char) (t : Text) :
      needsEscape c = true ∨ OpensPair s c t → isWord c = false := by
    rintro (h | h)
    · exact isWord_of_needsEscape h
    · exact isWord_of_isPairChar h.1
  have hstart : LettersLeft [] v 0 := by
    refine .outside fun a l r b hs _ hl _ _ => hl ?_
    exact (List.append_eq_nil_iff.1 hs.symm).2
  have hkeywords : escapeKeywords (escapePairs (escapeReserved v)) =
      escapeWhere (fun s c t => (needsEscape c = true ∨ OpensPair s c t) ∨ InKeyword s c t) [] v := by
    rw [hpairs]
    exact escapeKeywordsFrom_escapeWhere hwords hstart
  have hpasses := hkeywords.trans (escapeWhere_congr (fun _ _ _ => or_assoc) [] v)
  -- The empty value is escaped on its own, without the passes.
  cases v with
  | nil => rfl
  | cons c v => exact hpasses

/-- Escaping sets one backslash before each character that is escaped by what the value itself holds
around it, and changes nothing else. -/
theorem escape?_eq_escapeWhere {v : Text} (hv : v ≠ []) :
    escape? v = some (escapeWhere IsEscaped [] v) := by
  rw [escape?_eq_some hv, escape_eq_escapeWhere]

/-- A keyword is escaped next to a bar, but not in front of a mark that goes on with its word, and of
three ampersands the first one is escaped. -/
theorem escape?_eq_escapeWhere_marked :
    "a&&&|NOT AND\u0301".toList ≠ [] ∧
      escape? "a&&&|NOT AND\u0301".toList =
        some (escapeWhere IsEscaped [] "a&&&|NOT AND\u0301".toList) ∧
      escapeWhere IsEscaped [] "a&&&|NOT AND\u0301".toList =
        "a\\&&&|\\N\\O\\T\\ AND\u0301".toList :=
  ⟨by decide, escape?_eq_escapeWhere (by decide), by decide +kernel⟩

end SearchGateway.Lucene
