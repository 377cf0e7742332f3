import SearchGateway.Proofs.Template.Spelling
import SearchGateway.Template.Basic

/-!
# Outlines of templates

An outline gives a template as chunks of literal text with tags between them. Reading the text of an
outline finds exactly its chunks and tags (`pieces_text`), so substitution puts a value in the place
of each tag, keeps the chunks and reads nothing twice (`substitute_eq_fill`), and the canonical text
of an outline reads like the outline (`pieces_normalize`).
-/

namespace SearchGateway.Template

/-- A text in which no tag begins. -/
def TagFree (s : Text) : Prop :=
  ¬ "<%=".toList <:+: s

instance (s : Text) : Decidable (TagFree s) :=
  inferInstanceAs (Decidable (¬ _))

/-- The empty text is free of tags. -/
lemma tagFree_nil : TagFree [] := by
  decide

/-- A text is free of tags where none begins with its first character or behind it. -/
lemma tagFree_cons {c : Char} {s : Text} :
    TagFree (c :: s) ↔ ¬ "<%=".toList <+: c :: s ∧ TagFree s := by
  unfold TagFree
  rw [List.infix_cons_iff, not_or]

/-- Characters that begin no tag may stand in front of a text that is free of tags. -/
lemma TagFree.append {b s : Text} (hb : '<' ∉ b) (hs : TagFree s) : TagFree (b ++ s) := by
  induction b with
  | nil => exact hs
  | cons c b ih =>
    obtain ⟨hc, hb⟩ := List.ne_and_not_mem_of_not_mem_cons hb
    refine tagFree_cons.2 ⟨?_, ih hb⟩
    rintro ⟨t, ht⟩
    exact hc (List.cons.inj ht).1

/-- A text without an angle bracket is free of tags. -/
lemma tagFree_of_no_angle {s : Text} (h : '<' ∉ s) : TagFree s := by
  simpa using tagFree_nil.append h

/-- A text that does not go on with the second or third character of a tag. -/
def Apart (rest : Text) : Prop :=
  rest.head? ≠ some '%' ∧ rest.head? ≠ some '='

/-- The end of the text stands apart. -/
lemma apart_nil : Apart [] := by
  exact ⟨nofun, nofun⟩

/-- A text that begins with another character stands apart. -/
lemma apart_cons {c : Char} (h₁ : c ≠ '%') (h₂ : c ≠ '=') (s : Text) : Apart (c :: s) := by
  exact ⟨by simpa using h₁, by simpa using h₂⟩

/-- The end of the text is no tag. -/
lemma readReference?_nil : readReference? [] = none := by
  rfl

/-- A tag that is read becomes a reference. -/
lemma pieces_of_readReference? {s name rest : Text} (h : readReference? s = some (name, rest)) :
    pieces s = .reference name :: pieces rest := by
  rw [pieces]
  split
  · rename_i h'
    rw [h] at h'
    simp only [Option.some.injEq, Prod.mk.injEq] at h'
    rw [h'.1, h'.2]
  · rename_i h'
    simp [h] at h'

/-- The end of the text has no pieces. -/
lemma pieces_nil : pieces [] = [] := by
  rw [pieces]
  split
  · rename_i h
    simp [readReference?_nil] at h
  · rfl

/-- A character at which no tag is read stands for itself. -/
lemma pieces_cons {c : Char} {s : Text} (h : readReference? (c :: s) = none) :
    pieces (c :: s) = .literal c :: pieces s := by
  rw [pieces]
  split
  · rename_i h'
    simp [h] at h'
  · rfl

/-- The end of the text is its own canonical form. -/
lemma normalize_nil : normalize [] = [] := by
  unfold normalize
  rw [pieces_nil, List.flatMap_nil]

/-- Normalization spells a tag canonically and goes on behind it. -/
lemma normalize_of_readReference? {s name rest : Text}
    (h : readReference? s = some (name, rest)) :
    normalize s = (Piece.reference name).text ++ normalize rest := by
  unfold normalize
  rw [pieces_of_readReference? h, List.flatMap_cons]

/-- Normalization keeps a character at which no tag is read. -/
lemma normalize_cons {c : Char} {s : Text} (h : readReference? (c :: s) = none) :
    normalize (c :: s) = c :: normalize s := by
  unfold normalize
  rw [pieces_cons h, List.flatMap_cons]
  rfl

/-- A text that does not begin like a tag is not read as one. -/
lemma readReference?_eq_none {s : Text} (h : s.after? "<%=".toList = none) :
    readReference? s = none := by
  unfold readReference? Tag.read? Tag.readWith? Tag.open?
  rw [h]
  rfl

/-- The characters of a text without tags stand for themselves. -/
lemma pieces_append_of_tagFree {s rest : Text} (h : TagFree s) (ha : Apart rest) :
    pieces (s ++ rest) = s.map .literal ++ pieces rest := by
  induction s with
  | nil => rfl
  | cons c s ih =>
    have hs : TagFree s := fun hi => h (hi.trans (List.suffix_cons c s).isInfix)
    have hr : readReference? (c :: (s ++ rest)) = none := by
      apply readReference?_eq_none
      by_contra hne
      obtain ⟨r, hr⟩ := Option.ne_none_iff_exists'.1 hne
      have he : c :: (s ++ rest) = '<' :: '%' :: '=' :: r := Text.eq_append_of_after? hr
      simp only [List.cons.injEq] at he
      -- The beginning of the tag would have to reach beyond the chunk.
      match s, he with
      | [], he => exact ha.1 (by rw [show rest = _ from he.2]; rfl)
      | [d], he =>
        simp only [List.cons_append, List.nil_append, List.cons.injEq] at he
        exact ha.2 (by rw [he.2.2]; rfl)
      | d :: d' :: t, he =>
        simp only [List.cons_append, List.cons.injEq] at he
        exact h ⟨[], t, by simp [he.1, he.2.1, he.2.2.1]⟩
    rw [List.cons_append, pieces_cons hr, ih hs]
    rfl

/-- The canonical form of a reference is a tag in its canonical spelling. -/
lemma text_reference (name : Text) :
    (Piece.reference name).text = Tag.Spelling.canonical.text "parameter".toList name := by
  unfold Tag.Spelling.text Tag.Spelling.canonical Tag.Spelling.closing Piece.text
  simp only [List.append_assoc]
  rfl

/-- The word of a reference does not begin with white space. -/
lemma isBlank_head_parameter : ∀ c ∈ "parameter".toList.head?, isBlank c = false := by
  rintro c ⟨⟩
  decide

/-- A tag in a template: its spelling and its name. -/
structure Slot where
  spelling : Tag.Spelling
  name : Text
  name_quote : spelling.quote ∉ name
  name_line : '\n' ∉ name

namespace Slot

/-- The tag as it is written. -/
def text (slot : Slot) : Text :=
  slot.spelling.text "parameter".toList slot.name

/-- The tag for a name in its canonical spelling. -/
def ofName (name : Text) (hquote : '\'' ∉ name) (hline : '\n' ∉ name) : Slot :=
  ⟨.canonical, name, hquote, hline⟩

/-- The tag for a name is the text of a reference. -/
lemma text_ofName {name : Text} (hquote : '\'' ∉ name) (hline : '\n' ∉ name) :
    (ofName name hquote hline).text = (Piece.reference name).text := by
  exact (text_reference name).symm

/-- The tag in its canonical spelling, where its name allows that. -/
def canonical (slot : Slot) : Slot :=
  if h : '\'' ∈ slot.name then slot else ofName slot.name h slot.name_line

/-- The canonical spelling keeps the name. -/
lemma name_canonical (slot : Slot) : slot.canonical.name = slot.name := by
  unfold canonical
  split <;> rfl

/-- The canonical spelling of a tag in its canonical spelling is the tag. -/
lemma canonical_ofName {name : Text} (hquote : '\'' ∉ name) (hline : '\n' ∉ name) :
    (ofName name hquote hline).canonical = ofName name hquote hline := by
  exact dif_neg hquote

/-- The canonical spelling is the text of a reference. -/
lemma text_canonical (slot : Slot) (h : '\'' ∉ slot.name) :
    slot.canonical.text = (Piece.reference slot.name).text := by
  have hc : slot.canonical = ofName slot.name h slot.name_line := dif_neg h
  rw [hc, text_ofName]

/-- A tag is read as a reference to its parameter. -/
lemma pieces_text_append (slot : Slot) (rest : Text) :
    pieces (slot.text ++ rest) = .reference slot.name :: pieces rest := by
  apply pieces_of_readReference?
  exact Tag.read?_spelled slot.spelling rest isBlank_head_parameter slot.name_quote slot.name_line

/-- A tag stands apart from the chunk in front of it. -/
lemma apart_text_append (slot : Slot) (rest : Text) : Apart (slot.text ++ rest) := by
  exact apart_cons (by decide) (by decide) _

end Slot

/-- Literal text between the tags of a template. -/
structure Chunk where
  text : Text
  tagFree : TagFree text

/-- A template as chunks with tags between them. -/
structure Outline where
  head : Chunk
  tail : List (Slot × Chunk)

namespace Outline

/-- The text that results when each tag gives way to a text. -/
def fillBy (value : Slot → Text) (o : Outline) : Text :=
  o.head.text ++ o.tail.flatMap fun p => value p.1 ++ p.2.text

/-- The text that results when each tag gives way to a text for its name. -/
def fill (value : Text → Text) (o : Outline) : Text :=
  o.fillBy fun slot => value slot.name

/-- The text of a template. -/
def text (o : Outline) : Text :=
  o.fillBy Slot.text

/-- The names of the parameters, in order of appearance. -/
def names (o : Outline) : List Text :=
  o.tail.map fun p => p.1.name

/-- The chunks, in order. -/
def chunks (o : Outline) : List Text :=
  o.head.text :: o.tail.map fun p => p.2.text

/-- A template with one tag. -/
def single (head : Chunk) (slot : Slot) (last : Chunk) : Outline :=
  ⟨head, [(slot, last)]⟩

/-- A filled template with one tag. -/
lemma fillBy_single (value : Slot → Text) (head : Chunk) (slot : Slot) (last : Chunk) :
    (single head slot last).fillBy value = head.text ++ (value slot ++ last.text) := by
  simp [fillBy, single]

/-- Filling depends only on the texts for the names that there are. -/
lemma fill_congr {o : Outline} {value value' : Text → Text}
    (h : ∀ name ∈ o.names, value name = value' name) : o.fill value = o.fill value' := by
  unfold fill fillBy
  rw [List.flatMap_def, List.flatMap_def]
  congr 2
  apply List.map_congr_left
  intro p hp
  exact congrArg (· ++ p.2.text) (h p.1.name (List.mem_map.2 ⟨p, hp, rfl⟩))

/-- Filling depends on the chunks and the names only. -/
lemma fill_eq_of_chunks_of_names {o o' : Outline} (hchunks : o.chunks = o'.chunks)
    (hnames : o.names = o'.names) (value : Text → Text) : o.fill value = o'.fill value := by
  have h (o : Outline) : o.fill value = o.head.text ++ (List.zipWith
      (fun name chunk => value name ++ chunk) o.names (o.tail.map fun p => p.2.text)).flatten := by
    unfold fill fillBy names
    rw [List.zipWith_map, List.zipWith_self, List.flatMap_def]
  obtain ⟨hhead, htail⟩ := List.cons.inj hchunks
  rw [h o, h o', hnames, hhead, htail]

/-- The pieces of a template. -/
def pieces (o : Outline) : List Piece :=
  o.head.text.map .literal ++ o.tail.flatMap fun p =>
    .reference p.1.name :: p.2.text.map .literal

/-- The outline with all its tags in their canonical spelling. -/
def canonical (o : Outline) : Outline :=
  ⟨o.head, o.tail.map fun p => (p.1.canonical, p.2)⟩

end Outline

/-- Tags and chunks read as references and characters. -/
lemma pieces_tail_append (tail : List (Slot × Chunk)) {rest : Text} (ha : Apart rest) :
    pieces ((tail.flatMap fun p => p.1.text ++ p.2.text) ++ rest) =
        (tail.flatMap fun p => .reference p.1.name :: p.2.text.map .literal) ++ pieces rest ∧
      Apart ((tail.flatMap fun p => p.1.text ++ p.2.text) ++ rest) := by
  induction tail with
  | nil => exact ⟨rfl, ha⟩
  | cons p tail ih =>
    obtain ⟨slot, chunk⟩ := p
    have ⟨hp, hr⟩ := ih
    simp only [List.flatMap_cons, List.append_assoc, List.cons_append]
    refine ⟨?_, slot.apart_text_append _⟩
    rw [slot.pieces_text_append, pieces_append_of_tagFree chunk.tagFree hr, hp]

/-- The text of an outline reads as its chunks and tags, whatever stands behind it. -/
lemma pieces_text_append (o : Outline) {rest : Text} (ha : Apart rest) :
    pieces (o.text ++ rest) = o.pieces ++ pieces rest := by
  have ⟨hp, hr⟩ := pieces_tail_append o.tail ha
  unfold Outline.text Outline.fillBy Outline.pieces
  rw [List.append_assoc, pieces_append_of_tagFree o.head.tagFree hr, hp, List.append_assoc]

/-- The text of an outline reads as its chunks and tags. -/
lemma pieces_text (o : Outline) : pieces o.text = o.pieces := by
  have h := pieces_text_append o apart_nil
  rwa [List.append_nil, pieces_nil, List.append_nil] at h

/-- Characters that stand for themselves reference nothing. -/
lemma filterMap_name?_literal (s : Text) : (s.map Piece.literal).filterMap Piece.name? = [] := by
  rw [List.filterMap_map]
  exact List.filterMap_eq_nil_iff.2 fun _ _ => rfl

/-- The text of an outline references its names, in order. -/
lemma names_text (o : Outline) : names o.text = o.names := by
  obtain ⟨head, tail⟩ := o
  have htail : (tail.flatMap fun p => Piece.reference p.1.name :: p.2.text.map .literal).filterMap
      Piece.name? = tail.map fun p => p.1.name := by
    induction tail with
    | nil => rfl
    | cons p tail ih =>
      rw [List.flatMap_cons, List.filterMap_append, ih]
      show p.1.name :: (p.2.text.map Piece.literal).filterMap Piece.name? ++ _ = _
      rw [filterMap_name?_literal]
      rfl
  show (pieces (Outline.text ⟨head, tail⟩)).filterMap Piece.name? = _
  rw [pieces_text]
  show (head.text.map Piece.literal ++ _).filterMap Piece.name? = _
  rw [List.filterMap_append, filterMap_name?_literal, htail]
  rfl

/-- The canonical spelling keeps the pieces. -/
lemma pieces_canonical (o : Outline) : o.canonical.pieces = o.pieces := by
  simp [Outline.pieces, Outline.canonical, List.flatMap_map, Slot.name_canonical]

/-- Characters that stand for themselves are their own canonical text. -/
lemma flatMap_text_literal (s : Text) : (s.map Piece.literal).flatMap Piece.text = s := by
  induction s with
  | nil => rfl
  | cons c s ih =>
    rw [List.map_cons, List.flatMap_cons, ih]
    rfl

/-- A text without tags has no references. -/
lemma pieces_of_tagFree {s : Text} (h : TagFree s) : pieces s = s.map .literal := by
  have hpieces := pieces_append_of_tagFree h apart_nil
  rwa [List.append_nil, pieces_nil, List.append_nil] at hpieces

/-- A text whose characters all stand for themselves is its own canonical form. -/
lemma normalize_of_literal {s : Text} (h : pieces s = s.map .literal) : normalize s = s := by
  unfold normalize
  rw [h, flatMap_text_literal]

/-- A text without tags is its own canonical form. -/
lemma normalize_of_tagFree {s : Text} (h : TagFree s) : normalize s = s :=
  normalize_of_literal (pieces_of_tagFree h)

/-- Normalization keeps the chunks and puts the canonical form of a reference in the place of each
tag, however the tag is spelled. -/
lemma normalize_eq_fill (o : Outline) :
    normalize o.text = o.fill fun name => (Piece.reference name).text := by
  unfold normalize
  rw [pieces_text, Outline.pieces, List.flatMap_append, flatMap_text_literal, List.flatMap_assoc]
  unfold Outline.fill Outline.fillBy
  congr 2
  funext p
  rw [List.flatMap_cons, flatMap_text_literal]

/-- Normalization spells all tags canonically, where no name holds a single quote. -/
lemma normalize_text (o : Outline) (h : ∀ name ∈ o.names, '\'' ∉ name) :
    normalize o.text = o.canonical.text := by
  rw [normalize_eq_fill]
  unfold Outline.text Outline.fill Outline.fillBy Outline.canonical
  rw [List.flatMap_map, List.flatMap_def, List.flatMap_def]
  congr 2
  apply List.map_congr_left
  intro p hp
  have hname : '\'' ∉ p.1.name := h p.1.name (List.mem_map.2 ⟨p, hp, rfl⟩)
  exact congrArg (· ++ p.2.text) (p.1.text_canonical hname).symm

/-- The canonical text of an outline reads like the outline. -/
lemma pieces_normalize (o : Outline) (h : ∀ name ∈ o.names, '\'' ∉ name) :
    pieces (normalize o.text) = pieces o.text := by
  rw [normalize_text o h, pieces_text, pieces_canonical, pieces_text]

/-- Pieces expand in the order in which they stand. -/
lemma expand_append (value : Text → Except Error Text) (ps qs : List Piece) :
    expand value (ps ++ qs) =
      (do let s ← expand value ps; let t ← expand value qs; return s ++ t) := by
  induction ps with
  | nil => exact (bind_pure _).symm
  | cons p ps ih =>
    cases p with
    | literal c => simp only [List.cons_append, expand, ih, bind_assoc, pure_bind]
    | reference name =>
      simp only [List.cons_append, expand, ih, bind_assoc, pure_bind, List.append_assoc]

/-- Characters that stand for themselves expand to themselves. -/
lemma expand_literal (value : Text → Except Error Text) (s : Text) :
    expand value (s.map .literal) = .ok s := by
  induction s with
  | nil => rfl
  | cons c s ih =>
    rw [List.map_cons, expand, ih]
    rfl

/-- Pieces that expand to a text put it in front of what stands behind them. -/
lemma expand_append_of_ok {value : Text → Except Error Text} {ps : List Piece} {s : Text}
    (h : expand value ps = .ok s) (qs : List Piece) :
    expand value (ps ++ qs) = (expand value qs).map (s ++ ·) := by
  rw [expand_append, h]
  rfl

/-- A text whose characters all stand for themselves takes no values. -/
lemma substitute_of_literal {s : Text} (h : pieces s = s.map .literal)
    (parameters : Option Parameters) (mode : Mode) : substitute s parameters mode = .ok s := by
  unfold substitute
  rw [h, expand_literal]

/-- A text without tags takes no values. -/
lemma substitute_of_tagFree {s : Text} (h : TagFree s) (parameters : Option Parameters)
    (mode : Mode) : substitute s parameters mode = .ok s :=
  substitute_of_literal (pieces_of_tagFree h) parameters mode

/-- A reference expands to its value. -/
lemma expand_reference {value : Text → Except Error Text} {name v : Text}
    (h : value name = .ok v) (ps : List Piece) :
    expand value (.reference name :: ps) = (expand value ps).map (v ++ ·) := by
  simp only [expand, h]
  cases expand value ps <;> rfl

/-- An expansion that succeeds has a text for every reference. -/
lemma exists_of_expand {value : Text → Except Error Text} {ps : List Piece} {t : Text}
    (h : expand value ps = .ok t) {name : Text} (hn : .reference name ∈ ps) :
    ∃ v, value name = .ok v := by
  induction ps generalizing t with
  | nil => cases hn
  | cons p ps ih =>
    cases p with
    | literal c =>
      cases he : expand value ps with
      | error e => simp [expand, he, bind, Except.bind] at h
      | ok u =>
        cases hn with
        | tail _ hn => exact ih he hn
    | reference name' =>
      cases hv : value name' with
      | error e => simp [expand, hv, bind, Except.bind] at h
      | ok v =>
        cases he : expand value ps with
        | error e => simp [expand, hv, he, bind, Except.bind] at h
        | ok u =>
          cases hn with
          | head => exact ⟨v, hv⟩
          | tail _ hn => exact ih he hn

/-- The value of a parameter, or nothing for one that is not there. -/
def given (parameters : Parameters) (name : Text) : Text :=
  (parameters.get? name).getD []

/-- The transformed value of a parameter that is there. -/
lemma map_valueOf {parameters : Parameters} {name : Text} (mode : Mode)
    (h : (parameters.get? name).isSome) :
    (valueOf (some parameters) name).map mode.apply = .ok (mode.apply (given parameters name)) := by
  obtain ⟨v, hv⟩ := Option.isSome_iff_exists.1 h
  simp [valueOf, given, hv, Except.map]

/-- An outline whose parameters are all there expands to its chunks and their values. -/
lemma expand_pieces (o : Outline) {value : Text → Except Error Text} {v : Text → Text}
    (h : ∀ name ∈ o.names, value name = .ok (v name)) : expand value o.pieces = .ok (o.fill v) := by
  obtain ⟨head, tail⟩ := o
  have ht : expand value (tail.flatMap fun p => .reference p.1.name :: p.2.text.map .literal) =
      .ok (tail.flatMap fun p => v p.1.name ++ p.2.text) := by
    induction tail with
    | nil => rfl
    | cons p tail ih =>
      have ih := ih fun name hn => h name (List.mem_cons_of_mem _ hn)
      rw [List.flatMap_cons, List.flatMap_cons, List.cons_append, expand_reference (h _ (.head _)),
        expand_append_of_ok (expand_literal value _), ih]
      exact congrArg Except.ok (List.append_assoc _ _ _).symm
  unfold Outline.pieces Outline.fill Outline.fillBy
  rw [expand_append_of_ok (expand_literal value _), ht]
  rfl

/-- Substitution keeps the chunks of an outline and puts values in the place of its tags. -/
lemma substitute_text (o : Outline) {parameters : Parameters} (mode : Mode)
    (h : ∀ name ∈ o.names, (parameters.get? name).isSome) :
    substitute o.text (some parameters) mode =
      .ok (o.fill fun name => mode.apply (given parameters name)) := by
  unfold substitute
  rw [pieces_text]
  exact expand_pieces o fun name hn => map_valueOf mode (h name hn)

/-- Substitution keeps the chunks of a template and puts the transformed value of its parameter in the
place of each tag, whatever the value and the text around it would read as together; the names that
the template references are those of its tags, in order. -/
theorem substitute_eq_fill (o : Outline) (mode : Mode) {parameters : Parameters}
    {value : Text → Text} (h : ∀ name ∈ o.names, parameters.get? name = some (value name)) :
    substitute o.text (some parameters) mode = .ok (o.fill fun name => mode.apply (value name)) ∧
      names o.text = o.names := by
  refine ⟨?_, names_text o⟩
  have hgiven : ∀ name ∈ o.names, mode.apply (given parameters name) = mode.apply (value name) := by
    intro name hn
    rw [given, h name hn]
    rfl
  rw [substitute_text o mode fun name hn => by rw [h name hn]; rfl]
  exact congrArg Except.ok (Outline.fill_congr hgiven)

/-- Values that look like tags, or would with the text around them. -/
def tagLikeValues : Parameters :=
  [("p".toList, "%= parameter['p'] %>".toList),
    ("q\"] %>".toList, "<%= parameter['p'] %>".toList)]

/-- A value that completes a tag with the character in front of it is left as it is, and so is one
that holds a tag, also where the name of its parameter holds the end of a tag. -/
theorem substitute_eq_fill_completed :
    ∃ o : Outline, o.text = "<<%=parameter[\"p\"]%>; <%= parameter[ 'q\"] %>' ] %>".toList ∧
      (∀ name ∈ o.names, tagLikeValues.get? name = some (given tagLikeValues name)) ∧
      substitute o.text (some tagLikeValues) .verbatim =
        .ok "<%= parameter['p'] %>; <%= parameter['p'] %>".toList ∧
      names o.text = ["p".toList, "q\"] %>".toList] := by
  let p : Slot :=
    ⟨⟨'"', [], [], [], [], .inl rfl, rfl, rfl, rfl, rfl⟩, ['p'], by decide, by decide⟩
  let q : Slot :=
    ⟨⟨'\'', [' '], [' '], [' '], [' '], .inr rfl, by decide, by decide, by decide, by decide⟩,
      "q\"] %>".toList, by decide, by decide⟩
  let o : Outline := ⟨⟨['<'], by decide⟩, [(p, ⟨"; ".toList, by decide⟩), (q, ⟨[], tagFree_nil⟩)]⟩
  have hgiven : ∀ name ∈ o.names, tagLikeValues.get? name = some (given tagLikeValues name) := by
    decide
  exact ⟨o, rfl, hgiven, substitute_eq_fill o .verbatim hgiven⟩

end SearchGateway.Template
