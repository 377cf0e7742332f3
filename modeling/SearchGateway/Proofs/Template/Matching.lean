import SearchGateway.Proofs.Template.Occurrence

/-!
# How tags are matched

Tags are looked for from left to right. Where tags begin, the one with the shortest name is taken,
and the search goes on behind it; a character at which none begins is left alone. Reading a text
does just this: it takes a tag exactly where that tag has the shortest name
(`readReference?_text_append_iff`). So every text has a match (`exists_matched`), and normalization
keeps what a match leaves alone (`Matched.normalize_source`).
-/

namespace SearchGateway

/-- A name ends at the first quote behind which the text goes on as asked, so it is not longer than
any other text in front of such a quote. -/
lemma Tag.length_le_of_nameUntil? {α : Type} {quote : Char} {tail? : Text → Option α}
    {name name' rest : Text} {tail : α}
    (h : nameUntil? quote tail? (name' ++ quote :: rest) = some (name, tail))
    (hrest : (tail? rest).isSome) : name.length ≤ name'.length := by
  induction name' generalizing name with
  | nil =>
    obtain ⟨tail', ht⟩ := Option.isSome_iff_exists.1 hrest
    rw [List.nil_append, nameUntil?, if_pos rfl, ht] at h
    cases h
    exact Nat.le_refl 0
  | cons c name' ih =>
    rw [List.cons_append, nameUntil?] at h
    split at h
    · cases h
      exact Nat.zero_le _
    · split at h
      · cases h
      · obtain ⟨⟨n, t⟩, hn, he⟩ := Option.map_eq_some_iff.1 h
        cases he
        exact Nat.succ_le_succ (ih hn)

namespace Template

/-- A tag for a parameter as it stands in a text, where its name may hold its own quote. -/
structure WrittenTag where
  spelling : Tag.Spelling
  name : Text
  name_line : '\n' ∉ name

namespace WrittenTag

variable {tag : WrittenTag} {s rest : Text}

/-- The tag as it is written. -/
def text (tag : WrittenTag) : Text :=
  tag.spelling.text "parameter".toList tag.name

/-- Whether no tag that begins at the same place has a shorter name. -/
def IsShortest (tag : WrittenTag) (rest : Text) : Prop :=
  ∀ (tag' : WrittenTag) (rest' : Text), tag.text ++ rest = tag'.text ++ rest' →
    tag.name.length ≤ tag'.name.length

/-- A tag that is read is written there. -/
lemma exists_of_readReference? {name : Text} (h : readReference? s = some (name, rest)) :
    ∃ tag : WrittenTag, tag.name = name ∧ s = tag.text ++ rest := by
  obtain ⟨hline, sp, hs⟩ := Tag.exists_spelling_of_read? h
  exact ⟨⟨sp, name, hline⟩, rfl, hs⟩

/-- Where a tag is written, one is read. -/
lemma isSome_readReference? (tag : WrittenTag) (rest : Text) :
    (readReference? (tag.text ++ rest)).isSome :=
  Tag.isSome_read?_text_append tag.spelling rest isBlank_head_parameter tag.name_line

/-- No tag is read exactly where none is written. -/
lemma readReference?_eq_none_iff :
    readReference? s = none ↔ ∀ (tag : WrittenTag) (rest : Text), s ≠ tag.text ++ rest := by
  constructor
  · rintro h tag rest rfl
    have hsome := tag.isSome_readReference? rest
    rw [h] at hsome
    cases hsome
  · intro h
    refine Option.eq_none_iff_forall_ne_some.2 fun ⟨name, rest⟩ hread => ?_
    obtain ⟨tag, _, hs⟩ := exists_of_readReference? hread
    exact h tag rest hs

/-- The name that is read is not longer than that of any tag that is written there. -/
lemma length_le_of_readReference? {x : Text × Text}
    (h : readReference? (tag.text ++ rest) = some x) : x.1.length ≤ tag.name.length := by
  unfold readReference? text at h
  rw [Tag.read?_text_append tag.spelling _ _ isBlank_head_parameter] at h
  exact Tag.length_le_of_nameUntil? h (by rw [Tag.close?_closing]; rfl)

/-- A tag is read up to its end exactly where it has the shortest name. -/
lemma readReference?_text_append_iff :
    readReference? (tag.text ++ rest) = some (tag.name, rest) ↔ tag.IsShortest rest := by
  constructor
  · intro h tag' rest' heq
    rw [heq] at h
    exact length_le_of_readReference? h
  · intro h
    obtain ⟨⟨name, rest'⟩, hread⟩ := Option.isSome_iff_exists.1 (tag.isSome_readReference? rest)
    obtain ⟨tag', rfl, heq⟩ := exists_of_readReference? hread
    have hlength := Nat.le_antisymm (h tag' rest' heq) (length_le_of_readReference? hread)
    -- Both names end at a quote, and they are equally long, so they end at the same one.
    have hname := hread
    unfold readReference? text at hname
    rw [Tag.read?_text_append tag.spelling _ _ isBlank_head_parameter] at hname
    obtain ⟨_, r, hr, hclose⟩ := Tag.exists_of_nameUntil? hname
    obtain ⟨hnames, hbehind⟩ := List.append_inj hr hlength
    obtain ⟨_, rfl⟩ := List.cons.inj hbehind
    rw [Tag.close?_closing] at hclose
    rw [hread, hnames, Option.some.inj hclose]

end WrittenTag

/-- A part of a text that was searched for tags. -/
inductive Part where
  /-- A character outside of all tags. -/
  | outside (c : Char)
  /-- A tag. -/
  | inside (tag : WrittenTag)

namespace Part

/-- The part as it is written. -/
def source : Part → Text
  | outside c => [c]
  | inside tag => tag.text

/-- The part with its tag in the canonical form. -/
def normal : Part → Text
  | outside c => [c]
  | inside tag => "<%= parameter['".toList ++ tag.name ++ "'] %>".toList

/-- The part as it is read. -/
def piece : Part → Piece
  | outside c => .literal c
  | inside tag => .reference tag.name

end Part

/-- Whether parts are what the search for tags makes of the text that they are written as: it leaves
a character outside where no tag begins, and else takes the tag with the shortest name. -/
inductive Matched : List Part → Prop
  | nil : Matched []
  | outside {c : Char} {parts : List Part}
    (hnone : ∀ (tag : WrittenTag) (rest : Text), c :: parts.flatMap Part.source ≠ tag.text ++ rest)
    (hparts : Matched parts) : Matched (.outside c :: parts)
  | inside {tag : WrittenTag} {parts : List Part}
    (hshort : tag.IsShortest (parts.flatMap Part.source)) (hparts : Matched parts) :
    Matched (.inside tag :: parts)

namespace Matched

variable {parts : List Part}

/-- A text is read as the parts that the search for tags finds. -/
lemma pieces_source (h : Matched parts) :
    pieces (parts.flatMap Part.source) = parts.map Part.piece := by
  induction h with
  | nil => exact pieces_nil
  | outside hnone _ ih =>
    rw [List.flatMap_cons, List.map_cons, ← ih]
    exact pieces_cons (WrittenTag.readReference?_eq_none_iff.2 hnone)
  | inside hshort _ ih =>
    rw [List.flatMap_cons, List.map_cons, ← ih]
    exact pieces_of_readReference? (WrittenTag.readReference?_text_append_iff.2 hshort)

/-- Normalization keeps every character outside of the tags, in order, and writes the tags between
them in their canonical form. -/
lemma normalize_source (h : Matched parts) :
    normalize (parts.flatMap Part.source) = parts.flatMap Part.normal := by
  unfold normalize
  rw [h.pieces_source, List.flatMap_map]
  congr 1
  funext part
  cases part <;> rfl

end Matched

/-- Every text falls apart into what the search for tags finds and what it leaves alone. -/
lemma exists_matched (s : Text) : ∃ parts, Matched parts ∧ parts.flatMap Part.source = s := by
  fun_induction pieces s with
  | case1 s name rest h ih =>
    obtain ⟨parts, hparts, rfl⟩ := ih
    obtain ⟨tag, rfl, rfl⟩ := WrittenTag.exists_of_readReference? h
    have hshort := WrittenTag.readReference?_text_append_iff.1 h
    exact ⟨.inside tag :: parts, .inside hshort hparts, rfl⟩
  | case2 => exact ⟨[], .nil, rfl⟩
  | case3 c r h ih =>
    obtain ⟨parts, hparts, rfl⟩ := ih
    have hnone := WrittenTag.readReference?_eq_none_iff.1 h
    exact ⟨.outside c :: parts, .outside hnone hparts, rfl⟩

end Template

end SearchGateway
