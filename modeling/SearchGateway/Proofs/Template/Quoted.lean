import SearchGateway.Proofs.Json.Strings
import SearchGateway.Proofs.Template.Outline

/-!
# Templates inside of JSON strings

Escaping a text for a JSON string makes no tag (`tagFree_escape`), so the chunks of an outline can
be escaped around its tags. A text whose tags all stand inside of such strings gives way to another
one string by string (`Expands`), and what stands around the strings stays.
-/

namespace SearchGateway.Template

/-- Where an escaped text begins with another character than a backslash, the character is plain and
the text begins with it. -/
lemma exists_of_escape_eq_cons {s t : Text} {c : Char} (hc : c ≠ '\\')
    (h : Json.escape s = c :: t) : Json.isPlain c = true ∧ ∃ r, s = c :: r ∧ Json.escape r = t := by
  cases s with
  | nil => simp [Json.escape] at h
  | cons d s =>
    rw [Json.escape_cons] at h
    obtain ⟨l, he, _⟩ | ⟨_, he⟩ | ⟨hp, he⟩ := Json.escapeChar_cases d
    · rw [he] at h
      exact absurd (List.cons.inj h).1.symm hc
    · rw [he] at h
      exact absurd (List.cons.inj h).1.symm hc
    · rw [he, List.singleton_append, List.cons.injEq] at h
      exact ⟨h.1 ▸ hp, s, by rw [h.1], h.2⟩

/-- Escaping makes no tag. -/
lemma tagFree_escape {s : Text} (h : TagFree s) : TagFree (Json.escape s) := by
  induction s with
  | nil => exact h
  | cons c s ih =>
    have htail := ih (tagFree_cons.1 h).2
    rw [Json.escape_cons]
    cases hp : Json.isPlain c with
    | false =>
      refine htail.append fun hm => ?_
      obtain hm | ⟨hm, _⟩ := Json.mem_escapeChar hm
      · revert hm
        decide
      · simp [hp] at hm
    | true =>
      rw [Json.escapeChar_of_isPlain hp, List.singleton_append]
      refine tagFree_cons.2 ⟨?_, htail⟩
      rintro ⟨t, ht⟩
      -- No escape begins with the second or third character of a tag, so the tag is in the text.
      obtain ⟨hc, ht⟩ := List.cons.inj ht
      obtain ⟨_, r, hr, ht⟩ := exists_of_escape_eq_cons (by decide) ht.symm
      obtain ⟨_, r', hr', _⟩ := exists_of_escape_eq_cons (by decide) ht
      exact (tagFree_cons.1 h).1 ⟨r', by rw [hr, hr', ← hc]; rfl⟩

/-- A chunk as it stands inside of a JSON string. -/
def Chunk.escape (chunk : Chunk) : Chunk :=
  ⟨Json.escape chunk.text, tagFree_escape chunk.tagFree⟩

/-- An outline as it stands inside of a JSON string, with its tags left as they are. -/
def Outline.escape (o : Outline) : Outline :=
  ⟨o.head.escape, o.tail.map fun p => (p.1, p.2.escape)⟩

/-- Escaping keeps the names. -/
lemma Outline.names_escape (o : Outline) : o.escape.names = o.names := by
  simp [Outline.names, Outline.escape]

/-- Escaping a filled outline is filling the escaped outline with escaped values. -/
lemma Outline.fill_escape (o : Outline) (value : Text → Text) :
    o.escape.fill (fun name => Json.escape (value name)) = Json.escape (o.fill value) := by
  unfold Outline.fill Outline.fillBy Outline.escape
  rw [Json.escape_append, List.flatMap_map]
  congr 1
  unfold Json.escape
  rw [List.flatMap_assoc]
  simp only [List.flatMap_append]
  rfl

/-- A text gives way to another one, whatever stands behind it. -/
def Expands (value : Text → Except Error Text) (s t : Text) : Prop :=
  ∀ rest, expand value (pieces (s ++ rest)) = (expand value (pieces rest)).map (t ++ ·)

section Expands

variable {value : Text → Except Error Text} {s s' t t' : Text}

/-- Two texts give way one after the other. -/
lemma Expands.append (h : Expands value s t) (h' : Expands value s' t') :
    Expands value (s ++ s') (t ++ t') := by
  intro rest
  rw [List.append_assoc, h, h']
  cases expand value (pieces rest) <;> simp [Except.map]

/-- A text in which no tag can begin stays. -/
lemma expands_of_no_angle (h : '<' ∉ s) : Expands value s s := by
  intro rest
  induction s with
  | nil => cases he : expand value (pieces rest) <;> simp [he, Except.map]
  | cons c s ih =>
    obtain ⟨hc, hs⟩ := List.ne_and_not_mem_of_not_mem_cons h
    have hr : readReference? (c :: (s ++ rest)) = none := by
      apply readReference?_eq_none
      simp [Text.after?, hc]
    rw [List.cons_append, pieces_cons hr, expand, ih hs]
    cases expand value (pieces rest) <;> rfl

/-- A string in which an outline stands keeps its quotes. -/
lemma expands_outline (o : Outline) {v : Text → Text}
    (h : ∀ name ∈ o.names, value name = .ok (v name)) :
    Expands value ('"' :: (o.text ++ ['"'])) ('"' :: (o.fill v ++ ['"'])) := by
  intro rest
  have hquote (r : Text) : expand value (pieces ('"' :: r)) =
      (expand value (pieces r)).map ('"' :: ·) := by
    exact expands_of_no_angle (s := ['"']) (by decide) r
  rw [List.cons_append, hquote, List.append_assoc, List.singleton_append,
    pieces_text_append o (apart_cons (by decide) (by decide) rest),
    expand_append_of_ok (expand_pieces o h), hquote]
  cases expand value (pieces rest) <;> simp [Except.map]

/-- A quoted text in which no tag begins stays. -/
lemma expands_quote (h : TagFree s) : Expands value (Json.quote s) (Json.quote s) := by
  have hs : Expands value _ _ :=
    expands_outline (v := id) ⟨⟨Json.escape s, tagFree_escape h⟩, []⟩ nofun
  unfold Outline.text Outline.fill Outline.fillBy at hs
  simpa [Json.quote] using hs

/-- Behind a key in which no tag begins a value gives way as on its own. -/
lemma Expands.member {key : Text} (hk : TagFree key) (h : Expands value s t) :
    Expands value (Json.quote key ++ ':' :: s) (Json.quote key ++ ':' :: t) := by
  have hcolon : Expands value [':'] [':'] := expands_of_no_angle (by decide)
  exact (expands_quote hk).append (hcolon.append h)

end Expands

end SearchGateway.Template
