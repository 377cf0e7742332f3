import SearchGateway.Text.Blank

/-!
# Tags

A tag names something between percent brackets, as in `<%= parameter["level"] %>`. The name stands
in double or single quotes and holds no line break; white space is free around the bracketed name
and its quotes. A name may hold its own quote where the rest of a tag does not follow it, so a name
ends at the first quote behind which the tag is complete.
-/

namespace SearchGateway.Tag

/-- The text behind the end of a tag, whose name ended just before. -/
def close? (s : Text) : Option Text := do
  let s ← s.trimStart.after? "]".toList
  s.trimStart.after? "%>".toList

/-- Reads a name up to the first closing quote behind which `tail?` succeeds. -/
def nameUntil? {α : Type} (quote : Char) (tail? : Text → Option α) : Text → Option (Text × α)
  | [] => none
  | c :: r =>
    match if c = quote then tail? r else none with
    | some tail => some ([], tail)
    | none =>
      if c = '\n' then none
      else (nameUntil? quote tail? r).map fun (name, tail) => (c :: name, tail)

/-- The text behind the opening bracket of a tag for a given word. -/
def open? (word s : Text) : Option Text := do
  let s ← s.after? "<%=".toList
  let s ← s.trimStart.after? word
  s.after? "[".toList

/-- Reads a tag for a given word whose name is followed by what `tail?` accepts. -/
def readWith? {α : Type} (word : Text) (tail? : Text → Option α) (s : Text) : Option (Text × α) :=
  match (open? word s).map Text.trimStart with
  | some ('"' :: r) => nameUntil? '"' tail? r
  | some ('\'' :: r) => nameUntil? '\'' tail? r
  | _ => none

/-- Reads a tag for a given word: its name, and the text behind it. -/
def read? (word s : Text) : Option (Text × Text) :=
  readWith? word close? s

/-- What stands behind a head is shorter than the text. -/
theorem length_lt_of_after? {head s r : Text} (h : s.after? head = some r) (ne : head ≠ []) :
    r.length < s.length := by
  have pos := List.length_pos_iff.2 ne
  have eq := congrArg List.length (Text.eq_append_of_after? h)
  rw [List.length_append] at eq
  omega

/-- What stands behind the end of a tag is shorter than the text. -/
theorem length_lt_of_close? {s r : Text} (h : close? s = some r) : r.length < s.length := by
  obtain ⟨t, ht, h⟩ := Option.bind_eq_some_iff.1 h
  have h₁ := length_lt_of_after? ht (by decide)
  have h₂ := length_lt_of_after? h (by decide)
  have h₃ := s.length_trimStart_le
  have h₄ := t.length_trimStart_le
  omega

/-- What stands behind a name and the end of a tag is shorter than the text. -/
theorem length_lt_of_nameUntil? {quote : Char} {s name r : Text}
    (h : nameUntil? quote close? s = some (name, r)) : r.length < s.length := by
  induction s generalizing name with
  | nil => simp [nameUntil?] at h
  | cons c s ih =>
    unfold nameUntil? at h
    split at h
    · rename_i tail ht
      split at ht
      · have := length_lt_of_close? ht
        simp only [Option.some.injEq, Prod.mk.injEq] at h
        obtain ⟨_, rfl⟩ := h
        simp only [List.length_cons]
        omega
      · simp at ht
    · split at h
      · simp at h
      · obtain ⟨⟨name', r'⟩, hr, he⟩ := Option.map_eq_some_iff.1 h
        simp only [Prod.mk.injEq] at he
        obtain ⟨_, rfl⟩ := he
        have := ih hr
        simp only [List.length_cons]
        omega

/-- A tag takes at least one character, so what is behind it is shorter. -/
theorem length_lt_of_read? {word s name r : Text} (h : read? word s = some (name, r)) :
    r.length < s.length := by
  have key (t : Text) (quote : Char) (u : Text) (ho : (open? word s).map Text.trimStart = some t)
      (ht : t = quote :: u) (hn : nameUntil? quote close? u = some (name, r)) :
      r.length < s.length := by
    obtain ⟨v, hv, hvt⟩ := Option.map_eq_some_iff.1 ho
    obtain ⟨a, ha, hv⟩ := Option.bind_eq_some_iff.1 hv
    obtain ⟨b, hb, hv⟩ := Option.bind_eq_some_iff.1 hv
    have h₁ := length_lt_of_after? ha (by decide)
    have h₂ := length_lt_of_after? hv (by decide)
    have h₃ := a.length_trimStart_le
    have h₄ := v.length_trimStart_le
    have h₅ := length_lt_of_nameUntil? hn
    have h₆ := congrArg List.length (Text.eq_append_of_after? hb)
    rw [List.length_append] at h₆
    rw [hvt, ht] at h₄
    simp only [List.length_cons] at h₄
    omega
  unfold read? readWith? at h
  split at h
  · rename_i u ho
    exact key _ _ u ho rfl h
  · rename_i u ho
    exact key _ _ u ho rfl h
  · simp at h

end SearchGateway.Tag
