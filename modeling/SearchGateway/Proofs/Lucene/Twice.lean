import SearchGateway.Proofs.Json.Strings
import SearchGateway.Proofs.Lucene.Reading

/-!
# Values that are escaped twice

How Lucene reads a value that is escaped for Lucene and then for the inside of a JSON string, where
no JSON is read in between. The second pass doubles the backslashes of the first, so the reserved
and blank characters of the value become bare again (`skeleton_escape_escape`), and the value reads
back only where neither pass changes it (`reads_back_iff`).
-/

namespace SearchGateway.Lucene

/-- How Lucene reads a character that is escaped for a JSON string. -/
lemma glyphs_escapeChar (c : Char) :
    isPending (Json.escapeChar c) = false ∧
      ((∃ l, glyphs (Json.escapeChar c) = [.literal l] ∧
          (l = c ∧ (c = '"' ∨ c = '\\') ∨ c.toNat < 32 ∧ 32 ≤ l.toNat)) ∨
        (c.toNat < 32 ∧ glyphs (Json.escapeChar c) =
          [.literal 'u', .bare '0', .bare '0', .bare (Nat.digitChar (c.toNat / 16)),
            .bare (Nat.digitChar (c.toNat % 16))]) ∨
        (Json.isPlain c = true ∧ glyphs (Json.escapeChar c) = [.bare c])) := by
  have plain : ∀ n < 16, Nat.digitChar n ≠ '\\' := by decide
  obtain ⟨l, he, _, _, hl⟩ | ⟨hc, he⟩ | ⟨hp, he⟩ := Json.escapeChar_cases c
  · rw [he]
    exact ⟨rfl, .inl ⟨l, rfl, hl⟩⟩
  · have hhigh := plain (c.toNat / 16) (by omega)
    have hlow := plain (c.toNat % 16) (by omega)
    rw [he]
    refine ⟨?_, .inr (.inl ⟨hc, ?_⟩)⟩
    · simp [isPending, pendingFrom, hhigh, hlow]
    · simp [glyphs, glyphsFrom, hhigh, hlow]
  · have hb : c ≠ '\\' := by
      rintro rfl
      simp [Json.isPlain] at hp
    rw [he]
    refine ⟨?_, .inr (.inr ⟨hp, ?_⟩)⟩
    · simp [isPending, pendingFrom, hb]
    · simp [glyphs, glyphsFrom, hb]

/-- A character that is escaped for a JSON string has a meaning of its own where it stands for
itself and has one. -/
lemma skeleton_escapeChar (c : Char) :
    skeleton (Json.escapeChar c) = if Json.isPlain c && needsEscape c then [c] else [] := by
  have digit : ∀ n < 16, needsEscape (Nat.digitChar n) = false := by decide
  have control (h : c.toNat < 32) : Json.isPlain c = false := by simp [Json.isPlain, h]
  unfold skeleton
  obtain ⟨_, ⟨l, he, hl⟩ | ⟨hc, he⟩ | ⟨hp, he⟩⟩ := glyphs_escapeChar c
  · have hplain : Json.isPlain c = false := by
      obtain ⟨_, rfl | rfl⟩ | ⟨hc, _⟩ := hl
      · rfl
      · rfl
      · exact control hc
    rw [he, hplain]
    rfl
  · have hhigh := digit (c.toNat / 16) (by omega)
    have hlow := digit (c.toNat % 16) (by omega)
    have hzero : needsEscape '0' = false := digit 0 (by decide)
    rw [he, control hc]
    simp [Glyph.isSyntax, hhigh, hlow, hzero]
  · rw [he, hp]
    cases hn : needsEscape c <;> simp [Glyph.isSyntax, Glyph.char, hn]

/-- A character that is escaped for a JSON string stands for at least one character, and for itself
unless it is a control character. -/
lemma unescape_escapeChar (c : Char) :
    1 ≤ (unescape (Json.escapeChar c)).length ∧
      (unescape (Json.escapeChar c) = [c] ↔ 32 ≤ c.toNat) := by
  unfold unescape
  obtain ⟨_, ⟨l, he, hl⟩ | ⟨hc, he⟩ | ⟨hp, he⟩⟩ := glyphs_escapeChar c
  · rw [he]
    refine ⟨Nat.le_refl 1, ?_⟩
    simp only [List.map_cons, List.map_nil, Glyph.char, List.cons.injEq, and_true]
    obtain ⟨rfl, rfl | rfl⟩ | ⟨hc, hl⟩ := hl
    · decide
    · decide
    · refine ⟨?_, fun h => by omega⟩
      rintro rfl
      exact hl
  · rw [he]
    refine ⟨by simp, ?_⟩
    simp only [List.map_cons, List.cons.injEq, reduceCtorEq, and_false, false_iff]
    omega
  · rw [he]
    simp only [Json.isPlain, Bool.and_eq_true, decide_eq_true_eq] at hp
    simp [Glyph.char, hp.2]

/-- Of a text that is escaped for a JSON string the reserved and blank characters are bare, up to
quotes, backslashes and control characters. -/
lemma skeleton_jsonEscape (s : Text) :
    skeleton (Json.escape s) = s.filter fun c => Json.isPlain c && needsEscape c := by
  induction s with
  | nil => rfl
  | cons c s ih =>
    rw [Json.escape_cons, skeleton_append (glyphs_escapeChar c).1, skeleton_escapeChar, ih,
      List.filter_cons]
    cases Json.isPlain c && needsEscape c <;> rfl

/-- A text that is escaped for a JSON string stands for what its characters stand for. -/
lemma unescape_jsonEscape (s : Text) :
    unescape (Json.escape s) = s.flatMap fun c => unescape (Json.escapeChar c) := by
  induction s with
  | nil => rfl
  | cons c s ih =>
    unfold unescape at ih ⊢
    rw [Json.escape_cons, glyphs_append (glyphs_escapeChar c).1, List.map_append, ih,
      List.flatMap_cons]

/-- Reading drops nothing but backslashes. -/
lemma filter_map_glyphsFrom {p : Char → Bool} (hp : p '\\' = false) (e : Bool) (s : Text) :
    ((glyphsFrom e s).map Glyph.char).filter p = s.filter p := by
  induction s generalizing e with
  | nil => rfl
  | cons c s ih =>
    cases e with
    | true => simp [glyphsFrom, Glyph.char, List.filter_cons, ih]
    | false =>
      by_cases hc : c = '\\'
      · simp [glyphsFrom, hc, hp, ih]
      · simp [glyphsFrom, Glyph.char, List.filter_cons, hc, ih]

/-- A text stands for at most as many characters as it has. -/
lemma length_glyphsFrom_le (e : Bool) (s : Text) : (glyphsFrom e s).length ≤ s.length := by
  induction s generalizing e with
  | nil => exact Nat.le_refl 0
  | cons c s ih =>
    cases e with
    | true => simpa [glyphsFrom] using ih false
    | false =>
      by_cases hc : c = '\\'
      · have h := ih true
        simp only [glyphsFrom, hc, Bool.false_eq_true, if_true, if_false, List.length_cons]
        omega
      · simpa [glyphsFrom, hc] using ih false

/-- A text that stands for as many characters as it has, has no backslash. -/
lemma no_backslash_of_length {s : Text} (h : s.length ≤ (unescape s).length) : '\\' ∉ s := by
  unfold unescape glyphs at h
  rw [List.length_map] at h
  induction s with
  | nil => exact List.not_mem_nil
  | cons c s ih =>
    by_cases hc : c = '\\'
    · have hle := length_glyphsFrom_le true s
      simp only [glyphsFrom, hc, Bool.false_eq_true, if_true, if_false, List.length_cons] at h
      omega
    · simp only [glyphsFrom, hc, Bool.false_eq_true, if_false, List.length_cons,
        Nat.add_le_add_iff_right] at h
      exact List.not_mem_cons_of_ne_of_not_mem (Ne.symm hc) (ih h)

section FlatMap

variable {α : Type} {f : α → List α}

/-- Where every item gives way to at least one, a list becomes no shorter. -/
lemma length_le_length_flatMap (hf : ∀ a, 1 ≤ (f a).length) (l : List α) :
    l.length ≤ (l.flatMap f).length := by
  induction l with
  | nil => exact Nat.le_refl 0
  | cons a l ih =>
    have ha := hf a
    rw [List.flatMap_cons, List.length_append, List.length_cons]
    omega

/-- Where every item gives way to at least one, a list stays as it is only if every item gives way
to itself. -/
lemma flatMap_eq_self_iff (hf : ∀ a, 1 ≤ (f a).length) {l : List α} :
    l.flatMap f = l ↔ ∀ a ∈ l, f a = [a] := by
  induction l with
  | nil => exact ⟨fun _ => nofun, fun _ => rfl⟩
  | cons a l ih =>
    rw [List.flatMap_cons, List.forall_mem_cons]
    constructor
    · intro h
      have ha := hf a
      have hl := length_le_length_flatMap hf l
      have hlen := congrArg List.length h
      rw [List.length_append, List.length_cons] at hlen
      obtain ⟨b, hb⟩ := List.length_eq_one_iff.1 (show (f a).length = 1 by omega)
      rw [hb, List.singleton_append, List.cons.injEq] at h
      exact ⟨by rw [hb, h.1], ih.1 h.2⟩
    · rintro ⟨ha, hl⟩
      rw [ha, ih.2 hl]
      rfl

end FlatMap

/-- Of a value that is escaped twice the reserved and blank characters are bare again, up to quotes,
backslashes and control characters. -/
lemma skeleton_escape_escape (v : Text) :
    skeleton (Json.escape (escape v)) = v.filter fun c => Json.isPlain c && needsEscape c := by
  have h :=
    filter_map_glyphsFrom (p := fun c => Json.isPlain c && needsEscape c) rfl false (escape v)
  have hv : (glyphsFrom false (escape v)).map Glyph.char = v := unescape_escape v
  rw [skeleton_jsonEscape, ← h, hv]

/-- A value that escaping does not change has nothing that a backslash would have to make
literal. -/
lemma filter_of_escape_eq_self {v : Text} (h : escape v = v) : v.filter needsEscape = [] := by
  have hback := unescape_escape v
  have hskeleton := skeleton_escape v
  rw [h] at hback hskeleton
  have hb := no_backslash_of_length (Nat.le_of_eq (congrArg List.length hback.symm))
  rwa [skeleton_of_no_backslash hb] at hskeleton

/-- A value that is escaped twice reads back as one literal term exactly where escaping for Lucene
does not change it and it has no control character. -/
lemma reads_back_iff (v : Text) :
    skeleton (Json.escape (escape v)) = [] ∧ unescape (Json.escape (escape v)) = v ↔
      escape v = v ∧ ∀ c ∈ v, 32 ≤ c.toNat := by
  have grows (c : Char) : 1 ≤ (unescape (Json.escapeChar c)).length := (unescape_escapeChar c).1
  rw [unescape_jsonEscape, skeleton_escape_escape]
  constructor
  · rintro ⟨_, h⟩
    -- The second pass adds at least as much as the first one, so neither of them adds anything.
    have hback := unescape_escape v
    have hlen := length_le_length_flatMap grows (escape v)
    rw [h] at hlen
    have hb := no_backslash_of_length (s := escape v) (by rwa [hback])
    have hv : escape v = v := (unescape_of_no_backslash hb).symm.trans hback
    rw [hv, flatMap_eq_self_iff grows] at h
    exact ⟨hv, fun c hc => (unescape_escapeChar c).2.1 (h c hc)⟩
  · rintro ⟨hv, hc⟩
    rw [hv, flatMap_eq_self_iff grows]
    refine ⟨?_, fun c h => (unescape_escapeChar c).2.2 (hc c h)⟩
    rw [← List.filter_filter, filter_of_escape_eq_self hv]
    rfl

end SearchGateway.Lucene
