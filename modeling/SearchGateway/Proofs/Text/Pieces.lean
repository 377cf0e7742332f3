import Mathlib.Tactic.Lemma
import SearchGateway.Text.Basic

/-!
# Pieces of text

Cutting a text at every separator is the splitting of lists, and joining texts is the intercalation
of lists, so cutting undoes joining. Cutting at the first or the last occurrence of a character is
told by what stands around it. In a text of two parts, a character that is not in one of them stands
in the other.
-/

namespace SearchGateway.Text

/-- Cutting at every separator is splitting. -/
lemma pieces_eq_splitOnP (p : Char → Bool) (s : Text) : s.pieces p = s.splitOnP p := by
  induction s with
  | nil => rfl
  | cons c s ih =>
    rw [List.splitOnP_cons_eq_if_modifyHead, pieces, ih]
    cases hs : s.splitOnP p with
    | nil => exact absurd hs (List.splitOnP_ne_nil p s)
    | cons q qs => rfl

/-- A text without separators is one piece. -/
lemma pieces_eq_singleton {p : Char → Bool} {s : Text} (h : ∀ c ∈ s, p c = false) :
    s.pieces p = [s] := by
  rw [pieces_eq_splitOnP, List.splitOnP_eq_singleton h]

/-- The pieces on the two sides of a separator are pieces of their own. -/
lemma pieces_append_cons {p : Char → Bool} {c : Char} (h : p c = true) (s t : Text) :
    pieces p (s ++ c :: t) = s.pieces p ++ t.pieces p := by
  rw [pieces_eq_splitOnP, pieces_eq_splitOnP, pieces_eq_splitOnP, List.splitOnP_append_cons s t h]

/-- No piece holds a separator. -/
lemma separator_not_mem {p : Char → Bool} {s q : Text} (h : q ∈ s.pieces p) :
    ∀ c ∈ q, p c = false := by
  induction s generalizing q with
  | nil =>
    obtain rfl := List.mem_singleton.1 h
    exact List.forall_mem_nil _
  | cons c s ih =>
    unfold pieces at h
    cases hs : pieces p s with
    | nil => exact absurd hs (pieces_eq_splitOnP p s ▸ List.splitOnP_ne_nil p s)
    | cons r rs =>
      simp only [hs] at h ih
      have hr := ih (.head rs)
      by_cases hc : p c = true
      · rw [if_pos hc] at h
        cases h with
        | head => exact List.forall_mem_nil _
        | tail _ h => exact ih h
      · rw [if_neg hc] at h
        cases h with
        | head => exact List.forall_mem_cons.2 ⟨Bool.eq_false_iff.2 hc, hr⟩
        | tail _ h => exact ih (.tail r h)

/-- Separators alone have empty pieces between them. -/
lemma pieces_replicate {p : Char → Bool} {c : Char} (h : p c = true) (n : Nat) :
    pieces p (List.replicate n c) = List.replicate (n + 1) [] := by
  induction n with
  | zero => rfl
  | succ n ih =>
    have hpieces := pieces_append_cons h [] (List.replicate n c)
    rw [ih] at hpieces
    exact hpieces

/-- Joining is intercalation. -/
lemma join_eq_intercalate (separator : Text) (ps : List Text) :
    join separator ps = separator.intercalate ps := by
  induction ps with
  | nil => rfl
  | cons p ps ih =>
    cases ps with
    | nil => simp [join, List.intercalate]
    | cons q qs => rw [join, ih, List.intercalate_cons_cons]

/-- Texts in two groups are joined by the separator between the groups. -/
lemma join_append (separator : Text) {ps qs : List Text} (hps : ps ≠ []) (hqs : qs ≠ []) :
    join separator (ps ++ qs) = join separator ps ++ (separator ++ join separator qs) := by
  induction ps with
  | nil => exact absurd rfl hps
  | cons p ps ih =>
    cases ps with
    | nil =>
      obtain ⟨q, qs, rfl⟩ := List.exists_cons_of_ne_nil hqs
      exact List.append_assoc p separator _
    | cons p' ps =>
      have ih := ih (List.cons_ne_nil p' ps)
      simp only [List.cons_append, join] at ih ⊢
      rw [ih]
      simp only [List.append_assoc]

/-- The characters of a joined text come from the separator or from one of the texts. -/
lemma mem_join {c : Char} {separator : Text} {ps : List Text} (h : c ∈ join separator ps) :
    c ∈ separator ∨ ∃ p ∈ ps, c ∈ p := by
  induction ps with
  | nil => cases h
  | cons p ps ih =>
    cases ps with
    | nil => exact .inr ⟨p, .head _, h⟩
    | cons q qs =>
      rw [join, List.mem_append, List.mem_append] at h
      obtain (hp | hs) | hq := h
      · exact .inr ⟨p, .head _, hp⟩
      · exact .inl hs
      · obtain hs | ⟨r, hr, hc⟩ := ih hq
        · exact .inl hs
        · exact .inr ⟨r, .tail _ hr, hc⟩

/-- The characters of each text stand in the joined text. -/
lemma subset_join {separator p : Text} {ps : List Text} (h : p ∈ ps) : p ⊆ join separator ps := by
  induction ps with
  | nil => cases h
  | cons q ps ih =>
    cases ps with
    | nil =>
      obtain rfl := List.mem_singleton.1 h
      exact List.Subset.refl p
    | cons r rs =>
      rw [join]
      cases h with
      | head => exact fun c hc => List.mem_append_left _ (List.mem_append_left _ hc)
      | tail _ h => exact fun c hc => List.mem_append_right _ (ih h hc)

/-- Cutting undoes joining where no text holds the separator. -/
lemma splitAt_join {c : Char} {ps : List Text} (h : ∀ p ∈ ps, c ∉ p) (hne : ps ≠ []) :
    (join [c] ps).splitAt c = ps := by
  unfold splitAt
  rw [pieces_eq_splitOnP, join_eq_intercalate, ← List.splitOn_eq_splitOnP,
    List.splitOn_intercalate c h hne]

/-- Joining undoes cutting. -/
lemma join_splitAt (c : Char) (s : Text) : join [c] (s.splitAt c) = s := by
  unfold splitAt
  rw [pieces_eq_splitOnP, join_eq_intercalate, ← List.splitOn_eq_splitOnP,
    List.intercalate_splitOn]

/-- A text without the character is not cut. -/
lemma cut?_eq_none_iff {c : Char} {s : Text} : cut? c s = none ↔ c ∉ s := by
  induction s with
  | nil => simp [cut?]
  | cons d s ih =>
    by_cases hd : d = c
    · simp [cut?, hd]
    · simp [cut?, hd, ih, Ne.symm hd]

/-- A text is cut at the first occurrence of the character. -/
lemma cut?_append_cons {c : Char} {s : Text} (h : c ∉ s) (t : Text) :
    cut? c (s ++ c :: t) = some (s, t) := by
  induction s with
  | nil => simp [cut?]
  | cons d s ih =>
    obtain ⟨hd, hs⟩ := List.ne_and_not_mem_of_not_mem_cons h
    simp [cut?, Ne.symm hd, ih hs]

/-- What is cut apart at the last occurrence of the character is joined by it. -/
lemma eq_append_of_cutLast? {c : Char} {s before after : Text}
    (h : cutLast? c s = some (before, after)) : s = before ++ c :: after := by
  induction s generalizing before with
  | nil => cases h
  | cons d s ih =>
    unfold cutLast? at h
    split at h
    · rename_i hs
      cases h
      rw [ih hs]
      rfl
    · split at h
      · rename_i hd
        cases h
        rw [hd]
        rfl
      · cases h

/-- A text without the character is not cut at its last occurrence. -/
lemma cutLast?_eq_none {c : Char} {s : Text} (h : c ∉ s) : cutLast? c s = none := by
  cases hs : cutLast? c s with
  | none => rfl
  | some parts =>
    rw [eq_append_of_cutLast? hs] at h
    exact absurd (List.mem_append_right _ (.head _)) h

/-- A text is cut at the last occurrence of the character. -/
lemma cutLast?_append_cons {c : Char} {t : Text} (h : c ∉ t) (s : Text) :
    cutLast? c (s ++ c :: t) = some (s, t) := by
  induction s with
  | nil => simp [cutLast?, cutLast?_eq_none h]
  | cons d s ih => simp [cutLast?, ih]

/-- A character that is not in the first part of a text stands behind it. -/
lemma exists_of_append_eq_of_not_mem_left {c : Char} {s t before after : Text} (hc : c ∉ s)
    (h : s ++ t = before ++ c :: after) : ∃ r, before = s ++ r ∧ t = r ++ c :: after := by
  obtain ⟨r, hr, ht⟩ | ⟨r, hs, hr⟩ := List.append_eq_append_iff.1 h
  · exact ⟨r, hr, ht⟩
  · cases r with
    | nil => exact ⟨[], by simp [hs], by simpa using hr.symm⟩
    | cons d r =>
      obtain ⟨rfl, _⟩ := List.cons.inj hr
      exact absurd (by simp [hs]) hc

/-- A character that is not in the second part of a text stands in front of it. -/
lemma exists_of_append_eq_of_not_mem_right {c : Char} {s t before after : Text} (hc : c ∉ t)
    (h : s ++ t = before ++ c :: after) : ∃ r, s = before ++ c :: r ∧ after = r ++ t := by
  obtain ⟨r, _, ht⟩ | ⟨r, hs, hr⟩ := List.append_eq_append_iff.1 h
  · exact absurd (by simp [ht]) hc
  · cases r with
    | nil => exact absurd (by simp [← (List.nil_append t ▸ hr)]) hc
    | cons d r =>
      obtain ⟨rfl, ha⟩ := List.cons.inj hr
      exact ⟨r, hs, ha⟩

end SearchGateway.Text
