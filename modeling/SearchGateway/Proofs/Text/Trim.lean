import Mathlib.Data.List.TakeWhile
import SearchGateway.Text.Blank

/-!
# Trimmed text

The ends of a trimmed text are the first and the last character of the text that is not white
space, so what a trimmed text begins or ends with can be told without trimming.
-/

namespace SearchGateway.Text

/-- The first character that is not white space. -/
def firstInk (s : Text) : Option Char :=
  s.find? fun c => !SearchGateway.isBlank c

/-- The last character that is not white space. -/
def lastInk (s : Text) : Option Char :=
  firstInk s.reverse

/-- A text with a character that is not white space is not blank. -/
lemma isBlank_eq_false_of_mem {c : Char} {s : Text} (hmem : c ∈ s)
    (hc : SearchGateway.isBlank c = false) : s.isBlank = false :=
  List.all_eq_false.2 ⟨c, hmem, by simp [hc]⟩

/-- A blank text holds white space only. -/
lemma not_mem_of_isBlank {c : Char} {b : Text} (hb : b.isBlank = true)
    (hc : SearchGateway.isBlank c = false) : c ∉ b := by
  intro hmem
  rw [isBlank_eq_false_of_mem hmem hc] at hb
  cases hb

/-- Two texts are blank together if each of them is. -/
lemma isBlank_append (s t : Text) : isBlank (s ++ t) = (s.isBlank && t.isBlank) :=
  List.all_append

/-- White space in front does not matter to trimming at the start. -/
lemma trimStart_append_of_isBlank {b : Text} (h : b.isBlank = true) (s : Text) :
    (b ++ s).trimStart = s.trimStart :=
  List.dropWhile_append_of_pos (List.all_eq_true.1 h)

/-- Trimming at the start stops at a character that is not white space. -/
lemma trimStart_cons_of_not_isBlank {c : Char} (h : SearchGateway.isBlank c = false) (s : Text) :
    trimStart (c :: s) = c :: s :=
  List.dropWhile_cons_of_neg (by simp [h])

/-- Trimming at the end is trimming at the start, seen from the other side. -/
lemma trimEndWhere_eq (p : Char → Bool) (s : Text) :
    s.trimEndWhere p = (s.reverse.dropWhile p).reverse := by
  induction s with
  | nil => rfl
  | cons c s ih =>
    unfold trimEndWhere
    rw [ih, List.reverse_cons, List.dropWhile_append]
    cases hd : s.reverse.dropWhile p with
    | nil => cases hc : p c <;> simp [hc]
    | cons d r =>
      have hi : (d :: r ++ [c]).reverse = c :: (d :: r).reverse := by simp
      simp only [List.isEmpty_cons, Bool.false_eq_true, if_false, hi]
      cases hr : (d :: r).reverse with
      | nil => simp at hr
      | cons d' r' => rfl

/-- Trimming at the end takes away characters that satisfy the test. -/
lemma exists_eq_trimEndWhere_append (p : Char → Bool) (s : Text) :
    ∃ t, s = s.trimEndWhere p ++ t ∧ ∀ c ∈ t, p c = true := by
  refine ⟨(s.reverse.takeWhile p).reverse, ?_, ?_⟩
  · rw [trimEndWhere_eq, ← List.reverse_append, List.takeWhile_append_dropWhile,
      List.reverse_reverse]
  · intro c hc
    exact List.mem_takeWhile_imp (List.mem_reverse.1 hc)

/-- Trimming at the end brings no characters. -/
lemma not_mem_trimEndWhere {c : Char} {s : Text} (h : c ∉ s) (p : Char → Bool) :
    c ∉ s.trimEndWhere p := by
  obtain ⟨t, hs, _⟩ := exists_eq_trimEndWhere_append p s
  intro hc
  rw [hs] at h
  exact h (List.mem_append_left t hc)

/-- Trimming one character at the end takes away repetitions of it. -/
lemma exists_eq_trimEndWhere_append_replicate (c : Char) (s : Text) :
    ∃ n, s = s.trimEndWhere (· == c) ++ List.replicate n c := by
  obtain ⟨t, hs, ht⟩ := exists_eq_trimEndWhere_append (· == c) s
  have hreplicate : t = List.replicate t.length c :=
    List.eq_replicate_iff.2 ⟨rfl, fun d hd => eq_of_beq (ht d hd)⟩
  exact ⟨t.length, hreplicate ▸ hs⟩

/-- Trimming at the start stops at a character that fails the test at the latest. -/
lemma trimStartWhere_append_cons {p : Char → Bool} {c : Char} (h : p c = false) (s t : Text) :
    (s ++ c :: t).trimStartWhere p = s.trimStartWhere p ++ c :: t := by
  unfold trimStartWhere
  rw [List.dropWhile_append]
  split
  · rename_i hs
    rw [List.isEmpty_iff.1 hs, List.dropWhile_cons_of_neg (by simp [h])]
    rfl
  · rfl

/-- Trimming at the end stops at a character that fails the test at the latest. -/
lemma trimEndWhere_append_cons {p : Char → Bool} {c : Char} (h : p c = false) (s t : Text) :
    (s ++ c :: t).trimEndWhere p = s ++ c :: t.trimEndWhere p := by
  have hstart := trimStartWhere_append_cons h t.reverse s.reverse
  unfold trimStartWhere at hstart
  rw [trimEndWhere_eq, trimEndWhere_eq, List.reverse_append, List.reverse_cons, List.append_assoc,
    List.singleton_append, hstart]
  simp

/-- Trimming at the end keeps a text exactly if its last character fails the test. -/
lemma trimEndWhere_eq_self_iff {p : Char → Bool} {s : Text} :
    s.trimEndWhere p = s ↔ ∀ c ∈ s.getLast?, p c = false := by
  obtain rfl | ⟨t, c, rfl⟩ := s.eq_nil_or_concat
  · exact iff_of_true rfl (by simp)
  · simp only [List.concat_eq_append, List.getLast?_concat, Option.mem_def, Option.some.injEq,
      forall_eq']
    refine ⟨fun h => ?_, fun h => trimEndWhere_append_cons h t []⟩
    by_contra hc
    have hlength := congrArg List.length h
    rw [trimEndWhere_eq, List.reverse_concat, List.dropWhile_cons_of_pos (by simpa using hc),
      List.length_reverse, List.length_append, List.length_singleton] at hlength
    have hle := (t.reverse.dropWhile_suffix p).length_le
    rw [List.length_reverse] at hle
    omega

/-- Trimming at the end keeps a text none of whose characters satisfies the test. -/
lemma trimEndWhere_eq_self {p : Char → Bool} {s : Text} (h : ∀ c ∈ s, p c = false) :
    s.trimEndWhere p = s :=
  trimEndWhere_eq_self_iff.2 fun c hc => h c (List.mem_of_getLast? hc)

/-- The first character that is not white space is none. -/
lemma isBlank_eq_false_of_firstInk {c : Char} {s : Text} (h : firstInk s = some c) :
    SearchGateway.isBlank c = false := by
  simpa using List.find?_some h

/-- The first character of two texts that is not white space. -/
lemma firstInk_append (s t : Text) : firstInk (s ++ t) = (firstInk s).or (firstInk t) :=
  List.find?_append

/-- The last character of two texts that is not white space. -/
lemma lastInk_append (s t : Text) : lastInk (s ++ t) = (lastInk t).or (lastInk s) := by
  unfold lastInk
  rw [List.reverse_append, firstInk_append]

/-- The last character that is not white space, of a text with a character in front of it. -/
lemma lastInk_cons (c : Char) (s : Text) : lastInk (c :: s) = (lastInk s).or (firstInk [c]) :=
  lastInk_append [c] s

/-- A trimmed text begins with the first character that is not white space. -/
lemma head?_trim (s : Text) : s.trim.head? = firstInk s := by
  have hs : s.trimStart.head? = firstInk s := (List.find?_not_eq_head?_dropWhile _ _).symm
  unfold trim trimEnd
  cases ht : s.trimStart with
  | nil => rw [← hs, ht]; rfl
  | cons c r =>
    have hc : SearchGateway.isBlank c = false := by
      rw [ht] at hs
      exact isBlank_eq_false_of_firstInk hs.symm
    unfold trimEndWhere
    rw [← hs, ht]
    cases trimEndWhere SearchGateway.isBlank r <;> simp [hc]

/-- Trimming leaves nothing of a blank text only. -/
lemma trim_eq_nil_iff {s : Text} : s.trim = [] ↔ s.isBlank = true := by
  rw [← List.head?_eq_none_iff, head?_trim]
  unfold firstInk isBlank
  rw [List.find?_eq_none, List.all_eq_true]
  simp only [Bool.not_eq_true', Bool.not_eq_false]

/-- White space does not matter to the last character that is not white space. -/
lemma lastInk_trimStart (s : Text) : lastInk s.trimStart = lastInk s := by
  have hb : lastInk (s.takeWhile SearchGateway.isBlank) = none := by
    refine List.find?_eq_none.2 fun c hc => ?_
    simpa using List.mem_takeWhile_imp (List.mem_reverse.1 hc)
  have hs : s.takeWhile SearchGateway.isBlank ++ s.trimStart = s :=
    List.takeWhile_append_dropWhile
  rw [← Option.or_none (o := lastInk s.trimStart), ← hb, ← lastInk_append, hs]

/-- A trimmed text ends with the last character that is not white space. -/
lemma getLast?_trim (s : Text) : s.trim.getLast? = lastInk s := by
  unfold trim trimEnd
  rw [trimEndWhere_eq, List.getLast?_reverse, ← lastInk_trimStart]
  exact (List.find?_not_eq_head?_dropWhile _ _).symm

/-- A text is trimmed exactly if it neither begins nor ends with white space. -/
lemma trim_eq_self_iff {s : Text} :
    s.trim = s ↔ (∀ c ∈ s.head?, SearchGateway.isBlank c = false) ∧
      ∀ c ∈ s.getLast?, SearchGateway.isBlank c = false := by
  constructor
  · intro h
    refine ⟨fun c hc => ?_, fun c hc => ?_⟩
    · rw [← h, head?_trim] at hc
      exact isBlank_eq_false_of_firstInk hc
    · rw [← h, getLast?_trim] at hc
      exact isBlank_eq_false_of_firstInk hc
  · rintro ⟨hhead, hlast⟩
    have hstart : s.trimStart = s := by
      cases s with
      | nil => rfl
      | cons c s => exact trimStart_cons_of_not_isBlank (hhead c rfl) s
    have hend : s.trimEnd = s := by
      obtain rfl | ⟨t, c, rfl⟩ := s.eq_nil_or_concat
      · rfl
      · rw [List.concat_eq_append] at hlast ⊢
        exact trimEndWhere_append_cons (hlast c List.getLast?_concat) t []
    rw [trim, hstart, hend]

/-- A trimmed text stays as it is. -/
lemma trim_trim (s : Text) : s.trim.trim = s.trim := by
  refine trim_eq_self_iff.2 ⟨fun c hc => ?_, fun c hc => ?_⟩
  · rw [head?_trim] at hc
    exact isBlank_eq_false_of_firstInk hc
  · rw [getLast?_trim] at hc
    exact isBlank_eq_false_of_firstInk hc

/-- White space around a text does not matter to its trimmed form. -/
lemma trim_around {b b' : Text} (hb : b.isBlank = true) (hb' : b'.isBlank = true) (s : Text) :
    trim (b ++ (s ++ b')) = s.trim := by
  have hend (t : Text) : trimEnd (t ++ b') = t.trimEnd := by
    unfold trimEnd
    rw [trimEndWhere_eq, List.reverse_append, List.dropWhile_append_of_pos, trimEndWhere_eq]
    exact fun c hc => List.all_eq_true.1 hb' c (List.mem_reverse.1 hc)
  have hstart : (s ++ b').trimStart.trimEnd = s.trimStart.trimEnd := by
    unfold trimStart trimStartWhere
    rw [List.dropWhile_append]
    split
    · rename_i hs
      rw [List.isEmpty_iff.1 hs, List.dropWhile_eq_nil_iff.2 (List.all_eq_true.1 hb')]
    · exact hend _
  unfold trim
  rw [trimStart_append_of_isBlank hb, hstart]

/-- Trimming keeps a text that begins and ends with characters that are no white space. -/
lemma trim_eq_self {c d : Char} (hc : SearchGateway.isBlank c = false)
    (hd : SearchGateway.isBlank d = false) (s : Text) :
    trim (c :: (s ++ [d])) = c :: (s ++ [d]) := by
  refine trim_eq_self_iff.2 ⟨fun e he => ?_, fun e he => ?_⟩
  · obtain rfl := Option.some.inj he
    exact hc
  · rw [← List.cons_append, List.getLast?_concat] at he
    obtain rfl := Option.some.inj he
    exact hd

/-- Trimming takes away white space around a text that begins and ends with characters that are no
white space. -/
lemma trim_append {b b' : Text} (hb : b.isBlank = true) (hb' : b'.isBlank = true) {c d : Char}
    (hc : SearchGateway.isBlank c = false) (hd : SearchGateway.isBlank d = false) (s : Text) :
    trim (b ++ (c :: (s ++ [d]) ++ b')) = c :: (s ++ [d]) := by
  rw [trim_around hb hb', trim_eq_self hc hd]

/-- A text is its trimmed form between white space. -/
lemma exists_eq_trim (s : Text) :
    ∃ b b' : Text, b.isBlank = true ∧ b'.isBlank = true ∧ s = b ++ (s.trim ++ b') := by
  obtain ⟨b', hs, hb'⟩ := exists_eq_trimEndWhere_append SearchGateway.isBlank s.trimStart
  refine ⟨s.takeWhile SearchGateway.isBlank, b', ?_, List.all_eq_true.2 hb', ?_⟩
  · exact List.all_eq_true.2 fun c => List.mem_takeWhile_imp
  · unfold trim trimEnd
    rw [← hs]
    exact List.takeWhile_append_dropWhile.symm

end SearchGateway.Text
