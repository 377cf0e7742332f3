import SearchGateway.Proofs.Json.Written

/-!
# Integers in JSON text

The decimal digits of an integer that 64 bits hold, without a sign or with one, read back as the
integer (`reads_ofInt`).
-/

namespace SearchGateway.Json

/-- The character of a digit has the value of the digit. -/
lemma digit?_digitChar {d : Nat} (h : d < 10) : digit? (Nat.digitChar d) = some d := by
  have all : ∀ e < 10, digit? (Nat.digitChar e) = some e := by decide
  exact all d h

/-- The number that digits write. -/
def ofDigits (ds : List Nat) : Nat :=
  ds.foldl (fun n d => n * 10 + d) 0

/-- The digits of a number are those of a decimal text without leading zeros. -/
lemma exists_digits (n : Nat) :
    ∃ ds, (Text.ofNat n).map digit? = ds.map some ∧ ofDigits ds = n ∧ ds ≠ [] ∧
      (ds.head? = some 0 → ds = [0]) := by
  induction n using Nat.strongRecOn with
  | ind n ih =>
    unfold Text.ofNat at ih ⊢
    by_cases hn : n < 10
    · refine ⟨[n], ?_, ?_, by simp, ?_⟩
      · rw [Nat.toDigits_of_lt_base hn]
        simp [digit?_digitChar hn]
      · simp [ofDigits]
      · intro h
        simpa using h
    · obtain ⟨ds, hmap, hval, hne, hzero⟩ := ih (n / 10) (by omega)
      have hmod : n % 10 < 10 := Nat.mod_lt n (by decide)
      rw [Nat.toDigits_of_base_le (by decide) (by omega)]
      refine ⟨ds ++ [n % 10], ?_, ?_, by simp, ?_⟩
      · rw [List.map_append, hmap]
        simp [digit?_digitChar hmod]
      · unfold ofDigits at hval ⊢
        rw [List.foldl_append, hval]
        simp only [List.foldl_cons, List.foldl_nil]
        omega
      · intro h
        have h : ds.head? = some 0 := by
          obtain ⟨d, r, rfl⟩ := List.exists_cons_of_ne_nil hne
          exact h
        rw [hzero h] at hval
        simp only [ofDigits, List.foldl_cons, List.foldl_nil] at hval
        omega

/-- Digits are read up to a character that is none. -/
lemma leadingDigits_append {s : Text} {ds : List Nat} (h : s.map digit? = ds.map some) {rest : Text}
    (hr : ∀ c ∈ rest.head?, c.isDigit = false) : leadingDigits (s ++ rest) = (ds, rest) := by
  induction s generalizing ds with
  | nil =>
    obtain rfl : ds = [] := by simpa using h.symm
    cases rest with
    | nil => rfl
    | cons c r =>
      have hc : digit? c = none := by
        unfold digit?
        rw [hr c rfl]
        rfl
      simp [leadingDigits, hc]
  | cons c s ih =>
    cases ds with
    | nil => simp at h
    | cons d ds =>
      simp only [List.map_cons, List.cons.injEq] at h
      simp [leadingDigits, h.1, ih h.2]

/-- More digits make a number no smaller. -/
lemma le_foldl_digits (n : Nat) (ds : List Nat) : n ≤ ds.foldl (fun n d => n * 10 + d) n := by
  induction ds generalizing n with
  | nil => exact Nat.le_refl n
  | cons d ds ih =>
    have h := ih (n * 10 + d)
    rw [List.foldl_cons]
    omega

/-- Digits of a number below 2^64 all go into the significand. -/
lemma gather_eq {n : Nat} {ds : List Nat}
    (h : ds.foldl (fun n d => n * 10 + d) n ≤ maxCount) :
    gather n ds = (ds.foldl (fun n d => n * 10 + d) n, []) := by
  induction ds generalizing n with
  | nil => rfl
  | cons d ds ih =>
    rw [List.foldl_cons] at h ⊢
    have hle := le_foldl_digits (n * 10 + d) ds
    have hd : n * 10 + d ≤ maxCount := Nat.le_trans hle h
    rw [gather, if_pos hd, ih h]

/-- The digits of a number read as the number under its sign. -/
lemma readNumber_ofNat {negative : Bool} {n : Nat} {i : Int} (hn : n ≤ maxCount)
    (hi : integer? negative n = some i) {rest : Text} (hr : Delimited rest) :
    readNumber negative (Text.ofNat n ++ rest) = .ok (.integer i, rest) := by
  obtain ⟨ds, hmap, hval, hne, hzero⟩ := exists_digits n
  have hlead := leadingDigits_append hmap fun c hc => (hr c hc).1
  have hgather : gather 0 ds = (n, []) := by
    rw [gather_eq (by rw [show ds.foldl _ 0 = n from hval]; exact hn)]
    exact congrArg (·, []) hval
  have hstop : ∀ c ∈ rest.head?, c ≠ '.' ∧ c ≠ 'e' ∧ c ≠ 'E' := fun c hc => (hr c hc).2
  unfold readNumber
  simp only [hlead]
  -- There is a digit, and a zero in front stands alone.
  split
  · exact absurd rfl hne
  · exact absurd (hzero rfl) (by simp)
  · simp only [hgather]
    split
    · exact absurd rfl (hstop '.' rfl).1
    · exact absurd rfl (hstop 'e' rfl).2.1
    · exact absurd rfl (hstop 'E' rfl).2.2
    · simp only [hi]

/-- A number begins with a digit. -/
lemma exists_digit_cons (n : Nat) : ∃ c r, Text.ofNat n = c :: r ∧ c.isDigit = true := by
  obtain ⟨c, r, h⟩ := List.exists_cons_of_ne_nil (Nat.toDigits_ne_nil (n := n) (b := 10))
  refine ⟨c, r, h, Nat.isDigit_of_mem_toDigits (b := 10) (n := n) (by decide) (by decide) ?_⟩
  rw [h]
  exact .head _

/-- An integer is written with digits behind a minus sign at most. -/
lemma not_mem_ofInt {c : Char} (hc : c.isDigit = false) (hm : c ≠ '-') (i : Int) :
    c ∉ Text.ofInt i := by
  have hnat (n : Nat) : c ∉ Text.ofNat n := by
    intro h
    have hd := Nat.isDigit_of_mem_toDigits (by decide) (by decide) h
    simp [hc] at hd
  cases i with
  | ofNat n => exact hnat n
  | negSucc n => exact List.not_mem_cons_of_ne_of_not_mem hm (hnat (n + 1))

/-- A digit begins no value but a number. -/
lemma of_isDigit {c : Char} (h : c.isDigit = true) :
    isSpace c = false ∧ (c ≠ '[' ∧ c ≠ '{') ∧ (c ≠ 'n' ∧ c ≠ 't' ∧ c ≠ 'f' ∧ c ≠ '-') := by
  have other {d : Char} (hd : d.isDigit = false) : c ≠ d := by
    rintro rfl
    simp [h] at hd
  refine ⟨?_, ⟨other rfl, other rfl⟩, other rfl, other rfl, other rfl, other rfl⟩
  have hspace : c ≠ ' ' ∧ c ≠ '\n' ∧ c ≠ '\t' ∧ c ≠ '\r' :=
    ⟨other rfl, other rfl, other rfl, other rfl⟩
  simp [isSpace, hspace]

/-- Whether 64 bits hold an integer, without a sign or with one. -/
def Fits (i : Int) : Prop :=
  -0x8000000000000000 ≤ i ∧ i ≤ maxCount

instance (i : Int) : Decidable (Fits i) :=
  inferInstanceAs (Decidable (_ ∧ _))

/-- An integer that fits into 64 bits reads as itself. -/
lemma reads_ofInt {depth : Nat} {i : Int} (h : Fits i) :
    Reads depth (Text.ofInt i) (.number (.integer i)) := by
  cases i with
  | ofNat n =>
    have hn : n ≤ maxCount := by
      have hc : (n : Int) ≤ maxCount := h.2
      omega
    obtain ⟨c, r, htext, hc⟩ := exists_digit_cons n
    obtain ⟨hspace, hopen, hletter⟩ := of_isDigit hc
    change Reads depth (Text.ofNat n) (.number (.integer n))
    have hread {rest : Text} (hr : Delimited rest) :
        readNumber false (Text.ofNat n ++ rest) = .ok (.integer n, rest) :=
      readNumber_ofNat hn rfl hr
    rw [htext] at hread ⊢
    apply reads_scalar (.number (.integer n)) hspace hopen
    intro rest hr
    have hr := hread hr
    rw [List.cons_append] at hr
    unfold readScalar
    simp only [hletter, hc, if_false, if_true, hr, bind, Except.bind]
    rfl
  | negSucc n =>
    have hn : n + 1 ≤ 0x8000000000000000 := by
      have hc : -0x8000000000000000 ≤ Int.negSucc n := h.1
      omega
    have hi : integer? true (n + 1) = some (.negSucc n) := by
      have hbound : n + 1 ≠ 0 ∧ n + 1 ≤ 0x8000000000000000 := ⟨Nat.succ_ne_zero n, hn⟩
      unfold integer?
      rw [if_pos rfl, if_pos hbound]
      rfl
    apply reads_scalar (.number (.integer (.negSucc n))) (by decide) (by decide)
    intro rest hr
    have hread := readNumber_ofNat (by unfold maxCount; omega) hi hr
    unfold readScalar
    simp only [Char.reduceEq, if_false, if_true, hread, bind, Except.bind]
    rfl

end SearchGateway.Json
