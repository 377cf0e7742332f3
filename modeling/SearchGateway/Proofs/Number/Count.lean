import Mathlib.Algebra.Group.Nat.Defs
import Mathlib.Tactic.Lemma
import SearchGateway.Number.Count

/-!
# Texts of counts

A text is read as a count exactly if it is written in decimal digits, behind a plus sign or not,
and 64 bits hold its number (`readCount_eq_ok_iff`).
-/

namespace SearchGateway

/-- A character has a value as a digit exactly if it is one. -/
lemma isSome_digit? (c : Char) : (digit? c).isSome = c.isDigit := by
  unfold digit?
  cases c.isDigit <;> rfl

/-- What is no decimal digit has no value. -/
lemma digit?_eq_none {c : Char} (h : c.isDigit = false) : digit? c = none := by
  rw [← isSome_digit?] at h
  exact Option.isNone_iff_eq_none.1 (Option.isSome_eq_false_iff.1 h)

/-- What has a value is a decimal digit. -/
lemma isDigit_of_digit? {c : Char} {d : Nat} (h : digit? c = some d) : c.isDigit = true := by
  rw [← isSome_digit?, h]
  rfl

/-- A decimal digit has its distance from zero as its value. -/
lemma digit?_of_isDigit {c : Char} (h : c.isDigit = true) :
    digit? c = some (c.toNat - '0'.toNat) :=
  if_pos h

/-- A text of decimal digits, at least one, whose number 64 bits hold. -/
structure IsDecimal (s : Text) (n : Nat) : Prop where
  ne_nil : s ≠ []
  isDigit : ∀ c ∈ s, c.isDigit = true
  value : Nat.ofDigitChars 10 s 0 = n
  fits : n < 2 ^ 64

/-- A text that writes a count: decimal digits, behind a plus sign or not. -/
inductive WritesCount : Text → Nat → Prop where
  | plain {s n} : IsDecimal s n → WritesCount s n
  | signed {s n} : IsDecimal s n → WritesCount ('+' :: s) n

/-- More digits make a number no smaller. -/
lemma le_ofDigitChars (s : Text) (n : Nat) : n ≤ Nat.ofDigitChars 10 s n := by
  rw [Nat.ofDigitChars_eq_ofDigitChars_zero]
  have hn : n ≤ 10 ^ s.length * n := Nat.le_mul_of_pos_left n (Nat.pow_pos (by decide))
  omega

/-- Digits are counted behind a value where all of them are decimal ones and the result is in
bounds. -/
lemma countDigits_eq_ok_iff {value n : Nat} {s : Text} (h : value ≤ maxCount) :
    countDigits value s = .ok n ↔
      (∀ c ∈ s, c.isDigit = true) ∧ Nat.ofDigitChars 10 s value = n ∧ n ≤ maxCount := by
  induction s generalizing value with
  | nil =>
    constructor
    · rintro ⟨⟩
      exact ⟨nofun, rfl, h⟩
    · rintro ⟨_, rfl, _⟩
      rfl
  | cons c s ih =>
    rw [List.forall_mem_cons, Nat.ofDigitChars_cons, Nat.mul_comm 10 value]
    cases hc : c.isDigit with
    | false =>
      rw [countDigits, digit?_eq_none hc]
      exact iff_of_false nofun fun hs => absurd hs.1.1 (by decide)
    | true =>
      rw [countDigits, digit?_of_isDigit hc]
      by_cases hle : value * 10 + (c.toNat - '0'.toNat) ≤ maxCount
      · simp only [if_pos hle, ih hle, true_and]
      · -- What is too great already stays so behind all further digits.
        have hgrow := le_ofDigitChars s (value * 10 + (c.toNat - '0'.toNat))
        simp only [if_neg hle]
        exact iff_of_false nofun fun ⟨_, hvalue, hn⟩ => by omega

/-- Digits are counted from nothing where they are a decimal in bounds. -/
lemma countDigits_zero_iff {n : Nat} {s : Text} (ne : s ≠ []) :
    countDigits 0 s = .ok n ↔ IsDecimal s n := by
  have hmax : n ≤ maxCount ↔ n < 2 ^ 64 := Nat.lt_succ_iff.symm
  rw [countDigits_eq_ok_iff (Nat.zero_le _), hmax]
  exact ⟨fun ⟨hdigit, hvalue, hfits⟩ => ⟨ne, hdigit, hvalue, hfits⟩,
    fun h => ⟨h.isDigit, h.value, h.fits⟩⟩

/-- A decimal does not begin with a sign. -/
lemma IsDecimal.not_plus {s : Text} {n : Nat} : ¬ IsDecimal ('+' :: s) n := by
  intro h
  exact absurd (h.isDigit '+' (.head _)) (by decide)

/-- What a text writes as a count is no greater than the greatest count. -/
lemma WritesCount.le_maxCount {s : Text} {n : Nat} (h : WritesCount s n) : n ≤ maxCount := by
  cases h with
  | plain h | signed h => exact Nat.le_of_lt_succ h.fits

/-- The texts that read as counts are those that write them. -/
lemma readCount_eq_ok_iff {s : Text} {n : Nat} : readCount s = .ok n ↔ WritesCount s n := by
  unfold readCount
  split
  · -- No text at all.
    refine iff_of_false nofun fun h => ?_
    cases h with
    | plain h => exact h.ne_nil rfl
  · -- A plus sign alone.
    refine iff_of_false nofun fun h => ?_
    cases h with
    | plain h => exact h.not_plus
    | signed h => exact h.ne_nil rfl
  · rename_i r hr
    have ne : r ≠ [] := hr
    rw [countDigits_zero_iff ne]
    refine ⟨.signed, fun h => ?_⟩
    cases h with
    | plain h => exact absurd h IsDecimal.not_plus
    | signed h => exact h
  · rename_i s hnil _ hplus
    rw [countDigits_zero_iff hnil]
    refine ⟨.plain, fun h => ?_⟩
    cases h with
    | plain h => exact h
    | signed h => exact absurd rfl (hplus _)

/-- The digits of a count write it. -/
lemma writesCount_ofNat {n : Nat} (h : n < 2 ^ 64) : WritesCount (Text.ofNat n) n := by
  refine .plain ⟨Nat.toDigits_ne_nil, fun c hc => ?_, Nat.ofDigitChars_ten_toDigits, h⟩
  exact Nat.isDigit_of_mem_toDigits (by decide) (by decide) hc

/-- Different numbers have different digits. -/
lemma Text.ofNat_injective : Function.Injective Text.ofNat := by
  intro m n h
  calc
    m = Nat.ofDigitChars 10 (Text.ofNat m) 0 := Nat.ofDigitChars_ten_toDigits.symm
    _ = Nat.ofDigitChars 10 (Text.ofNat n) 0 := by rw [h]
    _ = n := Nat.ofDigitChars_ten_toDigits

end SearchGateway
