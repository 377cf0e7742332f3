import SearchGateway.Text.Basic

/-!
# Counts

Counts are natural numbers below 2^64, written in decimal digits with an optional plus sign.
Arithmetic on them stops at the greatest count and does not wrap.
-/

namespace SearchGateway

/-- The greatest count. -/
def maxCount : Nat :=
  0xFFFFFFFFFFFFFFFF

/-- Why a text is not a count. -/
inductive CountError where
  /-- There is no digit at all. -/
  | empty
  /-- A character is not a decimal digit. -/
  | invalidDigit
  /-- The number is greater than the greatest count. -/
  | tooLarge
  deriving DecidableEq, Repr

/-- What a count error says. -/
def CountError.message : CountError → Text
  | .empty => "cannot parse integer from empty string".toList
  | .invalidDigit => "invalid digit found in string".toList
  | .tooLarge => "number too large to fit in target type".toList

/-- Reads on from the value of the digits before; the first fault from the left is reported. -/
def countDigits (value : Nat) : Text → Except CountError Nat
  | [] => .ok value
  | c :: r =>
    match digit? c with
    | none => .error .invalidDigit
    | some d =>
      if value * 10 + d ≤ maxCount then countDigits (value * 10 + d) r else .error .tooLarge

/-- Reads a count. -/
def readCount : Text → Except CountError Nat
  | [] => .error .empty
  | ['+'] => .error .invalidDigit
  | '+' :: r => countDigits 0 r
  | s => countDigits 0 s

/-- The nearest count to a natural number. -/
def boundCount (n : Nat) : Nat :=
  min n maxCount

end SearchGateway
