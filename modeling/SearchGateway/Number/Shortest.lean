import SearchGateway.Number.Binary64

/-!
# Shortest decimal

The shortest decimal that reads back as a given binary number. A decimal reads back exactly when
it lies in the interval of quotients that round to the number, whose ends belong to it when the
significand is even. Among the decimals with one, two, three, … digits the first count that
meets the interval wins; on that grid only the two neighbours of the number matter, the nearer
one is taken, and of two equally near ones the even one.
-/

namespace SearchGateway

/-- The number `digits · 10 ^ exponent`. -/
structure Decimal where
  digits : Nat
  exponent : Int
  deriving DecidableEq, Repr

namespace Binary64

/-- The exponent of the leading decimal digit of a positive quotient. -/
def decimalExponent (num den : Nat) : Int :=
  let k : Int := ((Nat.toDigits 10 num).length : Int) - (Nat.toDigits 10 den).length
  if den * Nat.pow 10 k.toNat ≤ num * Nat.pow 10 (-k).toNat then k else k - 1

/-- Whether `digits · 10 ^ exponent` rounds to the magnitude of a number. -/
def readsBack (x : Binary64) (d : Decimal) : Bool :=
  -- The interval in quarters of the last place: the lower half is halved at a power of two.
  let low := if x.significand = Nat.pow 2 (precision - 1) ∧ minExponent < x.exponent
    then 4 * x.significand - 1 else 4 * x.significand - 2
  let high := 4 * x.significand + 2
  let value := 4 * (d.digits * Nat.pow 10 d.exponent.toNat * Nat.pow 2 (-x.exponent).toNat)
  let unit := Nat.pow 10 (-d.exponent).toNat * Nat.pow 2 x.exponent.toNat
  if x.significand % 2 = 0 then low * unit ≤ value && value ≤ high * unit
  else low * unit < value && value < high * unit

/-- The neighbour of a number on the grid of multiples of `10 ^ exponent` that reads back. -/
def nearestOn (x : Binary64) (exponent : Int) : Option Decimal :=
  let num := x.numerator * Nat.pow 10 (-exponent).toNat
  let den := x.denominator * Nat.pow 10 exponent.toNat
  let below := num / den
  let r := num % den
  let preferBelow := 2 * r < den || (2 * r == den && below % 2 == 0)
  let first : Decimal := ⟨if preferBelow then below else below + 1, exponent⟩
  let second : Decimal := ⟨if preferBelow then below + 1 else below, exponent⟩
  if x.readsBack first then some first
  else if x.readsBack second then some second
  else none

/-- The first grid, from a coarse one to ever finer ones, with a neighbour that reads back. -/
def shortestFrom (x : Binary64) (exponent : Int) : Nat → Decimal
  | 0 =>
    ⟨x.numerator * Nat.pow 10 (-exponent).toNat / (x.denominator * Nat.pow 10 exponent.toNat),
      exponent⟩
  | n + 1 =>
    match x.nearestOn exponent with
    | some d => d
    | none => shortestFrom x (exponent - 1) n

/-- The shortest decimal that reads back as the magnitude of a positive number. -/
def shortest (x : Binary64) : Decimal :=
  x.shortestFrom (decimalExponent x.numerator x.denominator) 17

end Binary64

/-- The same decimal without zeros at the end of its digits. -/
def Decimal.stripZeros (d : Decimal) : Decimal :=
  if h : d.digits ≠ 0 ∧ d.digits % 10 = 0 then
    stripZeros ⟨d.digits / 10, d.exponent + 1⟩
  else d
termination_by d.digits
decreasing_by omega

end SearchGateway
