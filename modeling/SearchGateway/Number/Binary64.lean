import SearchGateway.Text.Basic

/-!
# Binary floating-point numbers

The finite numbers of the 64-bit binary format, as a sign, a significand and a power of two, with
rounding, multiplication and division computed exactly over the natural numbers. Rounding goes to
the nearest representable number and, of two equally near ones, to the one with an even
significand. A result beyond the greatest finite number is absent.
-/

namespace SearchGateway

/-- The number `significand · 2 ^ exponent`, with its sign. -/
structure Binary64 where
  negative : Bool
  significand : Nat
  exponent : Int
  deriving DecidableEq, Repr

namespace Binary64

/-- The least exponent, that of the numbers nearest to zero. -/
def minExponent : Int := -1074

/-- The exponent of the greatest finite numbers. -/
def maxExponent : Int := 971

/-- The number of bits of a significand. -/
def precision : Nat := 53

/-- The zero without a minus sign. -/
def zero : Binary64 := ⟨false, 0, minExponent⟩

/-- Whether a number is zero, of either sign. -/
def isZero (x : Binary64) : Bool :=
  x.significand == 0

/-- The same magnitude under a given sign. -/
def withSign (x : Binary64) (negative : Bool) : Binary64 :=
  { x with negative }

/-- The numerator of the magnitude as a quotient of natural numbers. -/
def numerator (x : Binary64) : Nat :=
  x.significand * Nat.pow 2 x.exponent.toNat

/-- The denominator of the magnitude as a quotient of natural numbers. -/
def denominator (x : Binary64) : Nat :=
  Nat.pow 2 (-x.exponent).toNat

/-- The quotient rounded to the nearest natural number, halves to the even one. -/
def roundQuotient (num den : Nat) : Nat :=
  let q := num / den
  let r := num % den
  if 2 * r < den then q
  else if den < 2 * r then q + 1
  else if q % 2 = 0 then q else q + 1

/-- The exponent at which a positive quotient has exactly `precision` bits. -/
def scaleOf (num den : Nat) : Int :=
  let e : Int := (Nat.log2 num : Int) - Nat.log2 den - 52
  if num * Nat.pow 2 (-e).toNat < den * Nat.pow 2 (e.toNat + 52) then e - 1 else e

/-- The nonnegative number nearest to a quotient of natural numbers. -/
def ofRatio? (num den : Nat) : Option Binary64 :=
  if num = 0 then some zero
  else
    let e := max (scaleOf num den) minExponent
    let m := roundQuotient (num * Nat.pow 2 (-e).toNat) (den * Nat.pow 2 e.toNat)
    let x : Binary64 :=
      if m = Nat.pow 2 precision then ⟨false, Nat.pow 2 (precision - 1), e + 1⟩
      else ⟨false, m, e⟩
    if x.exponent ≤ maxExponent then some x else none

/-- The number nearest to a natural number. -/
def ofNat? (n : Nat) : Option Binary64 :=
  ofRatio? n 1

/-- The rounded product of two magnitudes. -/
def mul? (x y : Binary64) : Option Binary64 :=
  ofRatio? (x.numerator * y.numerator) (x.denominator * y.denominator)

/-- The rounded quotient of two magnitudes. -/
def div? (x y : Binary64) : Option Binary64 :=
  ofRatio? (x.numerator * y.denominator) (x.denominator * y.numerator)

end Binary64

end SearchGateway
