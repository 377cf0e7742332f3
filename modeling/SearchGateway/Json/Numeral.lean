import SearchGateway.Json.Failure
import SearchGateway.Number.Count

/-!
# Numerals

Reading of JSON numbers. A numeral without a fraction or an exponent is an integer where 64 bits
hold it. Otherwise the digits are gathered into a significand below 2^64, the digits behind the
first that does not fit count by their places only, and the significand is multiplied or divided
by a power of ten in binary arithmetic, so the last bit may differ from that of the nearest number.
-/

namespace SearchGateway.Json

/-- The decimal digits at the head of a text, and the rest. -/
def leadingDigits : Text → List Nat × Text
  | [] => ([], [])
  | c :: r =>
    match digit? c with
    | none => ([], c :: r)
    | some d => (d :: (leadingDigits r).1, (leadingDigits r).2)

/-- Appends digits to a significand while it stays below 2^64; the digits left over follow. -/
def gather (significand : Nat) : List Nat → Nat × List Nat
  | [] => (significand, [])
  | d :: ds =>
    if significand * 10 + d ≤ maxCount then gather (significand * 10 + d) ds
    else (significand, d :: ds)

/-- The greatest power of ten in one step of scaling. -/
def maxPowerOfTen : Nat := 308

/-- The number nearest to a power of ten. -/
def powerOfTen (k : Nat) : Binary64 :=
  (Binary64.ofNat? (Nat.pow 10 k)).getD .zero

/-- A number divided by a power of ten, in steps of at most `maxPowerOfTen`. -/
def dividePowerOfTen (x : Binary64) (k : Nat) : Binary64 :=
  if k ≤ maxPowerOfTen then (x.div? (powerOfTen k)).getD .zero
  else if x.isZero then x
  else dividePowerOfTen ((x.div? (powerOfTen maxPowerOfTen)).getD .zero) (k - maxPowerOfTen)
termination_by k
decreasing_by simp [maxPowerOfTen] at *; omega

/-- A significand times a power of ten; absent when it is too great. -/
def scale? (significand : Nat) (exponent : Int) : Option Binary64 :=
  match Binary64.ofNat? significand with
  | none => none
  | some x =>
    if exponent < 0 then some (dividePowerOfTen x (-exponent).toNat)
    else if exponent ≤ maxPowerOfTen then x.mul? (powerOfTen exponent.toNat)
    else if x.isZero then some x
    else none

/-- The scaled number under its sign, at the end of its numeral. -/
def finishReal (negative : Bool) (significand : Nat) (exponent : Int) (rest : Text) :
    Except Failure (Number × Text) :=
  match scale? significand exponent with
  | some x => .ok (.real (x.withSign negative), rest)
  | none => .error (.before .numberOutOfRange rest)

/-- The greatest exponent that a numeral may write. -/
def maxExponent : Nat := 0x7FFFFFFF

/-- Reads on from the value of an exponent's digits before, up to the digit that makes it greater
than `maxExponent`; then the rest behind that digit is the answer on the left. -/
def readExponentDigits (value : Nat) : Text → Text ⊕ (Nat × Text)
  | [] => .inr (value, [])
  | c :: r =>
    match digit? c with
    | none => .inr (value, c :: r)
    | some d =>
      if value * 10 + d ≤ maxExponent then readExponentDigits (value * 10 + d) r else .inl r

/-- Reads an exponent behind its letter and ends the number with it. -/
def readExponent (negative : Bool) (significand : Nat) (exponent : Int) (s : Text) :
    Except Failure (Number × Text) :=
  let (down, digits) : Bool × Text := match s with
    | '-' :: r => (true, r)
    | '+' :: r => (false, r)
    | _ => (false, s)
  match digits with
  | [] => .error (.before .endInValue [])
  | c :: r =>
    if (digit? c).isNone then .error (.behind .invalidNumber (c :: r))
    else
      match readExponentDigits 0 digits with
      | .inr (e, rest) =>
        finishReal negative significand (if down then exponent - e else exponent + e) rest
      | .inl rest =>
        if significand ≠ 0 ∧ !down then .error (.before .numberOutOfRange rest)
        else .ok (.real (Binary64.zero.withSign negative), (leadingDigits rest).2)

/-- Reads an exponent, if there is one, and ends the number. -/
def readTail (negative : Bool) (significand : Nat) (exponent : Int) (s : Text) :
    Except Failure (Number × Text) :=
  match s with
  | 'e' :: r => readExponent negative significand exponent r
  | 'E' :: r => readExponent negative significand exponent r
  | _ => finishReal negative significand exponent s

/-- Reads a fraction behind its point and what follows it. -/
def readFraction (negative : Bool) (significand : Nat) (exponent : Int) (s : Text) :
    Except Failure (Number × Text) :=
  let (digits, rest) := leadingDigits s
  match digits with
  | [] => .error (.behind (if s.isEmpty then .endInValue else .invalidNumber) s)
  | _ :: _ =>
    let (significand, dropped) := gather significand digits
    readTail negative significand (exponent - (digits.length - dropped.length)) rest

/-- The integer of a significand under its sign, where 64 bits hold it; zero under a minus sign
is no integer. -/
def integer? (negative : Bool) (significand : Nat) : Option Int :=
  if negative then
    if significand ≠ 0 ∧ significand ≤ 0x8000000000000000 then some (-significand) else none
  else some significand

/-- Reads a number behind its minus sign, if it has one. -/
def readNumber (negative : Bool) (s : Text) : Except Failure (Number × Text) :=
  let (digits, rest) := leadingDigits s
  match digits with
  | [] => if s.isEmpty then .error (.before .endInValue []) else .error (.behind .invalidNumber s)
  | 0 :: _ :: _ => .error (.behind .invalidNumber s.tail)
  | _ :: _ =>
    let (significand, dropped) := gather 0 digits
    match rest with
    | '.' :: r => readFraction negative significand dropped.length r
    | 'e' :: r => readExponent negative significand dropped.length r
    | 'E' :: r => readExponent negative significand dropped.length r
    | _ =>
      match dropped, integer? negative significand with
      | [], some n => .ok (.integer n, rest)
      | _, _ => finishReal negative significand dropped.length rest

/-- Reads past an exponent behind its letter. -/
def skipExponent (s : Text) : Except Failure Text :=
  let digits : Text := match s with
    | '-' :: r => r
    | '+' :: r => r
    | _ => s
  match leadingDigits digits with
  | ([], _) => .error (.behind .invalidNumber digits)
  | (_ :: _, rest) => .ok rest

/-- Reads past an exponent, if there is one. -/
def skipTail (s : Text) : Except Failure Text :=
  match s with
  | 'e' :: r => skipExponent r
  | 'E' :: r => skipExponent r
  | _ => .ok s

/-- Reads past a number behind its minus sign, whatever its size. -/
def skipNumber (s : Text) : Except Failure Text :=
  let (digits, rest) := leadingDigits s
  match digits with
  | [] => .error (.behind .invalidNumber s)
  | 0 :: _ :: _ => .error (.behind .invalidNumber s.tail)
  | _ :: _ =>
    match rest with
    | '.' :: r =>
      match leadingDigits r with
      | ([], _) => .error (.behind .invalidNumber r)
      | (_ :: _, rest) => skipTail rest
    | _ => skipTail rest

end SearchGateway.Json
