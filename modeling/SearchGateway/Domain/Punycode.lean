import SearchGateway.Text.Basic

/-!
# Punycode

Text of any characters written in ASCII letters, digits and hyphens. The ASCII characters of the
text come first, before the last hyphen; behind it digits in base 36 tell where to insert each of
the others, in the order of their code points. The insertions are numbered through all places for
one code point, then all places for the next, and each is written as the distance from the one
before, in digits whose weights adapt to the distances seen so far.
-/

namespace SearchGateway.Domain.Punycode

/-- The value of a digit: the letters from zero on, then the decimal digits. -/
def digit? (c : Char) : Option Nat :=
  if c.isLower then some (c.toNat - 'a'.toNat) else (SearchGateway.digit? c).map (· + 26)

/-- The value from which on a digit is followed by another one, at a given place. -/
def threshold (bias place : Nat) : Nat :=
  if place ≤ bias then 1 else if bias + 26 ≤ place then 26 else place - bias

/-- The digit with a given value. -/
def digit (value : Nat) : Char :=
  if value < 26 then Char.ofNat ('a'.toNat + value) else Nat.digitChar (value - 26)

/-- No place has the threshold zero. -/
theorem threshold_pos (bias place : Nat) : 0 < threshold bias place := by
  unfold threshold
  split
  · exact Nat.one_pos
  · split <;> omega

/-- Divides a distance until it is small, counting places from a given one. -/
def shrink (place distance : Nat) : Nat × Nat :=
  if 455 < distance then shrink (place + 36) (distance / 35) else (place, distance)
termination_by distance
decreasing_by exact Nat.div_lt_self (by omega) (by omega)

/-- The bias after a distance that led to a text of a given length. -/
def adapt (distance length : Nat) (first : Bool) : Nat :=
  let damped := if first then distance / 700 else distance / 2
  let (place, rest) := shrink 0 (damped + damped / length)
  place + 36 * rest / (rest + 38)

/-- What the digits read so far give. -/
structure State where
  text : Text
  /-- The code point that was inserted last. -/
  code : Nat
  bias : Nat
  /-- The insertion that the distance is counted from. -/
  start : Nat
  /-- The insertion that the digits of the distance lead to so far. -/
  reached : Nat
  /-- The weight of the next digit of the distance. -/
  weight : Nat
  /-- The place of the next digit of the distance, 36 for its first. -/
  place : Nat
  deriving DecidableEq, Repr

namespace State

/-- Inserts the character that the distance leads to. -/
def insert? (s : State) : Option State :=
  let length := s.text.length + 1
  let code := s.code + s.reached / length
  if code.isValidChar then
    let index := s.reached % length
    some {
      text := s.text.insertIdx index (Char.ofNat code)
      code
      bias := adapt (s.reached - s.start) length (s.start == 0)
      start := index + 1
      reached := index + 1
      weight := 1
      place := 36 }
  else none

/-- Reads one digit. No number on the way takes more than 32 bits. -/
def read? (s : State) (c : Char) : Option State := do
  let d ← digit? c
  let reached := s.reached + d * s.weight
  if 0x100000000 ≤ reached then none
  let least := threshold s.bias s.place
  if d < least then State.insert? { s with reached }
  else
    let weight := s.weight * (36 - least)
    if 0x100000000 ≤ weight then none
    return { s with reached, weight, place := s.place + 36 }

end State

/-- Inserts characters into a text as the given digits tell. -/
def insertAll? (basic digits : Text) : Option Text := do
  let s ← digits.foldlM State.read? ⟨basic, 128, 72, 0, 0, 1, 36⟩
  if s.place = 36 then some s.text else none

/-- The text that was written in a given form. One of ASCII characters alone has no such form. -/
def decode? (s : Text) : Option Text :=
  let (basic, digits) := (Text.cutLast? '-' s).getD ([], s)
  if digits.isEmpty || basic.isEmpty && s.contains '-' then none else insertAll? basic digits

/-- The digits of a distance, from a given place on. -/
def writeDistance (bias place distance : Nat) : Text :=
  let least := threshold bias place
  if distance < least then [digit distance]
  else
    let rest := distance - least
    digit (least + rest % (36 - least)) ::
      writeDistance bias (place + 36) (rest / (36 - least))
termination_by distance
decreasing_by
  have hpos := threshold_pos bias place
  exact Nat.lt_of_le_of_lt (Nat.div_le_self _ _) (by omega)

/-- What the insertions that were written so far give. -/
structure Draft where
  digits : Text
  /-- The number of insertions that were passed since the last one that was written. -/
  distance : Nat
  bias : Nat
  /-- The length of the text so far. -/
  length : Nat
  deriving DecidableEq, Repr

namespace Draft

/-- Passes a character on the way through the text, where one with a given code point is inserted;
those with smaller code points are there already. -/
def pass (basic code : Nat) (d : Draft) (c : Char) : Draft :=
  if c.toNat < code then { d with distance := d.distance + 1 }
  else if c.toNat = code then {
    digits := d.digits ++ writeDistance d.bias 36 d.distance
    distance := 0
    bias := adapt d.distance (d.length + 1) (d.length == basic)
    length := d.length + 1 }
  else d

/-- Inserts the characters of a text that have the given code points, in ascending order, where the
numbers of insertions begin with a given code point. -/
def insertAll (s : Text) (basic start : Nat) (d : Draft) : List Nat → Draft
  | [] => d
  | code :: codes =>
    let distance := d.distance + (code - start) * (d.length + 1)
    let passed := s.foldl (pass basic code) { d with distance }
    insertAll s basic (code + 1) { passed with distance := passed.distance + 1 } codes

end Draft

/-- Puts a number into an ascending list, if it is not there. -/
def putCode (n : Nat) : List Nat → List Nat
  | [] => [n]
  | m :: rest => if n < m then n :: m :: rest else if n = m then m :: rest else m :: putCode n rest

/-- The form in which a text is written. -/
def encode (s : Text) : Text :=
  let (basic, others) := s.partition fun c => c.toNat < 128
  let codes := (others.map Char.toNat).foldr putCode []
  let draft := Draft.insertAll s basic.length 128 ⟨[], 0, 72, basic.length⟩ codes
  basic ++ (if basic.isEmpty then [] else ['-']) ++ draft.digits

end SearchGateway.Domain.Punycode
