/-!
# Text

Text is a list of characters, so that every function on it is a recursion that a proof can
follow. This module holds the cuts, joins and comparisons that the rest of the library shares.
-/

namespace SearchGateway

/-- A text is a sequence of Unicode scalar values. -/
abbrev Text := List Char

namespace Text

/-- The number of bytes a text takes in UTF-8. -/
def utf8Size : Text → Nat
  | [] => 0
  | c :: r => c.utf8Size + utf8Size r

/-- The rest of a text that begins with a given head. -/
def after? : Text → Text → Option Text
  | s, [] => some s
  | [], _ :: _ => none
  | d :: r, c :: head => if c = d then after? r head else none

/-- A text is made of its head and the rest. -/
theorem eq_append_of_after? {head s r : Text} (h : after? s head = some r) : s = head ++ r := by
  induction head generalizing s with
  | nil => simpa [after?] using h
  | cons c head ih =>
    cases s with
    | nil => simp [after?] at h
    | cons d s =>
      by_cases hc : c = d
      · subst hc
        simp only [after?, if_true] at h
        simp [ih h]
      · simp [after?, hc] at h

/-- What is put behind a head is the rest. -/
@[simp] theorem after?_append (head r : Text) : after? (head ++ r) head = some r := by
  induction head with
  | nil => cases r <;> rfl
  | cons c head ih => simpa [after?] using ih

/-- Cuts a text at every separator, so there is one piece more than there are separators. -/
def pieces (isSeparator : Char → Bool) : Text → List Text
  | [] => [[]]
  | c :: r =>
    match pieces isSeparator r with
    | [] => [[c]]
    | p :: ps => if isSeparator c then [] :: p :: ps else (c :: p) :: ps

/-- Cuts a text at every occurrence of one character. -/
def splitAt (separator : Char) (s : Text) : List Text :=
  s.pieces (· == separator)

/-- The texts before and after the first occurrence of a character. -/
def cut? (separator : Char) : Text → Option (Text × Text)
  | [] => none
  | c :: r =>
    if c = separator then some ([], r)
    else (cut? separator r).map fun (before, after) => (c :: before, after)

/-- The texts before and after the last occurrence of a character. -/
def cutLast? (separator : Char) : Text → Option (Text × Text)
  | [] => none
  | c :: r =>
    match cutLast? separator r with
    | some (before, after) => some (c :: before, after)
    | none => if c = separator then some ([], r) else none

/-- Joins texts with a separator between each two neighbours. -/
def join (separator : Text) : List Text → Text
  | [] => []
  | [p] => p
  | p :: q :: ps => p ++ separator ++ join separator (q :: ps)

/-- A text with its ASCII capital letters made small. -/
def toLowerAscii (s : Text) : Text :=
  s.map Char.toLower

/-- Whether two texts differ at most in the case of ASCII letters. -/
def equalsIgnoringCase (s t : Text) : Bool :=
  s.toLowerAscii == t.toLowerAscii

/-- A text without the leading characters that satisfy a test. -/
def trimStartWhere (p : Char → Bool) (s : Text) : Text :=
  s.dropWhile p

/-- A text without the trailing characters that satisfy a test. -/
def trimEndWhere (p : Char → Bool) : Text → Text
  | [] => []
  | c :: r =>
    match trimEndWhere p r with
    | [] => if p c then [] else [c]
    | d :: t => c :: d :: t

/-- The decimal digits of a natural number. -/
def ofNat (n : Nat) : Text :=
  Nat.toDigits 10 n

/-- The decimal digits of an integer, after a minus sign when it is negative. -/
def ofInt : Int → Text
  | .ofNat n => ofNat n
  | .negSucc n => '-' :: ofNat (n + 1)

end Text

/-- The value of an ASCII decimal digit. -/
def digit? (c : Char) : Option Nat :=
  if c.isDigit then some (c.toNat - '0'.toNat) else none

/-- The value of an ASCII hexadecimal digit. -/
def hexDigit? (c : Char) : Option Nat :=
  if c.isDigit then some (c.toNat - '0'.toNat)
  else if 'a' ≤ c ∧ c ≤ 'f' then some (c.toNat - 'a'.toNat + 10)
  else if 'A' ≤ c ∧ c ≤ 'F' then some (c.toNat - 'A'.toNat + 10)
  else none

/-- Whether a number lies in one of the closed ranges of an ascending table. -/
def inRanges : List (Nat × Nat) → Nat → Bool
  | [], _ => false
  | (low, high) :: rest, n =>
    if n < low then false else if n ≤ high then true else inRanges rest n

end SearchGateway
