import SearchGateway.Json.Reader

/-!
# Skipping values

Reading past a value that nobody asked for. Only its syntax matters: numbers of any size, unpaired
code units and any depth of nesting pass. The loops take a bound on their steps, for which twice
the length of the text is enough.
-/

namespace SearchGateway.Json

/-- What a skipping loop is to read past next. -/
inductive Skipped where
  /-- A whole value. -/
  | value
  /-- The items of an array behind its bracket, or behind an item. -/
  | items (first : Bool)
  /-- The members of an object behind its brace, or behind a member. -/
  | members (first : Bool)
  /-- A member of an object, from its key on. -/
  | member

/-- Reads past a scalar, whose first character is given apart. -/
def skipScalar (c : Char) (r : Text) : Except Failure Text :=
  if c = 'n' then readWord "ull".toList r
  else if c = 't' then readWord "rue".toList r
  else if c = 'f' then readWord "alse".toList r
  else if c = '-' then skipNumber r
  else if c.isDigit then skipNumber (c :: r)
  else if c = '"' then skipString r
  else .error (.behind .expectedValue (c :: r))

/-- Reads past the given thing in at most the given number of steps. -/
def skipWithin : Nat → Skipped → Text → Except Failure Text
  | 0, _, s => .error (.before .endInValue s)
  | n + 1, .value, s =>
    match skipSpaces s with
    | [] => .error (.before .endInValue [])
    | c :: r =>
      if c = '[' then skipWithin n (.items true) r
      else if c = '{' then skipWithin n (.members true) r
      else skipScalar c r
  | n + 1, .items first, s =>
    match skipSpaces s with
    | [] => .error (.before .endInArray [])
    | c :: r =>
      if c = ']' then .ok r
      else if first then do
        let s ← skipWithin n .value (c :: r)
        skipWithin n (.items false) s
      else if c = ',' then do
        let s ← skipWithin n .value r
        skipWithin n (.items false) s
      else .error (.behind .expectedCommaOrBracket (c :: r))
  | n + 1, .members first, s =>
    match skipSpaces s with
    | [] => .error (.before .endInObject [])
    | c :: r =>
      if c = '}' then .ok r
      else if first then do
        let s ← skipWithin n .member (c :: r)
        skipWithin n (.members false) s
      else if c = ',' then do
        let s ← skipWithin n .member r
        skipWithin n (.members false) s
      else .error (.behind .expectedCommaOrBrace (c :: r))
  | n + 1, .member, s =>
    match skipSpaces s with
    | [] => .error (.before .endInObject [])
    | c :: r =>
      if c = '"' then do
        let s ← skipString r
        let s ← readColon s
        skipWithin n .value s
      else .error (.behind .keyNotString (c :: r))

/-- Reads past a value. -/
def skipValue (s : Text) : Except Failure Text :=
  skipWithin (2 * s.length + 2) .value s

end SearchGateway.Json
