import SearchGateway.Json.Lexeme
import SearchGateway.Json.Numeral

/-!
# Reading JSON values

A reader of JSON text. Values nest at most `maxDepth` deep. The loops over items and members take
a bound on their number of rounds, for which the length of the text is enough, since every item
and every member takes at least one character.
-/

namespace SearchGateway.Json

/-- How many arrays and objects may stand around a value. -/
def maxDepth : Nat := 127

/-- Looks for another item of an array: whether there is one, and the text from there on. -/
def nextItem (first : Bool) (s : Text) : Except Failure (Bool × Text) :=
  match skipSpaces s with
  | [] => .error (.before .endInArray [])
  | c :: r =>
    if c = ']' then .ok (false, c :: r)
    else if first then .ok (true, c :: r)
    else if c = ',' then
      match skipSpaces r with
      | [] => .error (.before .endInValue [])
      | d :: r' =>
        if d = ']' then .error (.behind .trailingComma (d :: r')) else .ok (true, d :: r')
    else .error (.behind .expectedCommaOrBracket (c :: r))

/-- Looks for another member of an object: whether there is one, and the text behind the quote
that opens its key, or from the closing brace on. -/
def nextKey (first : Bool) (s : Text) : Except Failure (Bool × Text) :=
  match skipSpaces s with
  | [] => .error (.before .endInObject [])
  | c :: r =>
    if c = '}' then .ok (false, c :: r)
    else if first then
      if c = '"' then .ok (true, r) else .error (.behind .keyNotString (c :: r))
    else if c = ',' then
      match skipSpaces r with
      | [] => .error (.before .endInValue [])
      | d :: r' =>
        if d = '"' then .ok (true, r')
        else if d = '}' then .error (.behind .trailingComma (d :: r'))
        else .error (.behind .keyNotString (d :: r'))
    else .error (.behind .expectedCommaOrBrace (c :: r))

/-- Reads the colon behind a key. -/
def readColon (s : Text) : Except Failure Text :=
  match skipSpaces s with
  | [] => .error (.before .endInObject [])
  | c :: r => if c = ':' then .ok r else .error (.behind .expectedColon (c :: r))

/-- Reads the bracket that closes an array. -/
def closeArray (s : Text) : Except Failure Text :=
  match skipSpaces s with
  | [] => .error (.before .endInArray [])
  | c :: r =>
    if c = ']' then .ok r
    else if c = ',' then
      match skipSpaces r with
      | ']' :: r' => .error (.behind .trailingComma (']' :: r'))
      | s' => .error (.behind .trailingCharacters s')
    else .error (.behind .trailingCharacters (c :: r))

/-- Reads the brace that closes an object. -/
def closeObject (s : Text) : Except Failure Text :=
  match skipSpaces s with
  | [] => .error (.before .endInObject [])
  | c :: r =>
    if c = '}' then .ok r
    else if c = ',' then .error (.behind .trailingComma (c :: r))
    else .error (.behind .trailingCharacters (c :: r))

section Loops

variable {α : Type}

/-- Reads at most the given number of items up to the closing bracket, which is left unread. -/
def readItems (readItem : Text → Except Failure (α × Text)) :
    Nat → Bool → Text → Except Failure (List α × Text)
  | 0, _, s => .error (.before .endInArray s)
  | n + 1, first, s => do
    let (more, s) ← nextItem first s
    if more then
      let (item, s) ← readItem s
      let (items, s) ← readItems readItem n false s
      return (item :: items, s)
    else return ([], s)

/-- Reads the rest of an array behind its opening bracket. -/
def readArray (readItem : Text → Except Failure (α × Text)) (s : Text) :
    Except Failure (List α × Text) := do
  let (items, s) ← readItems readItem (s.length + 1) true s
  let s ← closeArray s
  return (items, s)

/-- Reads at most the given number of members up to the closing brace, which is left unread. The
reader of a member takes what was read so far, the key, and the text behind the key. -/
def readMembers (readMember : α → Text → Text → Except Failure (α × Text)) :
    Nat → Bool → α → Text → Except Failure (α × Text)
  | 0, _, _, s => .error (.before .endInObject s)
  | n + 1, first, state, s => do
    let (more, s) ← nextKey first s
    if more then
      let (key, s) ← readString s
      let (state, s) ← readMember state key s
      readMembers readMember n false state s
    else return (state, s)

/-- Reads the rest of an object behind its opening brace. -/
def readObject (readMember : α → Text → Text → Except Failure (α × Text)) (initial : α)
    (s : Text) : Except Failure (α × Text) := do
  let (state, s) ← readMembers readMember (s.length + 1) true initial s
  let s ← closeObject s
  return (state, s)

end Loops

/-- Reads the value of a key and sets it among the members so far. -/
def putMember (readValue : Text → Except Failure (Json × Text)) (members : List (Text × Json))
    (key s : Text) : Except Failure (List (Text × Json) × Text) := do
  let s ← readColon s
  let (value, s) ← readValue s
  return (Entries.put key value members, s)

/-- Reads a scalar, whose first character is given apart. -/
def readScalar (c : Char) (r : Text) : Except Failure (Found × Text) :=
  if c = 'n' then do
    let s ← readWord "ull".toList r
    return (.null, s)
  else if c = 't' then do
    let s ← readWord "rue".toList r
    return (.bool true, s)
  else if c = 'f' then do
    let s ← readWord "alse".toList r
    return (.bool false, s)
  else if c = '-' then do
    let (n, s) ← readNumber true r
    return (.number n, s)
  else if c.isDigit then do
    let (n, s) ← readNumber false (c :: r)
    return (.number n, s)
  else if c = '"' then do
    let (t, s) ← readString r
    return (.string t, s)
  else .error (.behind .expectedValue (c :: r))

/-- The value of a scalar that was found. -/
def Found.scalar : Found → Json
  | .bool b => .bool b
  | .number n => .number n
  | .string s => .string s
  | _ => .null

/-- Reads a value inside of which the given number of arrays and objects may nest. -/
def readValue (depth : Nat) (s : Text) : Except Failure (Json × Text) :=
  match depth, skipSpaces s with
  | _, [] => .error (.before .endInValue [])
  | 0, c :: r =>
    if c = '[' ∨ c = '{' then .error (.behind .nestingTooDeep (c :: r))
    else do
      let (found, s) ← readScalar c r
      return (found.scalar, s)
  | depth + 1, c :: r =>
    if c = '[' then do
      let (items, s) ← readArray (readValue depth) r
      return (.array items, s)
    else if c = '{' then do
      let (members, s) ← readObject (putMember (readValue depth)) [] r
      return (.object members, s)
    else do
      let (found, s) ← readScalar c r
      return (found.scalar, s)

/-- The failure of a reader that expected another type than it finds at the head of a text: the
fault of a scalar itself, or else that it is of the wrong type. -/
def mismatch (expected : Text) : Text → Failure
  | [] => .before .endInValue []
  | c :: r =>
    if c = '[' then .before (.wrongType .sequence expected) (c :: r)
    else if c = '{' then .before (.wrongType .map expected) (c :: r)
    else
      match readScalar c r with
      | .error e => e
      | .ok (found, s) => .before (.wrongType found expected) s

/-- Reads one value with nothing but white space around it. -/
def readWhole {α : Type} (read : Text → Except Failure (α × Text)) (whole : Text) :
    Except ReadError α :=
  match read whole with
  | .error e => .error (.ofFailure whole e)
  | .ok (value, s) =>
    match skipSpaces s with
    | [] => .ok value
    | c :: r => .error (.ofFailure whole (.behind .trailingCharacters (c :: r)))

/-- Reads the members of an object. -/
def readMap (s : Text) : Except Failure (Entries Json × Text) :=
  match skipSpaces s with
  | [] => .error (.before .endInValue [])
  | c :: r =>
    if c = '{' then readObject (putMember (readValue (maxDepth - 1))) [] r
    else .error (mismatch "a map".toList (c :: r))

/-- The members of the object that a text holds. -/
def parseObject (text : Text) : Except ReadError (Entries Json) :=
  readWhole readMap text

end SearchGateway.Json
