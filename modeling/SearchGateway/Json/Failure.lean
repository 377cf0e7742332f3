import SearchGateway.Json.Printer
import SearchGateway.Text.Quoted

/-!
# Reading failures

Why a text is not the JSON value that was asked for, and where reading stopped. While reading, a
failure carries the number of bytes that were not consumed; against the whole text this becomes a
line and a column, both in bytes, the line counted from one.
-/

namespace SearchGateway.Json

/-- What stood in the text instead of a value of the expected type. -/
inductive Found where
  | null
  | bool (value : Bool)
  | number (value : Number)
  | string (value : Text)
  | sequence
  | map
  deriving DecidableEq, Repr

/-- How a message names what was found. -/
def Found.text : Found → Text
  | .null => "null".toList
  | .bool b => "boolean `".toList ++ boolText b ++ "`".toList
  | .number (.integer n) => "integer `".toList ++ Text.ofInt n ++ "`".toList
  | .number (.real x) => "floating point `".toList ++ x.text ++ "`".toList
  | .string s => "string ".toList ++ s.quoted
  | .sequence => "sequence".toList
  | .map => "map".toList

/-- What is wrong with a text. -/
inductive Fault where
  | endInValue
  | endInString
  | endInArray
  | endInObject
  | expectedValue
  | expectedWord
  | expectedColon
  | expectedCommaOrBracket
  | expectedCommaOrBrace
  | keyNotString
  | trailingComma
  | trailingCharacters
  | nestingTooDeep
  | invalidNumber
  | numberOutOfRange
  | controlCharacter
  | invalidEscape
  | loneSurrogate
  | endOfSurrogates
  /-- A value of another type than the expected one. -/
  | wrongType (found : Found) (expected : Text)
  /-- A value of the right type that is out of bounds. -/
  | wrongValue (found : Found) (expected : Text)
  /-- An array with fewer items than a record has required fields. -/
  | wrongLength (length : Nat) (expected : Text)
  /-- A text that names none of the allowed alternatives. -/
  | unknownName (name expected : Text)
  | missingField (name : Text)
  | duplicateField (name : Text)
  deriving DecidableEq, Repr

/-- What a fault says. -/
def Fault.text : Fault → Text
  | .endInValue => "EOF while parsing a value".toList
  | .endInString => "EOF while parsing a string".toList
  | .endInArray => "EOF while parsing a list".toList
  | .endInObject => "EOF while parsing an object".toList
  | .expectedValue => "expected value".toList
  | .expectedWord => "expected ident".toList
  | .expectedColon => "expected `:`".toList
  | .expectedCommaOrBracket => "expected `,` or `]`".toList
  | .expectedCommaOrBrace => "expected `,` or `\x7d`".toList
  | .keyNotString => "key must be a string".toList
  | .trailingComma => "trailing comma".toList
  | .trailingCharacters => "trailing characters".toList
  | .nestingTooDeep => "recursion limit exceeded".toList
  | .invalidNumber => "invalid number".toList
  | .numberOutOfRange => "number out of range".toList
  | .controlCharacter =>
    "control character (\\u0000-\\u001F) found while parsing a string".toList
  | .invalidEscape => "invalid escape".toList
  | .loneSurrogate => "lone leading surrogate in hex escape".toList
  | .endOfSurrogates => "unexpected end of hex escape".toList
  | .wrongType found expected =>
    "invalid type: ".toList ++ found.text ++ ", expected ".toList ++ expected
  | .wrongValue found expected =>
    "invalid value: ".toList ++ found.text ++ ", expected ".toList ++ expected
  | .wrongLength n expected =>
    "invalid length ".toList ++ Text.ofNat n ++ ", expected ".toList ++ expected
  | .unknownName name expected =>
    "unknown variant `".toList ++ name ++ "`, expected ".toList ++ expected
  | .missingField name => "missing field `".toList ++ name ++ "`".toList
  | .duplicateField name => "duplicate field `".toList ++ name ++ "`".toList

/-- A fault, with the number of bytes of the text that were not consumed. -/
structure Failure where
  fault : Fault
  left : Nat
  deriving DecidableEq, Repr

namespace Failure

/-- A failure with all of the given rest still unread. -/
def before (fault : Fault) (rest : Text) : Failure :=
  ⟨fault, rest.utf8Size⟩

/-- A failure just behind the first byte of the given rest, or at the end of the text. -/
def behind (fault : Fault) (rest : Text) : Failure :=
  ⟨fault, rest.utf8Size - 1⟩

end Failure

/-- The line and the column that lie a number of bytes behind a given line and column. -/
def advance (line column : Nat) : Text → Nat → Nat × Nat
  | [], _ => (line, column)
  | c :: r, n =>
    if n = 0 then (line, column)
    else if c = '\n' then advance (line + 1) 0 r (n - 1)
    else if n < c.utf8Size then (line, column + n)
    else advance line (column + c.utf8Size) r (n - c.utf8Size)

/-- A fault and its place in the text. -/
structure ReadError where
  fault : Fault
  line : Nat
  column : Nat
  deriving DecidableEq, Repr

namespace ReadError

/-- The place of a failure in the whole text. -/
def ofFailure (whole : Text) (failure : Failure) : ReadError :=
  let place := advance 1 0 whole (whole.utf8Size - failure.left)
  ⟨failure.fault, place.1, place.2⟩

/-- What a read error says. -/
def message (e : ReadError) : Text :=
  e.fault.text ++ " at line ".toList ++ Text.ofNat e.line ++ " column ".toList ++
    Text.ofNat e.column

end ReadError

end SearchGateway.Json
