import SearchGateway.Entries
import SearchGateway.Number.Binary64

/-!
# JSON values

The values of JSON. Integers that fit into 64 bits, without a sign or with one, stay integers; all
other numbers are binary floating-point numbers. An object keeps its members in order.
-/

namespace SearchGateway

/-- A JSON number. -/
inductive Number where
  /-- An integer from -2^63 to 2^64 - 1. -/
  | integer (value : Int)
  /-- A finite binary number. -/
  | real (value : Binary64)
  deriving DecidableEq, Repr

/-- A JSON value. -/
inductive Json where
  | null
  | bool (value : Bool)
  | number (value : Number)
  | string (value : Text)
  | array (items : List Json)
  | object (members : List (Text × Json))

namespace Json

/-- The text of a string value. -/
def asString? : Json → Option Text
  | .string s => some s
  | _ => none

/-- The items of an array. -/
def asArray? : Json → Option (List Json)
  | .array items => some items
  | _ => none

/-- The members of an object. -/
def asObject? : Json → Option (Entries Json)
  | .object members => some members
  | _ => none

/-- Whether a value is an object. -/
def isObject (j : Json) : Bool :=
  j.asObject?.isSome

/-- The value of a key of an object. -/
def get? (key : Text) (j : Json) : Option Json :=
  j.asObject?.bind (Entries.get? key)

end Json

end SearchGateway
