import SearchGateway.Json.Skip

/-!
# Named fields

Reading of records with named fields. A record stands in JSON as an object with its fields as
members, in any order and among members of other names, or as an array of its fields in their
declared order. A required field must be there; any other may be left out, in an array only
together with all that follow it.
-/

namespace SearchGateway.Json

/-- A field of a record of type `σ`: its name, and a reader that sets it in a record. The reader
takes the depth to which arrays and objects may nest in it. -/
structure Field (σ : Type) where
  name : Text
  required : Bool
  read : Nat → σ → Text → Except Failure (σ × Text)

/-- How a record of type `σ` stands in JSON, and the record that reading starts from. -/
structure Layout (σ : Type) where
  name : Text
  fields : List (Field σ)
  initial : σ

namespace Layout

variable {σ : Type}

/-- How a message names the record. -/
def title (layout : Layout σ) : Text :=
  "struct ".toList ++ layout.name

/-- How a message names the record and the number of its fields. -/
def sizedTitle (layout : Layout σ) : Text :=
  let n := layout.fields.length
  layout.title ++ " with ".toList ++ Text.ofNat n ++
    (if n = 1 then " element".toList else " elements".toList)

/-- Reads the given fields from the items of an array, the first of them being the item at the
given index. -/
def readItems (layout : Layout σ) (depth : Nat) :
    List (Field σ) → Nat → σ → Text → Except Failure (σ × Text)
  | [], _, state, s => .ok (state, s)
  | field :: fields, index, state, s => do
    let (more, s) ← nextItem (index == 0) s
    if more then
      let (state, s) ← field.read depth state s
      readItems layout depth fields (index + 1) state s
    else
      match (field :: fields).findIdx? Field.required with
      | none => return (state, s)
      | some missing =>
        let s ← closeArray s
        throw (.before (.wrongLength (index + missing) layout.sizedTitle) s)

/-- The text behind the brace that closes an object, if the object ends here. -/
def behindObject (s : Text) : Text :=
  match closeObject s with
  | .ok r => r
  | .error _ => skipSpaces s

/-- Reads a member of the object: a field of the record that was not there before, or a member
of another name, which is skipped. -/
def readMember (layout : Layout σ) (depth : Nat) (state : σ × List Text) (key s : Text) :
    Except Failure ((σ × List Text) × Text) :=
  match layout.fields.find? (·.name == key) with
  | none => do
    let s ← readColon s
    let s ← skipValue s
    return (state, s)
  | some field =>
    if state.2.contains key then .error (.before (.duplicateField key) (behindObject s))
    else do
      let s ← readColon s
      let (record, s) ← field.read depth state.1 s
      return ((record, key :: state.2), s)

/-- Reads a record, inside of the given depth. -/
def read (layout : Layout σ) (depth : Nat) (s : Text) : Except Failure (σ × Text) :=
  match depth, skipSpaces s with
  | _, [] => .error (.before .endInValue [])
  | depth, c :: r =>
    if c = '[' then
      match depth with
      | 0 => .error (.behind .nestingTooDeep (c :: r))
      | depth + 1 => do
        let (state, s) ← layout.readItems depth layout.fields 0 layout.initial r
        let s ← closeArray s
        return (state, s)
    else if c = '{' then
      match depth with
      | 0 => .error (.behind .nestingTooDeep (c :: r))
      | depth + 1 => do
        let ((record, seen), s) ← readObject (layout.readMember depth) (layout.initial, []) r
        match layout.fields.find? fun field => field.required && !seen.contains field.name with
        | none => return (record, s)
        | some field => throw (.before (.missingField field.name) s)
    else .error (mismatch layout.title (c :: r))

/-- The record that a text holds. -/
def parse (layout : Layout σ) (text : Text) : Except ReadError σ :=
  readWhole (layout.read maxDepth) text

end Layout

/-- Reads a count. -/
def readCountValue (s : Text) : Except Failure (Nat × Text) :=
  match skipSpaces s with
  | [] => .error (.before .endInValue [])
  | c :: r =>
    if c = '-' ∨ c.isDigit then do
      let (n, s) ← if c = '-' then readNumber true r else readNumber false (c :: r)
      match n with
      | .integer (.ofNat n) => return (n, s)
      | .integer n => throw (.before (.wrongValue (.number (.integer n)) "u64".toList) s)
      | .real x => throw (.before (.wrongType (.number (.real x)) "u64".toList) s)
    else .error (mismatch "u64".toList (c :: r))

/-- Reads a string. -/
def readStringValue (s : Text) : Except Failure (Text × Text) :=
  match skipSpaces s with
  | [] => .error (.before .endInValue [])
  | c :: r =>
    if c = '"' then readString r else .error (mismatch "a string".toList (c :: r))

/-- Reads null as nothing, and anything else by the given reader. -/
def readOptional {α : Type} (read : Text → Except Failure (α × Text)) (s : Text) :
    Except Failure (Option α × Text) :=
  match skipSpaces s with
  | 'n' :: r => do
    let s ← readWord "ull".toList r
    return (none, s)
  | s => do
    let (value, s) ← read s
    return (some value, s)

/-- Reads an array of values of one type, inside of the given depth. -/
def readListOf {α : Type} (readItem : Nat → Text → Except Failure (α × Text)) (depth : Nat)
    (s : Text) : Except Failure (List α × Text) :=
  match depth, skipSpaces s with
  | _, [] => .error (.before .endInValue [])
  | depth, c :: r =>
    if c = '[' then
      match depth with
      | 0 => .error (.behind .nestingTooDeep (c :: r))
      | depth + 1 => readArray (readItem depth) r
    else .error (mismatch "a sequence".toList (c :: r))

/-- The items of the array that a text holds. -/
def parseArray (text : Text) : Except ReadError (List Json) :=
  readWhole (readListOf readValue maxDepth) text

/-- Reads one of several names: as a string, or as the only key of an object with the value
null. -/
def readName {α : Type} (ofName : Text → Option α) (expected : Text) (depth : Nat) (s : Text) :
    Except Failure (α × Text) :=
  let named (name s : Text) : Except Failure (α × Text) :=
    match ofName name with
    | some value => .ok (value, s)
    | none => .error (.before (.unknownName name expected) s)
  match depth, skipSpaces s with
  | _, [] => .error (.before .endInValue [])
  | depth, c :: r =>
    if c = '"' then do
      let (name, s) ← readString r
      named name s
    else if c = '{' then
      match depth with
      | 0 => .error (.behind .nestingTooDeep (c :: r))
      | _ + 1 => do
        let (name, s) ← match skipSpaces r with
          | [] => throw (.before .endInObject [])
          | '"' :: r => readString r
          | '}' :: r => throw (.behind .expectedValue ('}' :: r))
          | c :: r => throw (.behind .keyNotString (c :: r))
        let (value, s) ← named name s
        let s ← readColon s
        let s ← match skipSpaces s with
          | 'n' :: r => readWord "ull".toList r
          | s => throw (mismatch "unit".toList s)
        match skipSpaces s with
        | [] => throw (.before .endInObject [])
        | c :: r => if c = '}' then return (value, r) else throw (.before .expectedValue (c :: r))
    else .error (.behind .expectedValue (c :: r))

end SearchGateway.Json
