import SearchGateway.Json.Layout
import SearchGateway.Template.Tag
import SearchGateway.Text.Word

/-!
# Sort order

The sort order of a request, most significant key first. As text it is a list of entries between
commas. An entry names a field, with a direction behind a colon if it is not ascending; the field
may be written as a tag, as in `<%=field["name"]%>:DESC`. What does not end in a direction is all
field name.
-/

namespace SearchGateway

/-- A sort direction. -/
inductive Direction where
  | ascending
  | descending
  deriving DecidableEq, Repr

namespace Direction

/-- The name of a direction. -/
def name : Direction → Text
  | .ascending => "asc".toList
  | .descending => "desc".toList

/-- The direction with a given name, in any case of its letters. -/
def ofName? (name : Text) : Option Direction :=
  [ascending, descending].find? fun direction => direction.name.equalsIgnoringCase name

/-- The direction whose name is exactly the given one. -/
def ofExactName? (name : Text) : Option Direction :=
  [ascending, descending].find? fun direction => direction.name == name

end Direction

/-- A sort key. -/
structure SortKey where
  field : Text
  direction : Direction
  deriving DecidableEq, Repr

namespace SortKey

/-- Reads the direction word behind a field tag, if there is one, up to the end of the entry. -/
def tagTail? (s : Text) : Option Text := do
  let rest ← Tag.close? s
  match rest with
  | [] => some []
  | _ =>
    let word := Text.trimStart (← rest.trimStart.after? ":".toList)
    if !word.isEmpty && word.all isWord then some word else none

/-- Reads an entry that names its field by a tag. -/
def readTag? (entry : Text) : Option SortKey :=
  (Tag.readWith? "field".toList tagTail? entry).map fun (field, word) =>
    ⟨field, (Direction.ofName? word).getD .ascending⟩

/-- Reads an entry that names its field outright. -/
def readNamed (entry : Text) : SortKey :=
  match Text.cutLast? ':' entry with
  | none => ⟨entry, .ascending⟩
  | some (field, word) =>
    match Direction.ofName? word.trim with
    | some direction => ⟨field.trim, direction⟩
    | none => ⟨entry, .ascending⟩

/-- Reads an entry. -/
def read (entry : Text) : SortKey :=
  (readTag? entry).getD (readNamed entry)

/-- How a sort key stands in JSON. -/
def layout : Json.Layout SortKey where
  name := "SortField".toList
  initial := ⟨[], .ascending⟩
  fields := [
    ⟨"field".toList, true, fun _ key s => do
      let (field, s) ← Json.readStringValue s
      return ({ key with field }, s)⟩,
    ⟨"direction".toList, false, fun depth key s => do
      let (direction, s) ← Json.readName Direction.ofExactName? "`asc` or `desc`".toList depth s
      return ({ key with direction }, s)⟩]

/-- The JSON value of a sort key. -/
def toJson (key : SortKey) : Json :=
  .object [("field".toList, .string key.field), ("direction".toList, .string key.direction.name)]

end SortKey

/-- Reads a sort order. Blank entries do not count. -/
def readOrder (s : Text) : List SortKey :=
  (((s.splitAt ',').map Text.trim).filter (!·.isEmpty)).map SortKey.read

end SearchGateway
