import SearchGateway.Json.Printer
import SearchGateway.Number.Count

/-!
# Records

Records are flat: texts under keys, in ascending order of the keys. A document becomes a record by
its leaves, the strings and numbers inside it, each under the dotted path that leads to it; of two
leaves under one key the last stays. A root path leads to the parts of a document that become
records instead of the whole.
-/

namespace SearchGateway

/-- A row of a result: texts under keys, in ascending order of the keys. -/
abbrev Record := Entries Text

namespace Record

/-- A key followed by one more path segment; the empty key leaves the segment alone. -/
def extend (key segment : Text) : Text :=
  if key.isEmpty then segment else key ++ '.' :: segment

mutual

/-- Sets the leaves of a value that stands under a key. -/
def flattenInto (key : Text) (record : Record) : Json → Record
  | .object members => flattenMembers key record members
  | .array items => flattenItems key 0 record items
  | .string s => record.putSorted key s
  | .number n => record.putSorted key n.text
  | .bool _ => record
  | .null => record

/-- Sets the leaves of the members of an object. -/
def flattenMembers (key : Text) (record : Record) : List (Text × Json) → Record
  | [] => record
  | (name, value) :: rest =>
    flattenMembers key (flattenInto (extend key name) record value) rest

/-- Sets the leaves of the items of an array, the first of them at the given index. -/
def flattenItems (key : Text) (index : Nat) (record : Record) : List Json → Record
  | [] => record
  | value :: rest =>
    flattenItems key (index + 1) (flattenInto (extend key (Text.ofNat index)) record value) rest

end

/-- The record of a document; only an object has entries. -/
def ofDocument (document : Json) : Record :=
  if document.isObject then flattenInto [] [] document else []

/-- The segments of a root path. -/
def pathSegments (path : Text) : List Text :=
  (path.splitAt '.').filter (!·.isEmpty)

/-- The value that one path segment leads to: a member by its key, an item by its index. -/
def step? (value : Json) (segment : Text) : Option Json :=
  match value with
  | .object members => Entries.get? segment members
  | .array items =>
    match readCount segment with
    | .ok index => items[index]?
    | .error _ => none
  | _ => none

/-- The value that a sequence of path segments leads to. -/
def follow? (value : Json) : List Text → Option Json
  | [] => some value
  | segment :: rest => (step? value segment).bind (follow? · rest)

/-- The records that a value stands for: an object for itself, an array for each of its objects. -/
def objectsOf : Json → List Json
  | .array items => items.filter Json.isObject
  | .object members => [.object members]
  | _ => []

/-- The parts of a document that hold records. -/
def nodes (document : Json) (rootPath : Option Text) : List Json :=
  match rootPath with
  | none => [document]
  | some path =>
    match follow? document (pathSegments path) with
    | none => []
    | some node => objectsOf node

/-- The records of documents. -/
def ofDocuments (documents : List Json) (rootPath : Option Text) : List Record :=
  (documents.flatMap (nodes · rootPath)).map ofDocument

end Record

/-- The records of a result page, with the names of their fields. -/
structure RecordList where
  fields : List Text
  records : List Record
  deriving DecidableEq, Repr

namespace RecordList

/-- The first occurrences in a list, behind those that were seen already. -/
def firstSeen (seen : List Text) : List Text → List Text
  | [] => []
  | key :: rest =>
    if seen.contains key then firstSeen seen rest else key :: firstSeen (key :: seen) rest

/-- The list of given records. Its fields are the requested ones, or if there are none, all keys
of the records in the order of their first appearance. -/
def ofRecords (records : List Record) (requested : List Text) : RecordList where
  fields := if requested.isEmpty then firstSeen [] (records.flatMap Entries.keys) else requested
  records := records

/-- The number of records. -/
def count (list : RecordList) : Nat :=
  list.records.length

/-- The JSON value of a record. -/
def recordJson (record : Record) : Json :=
  .object (record.map fun entry => (entry.1, .string entry.2))

/-- The summary of a list: its number of records, as a count and as a size. -/
def summary (list : RecordList) : Entries Text :=
  [("count".toList, Text.ofNat list.count), ("size".toList, Text.ofNat list.count)]

/-- The JSON value of a list. -/
def toJson (list : RecordList) : Json :=
  .object [
    ("fields".toList, .array (list.fields.map .string)),
    ("records".toList, .array (list.records.map recordJson)),
    ("metadata".toList, recordJson list.summary)]

end RecordList

end SearchGateway
