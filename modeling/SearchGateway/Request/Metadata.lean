import SearchGateway.Error
import SearchGateway.Request.Order

/-!
# Request metadata

Which page of the results a request asks for, in which order, and which fields. Raw metadata are
texts by key; a blank text counts as absent. Instead of an offset they may give the number of a
page, counted from one. No page, offset or page number is greater than the greatest count, and the
offset of a page beyond stays there.
-/

namespace SearchGateway

/-- The settings of a request. -/
structure Metadata where
  /-- The number of records on a page; none and zero mean the default. -/
  pageSize : Option Nat := none
  /-- The number of records to skip. -/
  offset : Option Nat := none
  /-- The sort keys, most significant first. -/
  order : List SortKey := []
  /-- The fields to return; none means all. -/
  fields : List Text := []
  deriving DecidableEq, Repr

namespace Metadata

/-- The number of records on a page where nothing else is asked for. -/
def defaultPageSize : Nat := 1000

/-- The page size that a given one stands for. -/
def resolvePageSize (given : Option Nat) : Nat :=
  match given with
  | none => defaultPageSize
  | some 0 => defaultPageSize
  | some n => n

/-- The number of records on a page. -/
def effectivePageSize (metadata : Metadata) : Nat :=
  resolvePageSize metadata.pageSize

/-- The number of records to skip. -/
def effectiveOffset (metadata : Metadata) : Nat :=
  metadata.offset.getD 0

/-- The trimmed text under a key, unless it is blank. -/
def nonBlank? (raw : Entries Text) (key : Text) : Option Text :=
  ((raw.get? key).map Text.trim).filter (!·.isEmpty)

/-- The count under a key. -/
def count? (raw : Entries Text) (key : Text) : Except Error (Option Nat) :=
  match nonBlank? raw key with
  | none => .ok none
  | some value =>
    match readCount value with
    | .ok n => .ok (some n)
    | .error cause => .error (.invalidMetadata key value cause)

/-- The offset of the page with a given number. -/
def pageOffset (pageNumber pageSize : Nat) : Nat :=
  boundCount ((pageNumber - 1) * pageSize)

/-- The number of records to skip, from an offset or else from a page number. -/
def readOffset (raw : Entries Text) (pageSize : Option Nat) : Except Error (Option Nat) := do
  match ← count? raw "offset".toList with
  | some n => return some n
  | none =>
    let pageNumber ← count? raw "pageNumber".toList
    return pageNumber.map fun n => pageOffset n (resolvePageSize pageSize)

/-- Reads raw metadata. -/
def ofRaw (raw : Entries Text) (fields : List Text) : Except Error Metadata := do
  let pageSize ← count? raw "pageSize".toList
  let offset ← readOffset raw pageSize
  let order := ((nonBlank? raw "order".toList).map readOrder).getD []
  return { pageSize, offset, order, fields }

/-- How the settings stand in JSON. -/
def layout : Json.Layout Metadata where
  name := "RequestMetadata".toList
  initial := {}
  fields := [
    ⟨"pageSize".toList, false, fun _ metadata s => do
      let (pageSize, s) ← Json.readOptional Json.readCountValue s
      return ({ metadata with pageSize }, s)⟩,
    ⟨"offset".toList, false, fun _ metadata s => do
      let (offset, s) ← Json.readOptional Json.readCountValue s
      return ({ metadata with offset }, s)⟩,
    ⟨"order".toList, false, fun depth metadata s => do
      let (order, s) ← Json.readListOf SortKey.layout.read depth s
      return ({ metadata with order }, s)⟩,
    ⟨"fields".toList, false, fun depth metadata s => do
      let (fields, s) ← Json.readListOf (fun _ => Json.readStringValue) depth s
      return ({ metadata with fields }, s)⟩]

/-- The JSON value of a count that may be absent. -/
def countJson : Option Nat → Json
  | none => .null
  | some n => .number (.integer n)

/-- The JSON value of the settings. -/
def toJson (metadata : Metadata) : Json :=
  .object [
    ("pageSize".toList, countJson metadata.pageSize),
    ("offset".toList, countJson metadata.offset),
    ("order".toList, .array (metadata.order.map SortKey.toJson)),
    ("fields".toList, .array (metadata.fields.map .string))]

end Metadata

end SearchGateway
