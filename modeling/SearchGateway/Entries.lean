import SearchGateway.Text.Basic

/-!
# Entries

A collection of values under text keys that keeps the order in which the keys first came. Writing
to a key that is present keeps its place and replaces its value, so a key stands at most once in a
collection built by `put`.
-/

namespace SearchGateway

/-- Values under text keys, in the order of their keys' first appearance. -/
abbrev Entries (α : Type) := List (Text × α)

namespace Entries

variable {α : Type}

/-- The value under a key. -/
def get? (key : Text) : Entries α → Option α
  | [] => none
  | (k, v) :: rest => if k = key then some v else get? key rest

/-- Sets the value under a key, at the key's place or else at the end. -/
def put (key : Text) (value : α) : Entries α → Entries α
  | [] => [(key, value)]
  | (k, v) :: rest => if k = key then (k, value) :: rest else (k, v) :: put key value rest

/-- Sets the value under a key, in a collection that is in ascending order of its keys. -/
def putSorted (key : Text) (value : α) : Entries α → Entries α
  | [] => [(key, value)]
  | (k, v) :: rest =>
    if k = key then (k, value) :: rest
    else if key < k then (key, value) :: (k, v) :: rest
    else (k, v) :: putSorted key value rest

/-- The keys, in order. -/
def keys (entries : Entries α) : List Text :=
  entries.map Prod.fst

/-- The collection that results from setting each of the given entries in turn. -/
def ofList (entries : List (Text × α)) : Entries α :=
  entries.foldl (fun acc entry => acc.put entry.1 entry.2) []

end Entries

end SearchGateway
