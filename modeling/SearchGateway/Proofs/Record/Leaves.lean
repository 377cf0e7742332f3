import Mathlib.Data.List.Nodup
import SearchGateway.Proofs.Entries
import SearchGateway.Proofs.Number.Count
import SearchGateway.Proofs.Text.Pieces
import SearchGateway.Record

/-!
# Leaves of documents

The leaves of a document are its strings and numbers, in their order, each with the path of keys and
indices that leads to it. The record of an object is made by setting its leaves one after the other,
so of two leaves under one key the last one stays; where no key is empty or has a dot, no two leaves
have one key (`ofDocument_leaves`).
-/

namespace SearchGateway

/-- A step into a value: to the member under a key or to the item at an index. -/
inductive Segment where
  | member (key : Text)
  | item (index : Nat)
  deriving DecidableEq, Repr

/-- How a step stands in a key. -/
def Segment.text : Segment → Text
  | .member key => key
  | .item index => Text.ofNat index

/-- A text inside of a value, and the path that leads to it. -/
structure Leaf where
  path : List Segment
  text : Text
  deriving DecidableEq, Repr

namespace Leaf

/-- A leaf as it is seen from one step further out. -/
def behind (segment : Segment) (leaf : Leaf) : Leaf :=
  ⟨segment :: leaf.path, leaf.text⟩

/-- The segments of the path of a leaf, as they stand in its key. -/
def texts (leaf : Leaf) : List Text :=
  leaf.path.map Segment.text

/-- From one step further out a leaf has one more segment in front. -/
lemma texts_behind (segment : Segment) (leaf : Leaf) :
    (leaf.behind segment).texts = segment.text :: leaf.texts := rfl

/-- The key of a leaf inside of a value that stands under a key itself. -/
def keyFrom (key : Text) (leaf : Leaf) : Text :=
  leaf.texts.foldl Record.extend key

/-- The key of a leaf. -/
def key (leaf : Leaf) : Text :=
  leaf.keyFrom []

/-- What a leaf sets inside of a value that stands under a key. -/
def entryFrom (key : Text) (leaf : Leaf) : Text × Text :=
  (leaf.keyFrom key, leaf.text)

end Leaf

namespace Json

mutual

/-- The strings and numbers inside of a value, in their order. -/
def leaves : Json → List Leaf
  | .object members => membersLeaves members
  | .array items => itemsLeaves 0 items
  | .string s => [⟨[], s⟩]
  | .number n => [⟨[], n.text⟩]
  | .bool _ | .null => []

/-- The leaves of the members of an object. -/
def membersLeaves : List (Text × Json) → List Leaf
  | [] => []
  | (key, j) :: ms => (leaves j).map (Leaf.behind (.member key)) ++ membersLeaves ms

/-- The leaves of the items of an array, the first of them at the given index. -/
def itemsLeaves (index : Nat) : List Json → List Leaf
  | [] => []
  | j :: js => (leaves j).map (Leaf.behind (.item index)) ++ itemsLeaves (index + 1) js

end

end Json

namespace Record

/-- A segment behind a key that is not empty stands behind a dot. -/
lemma extend_of_ne_nil {key : Text} (h : key ≠ []) (segment : Text) :
    extend key segment = key ++ '.' :: segment :=
  if_neg fun hkey => h (List.isEmpty_iff.1 hkey)

/-- Setting the leaves of a value behind a segment is setting them under the longer key. -/
lemma putAllSorted_behind (record : Record) (key : Text) (segment : Segment)
    (leaves more : List Leaf) :
    record.putAllSorted ((leaves.map (Leaf.behind segment) ++ more).map (Leaf.entryFrom key)) =
      (record.putAllSorted (leaves.map (Leaf.entryFrom (extend key segment.text)))).putAllSorted
        (more.map (Leaf.entryFrom key)) := by
  have hentry : Leaf.entryFrom key ∘ Leaf.behind segment =
      Leaf.entryFrom (extend key segment.text) := rfl
  unfold Entries.putAllSorted
  rw [List.map_append, List.map_map, hentry, List.foldl_append]

mutual

/-- A value is flattened by setting its leaves one after the other. -/
lemma flattenInto_eq (key : Text) (record : Record) : ∀ j : Json,
    flattenInto key record j = record.putAllSorted (j.leaves.map (Leaf.entryFrom key))
  | .object members => flattenMembers_eq key record members
  | .array items => flattenItems_eq key 0 record items
  | .string _ => rfl
  | .number _ => rfl
  | .bool _ => rfl
  | .null => rfl

/-- Members are flattened by setting their leaves one after the other. -/
lemma flattenMembers_eq (key : Text) (record : Record) : ∀ members : List (Text × Json),
    flattenMembers key record members =
      record.putAllSorted ((Json.membersLeaves members).map (Leaf.entryFrom key))
  | [] => rfl
  | (name, j) :: ms => by
    rw [flattenMembers, flattenInto_eq (extend key name) record j, flattenMembers_eq key _ ms,
      Json.membersLeaves, putAllSorted_behind]
    rfl

/-- Items are flattened by setting their leaves one after the other. -/
lemma flattenItems_eq (key : Text) (index : Nat) (record : Record) : ∀ items : List Json,
    flattenItems key index record items =
      record.putAllSorted ((Json.itemsLeaves index items).map (Leaf.entryFrom key))
  | [] => rfl
  | j :: js => by
    rw [flattenItems, flattenInto_eq (extend key (Text.ofNat index)) record j,
      flattenItems_eq key (index + 1) _ js, Json.itemsLeaves, putAllSorted_behind]
    rfl

end

/-- The record of an object is made of its leaves. -/
lemma ofDocument_eq {document : Json} (h : document.isObject = true) :
    ofDocument document = Entries.putAllSorted [] (document.leaves.map (Leaf.entryFrom [])) := by
  unfold ofDocument
  rw [if_pos h, flattenInto_eq]

/-- Under a key stands the text of the last leaf with that key. -/
lemma get?_ofDocument {document : Json} (h : document.isObject = true) (k : Text) :
    (ofDocument document).get? k =
      (document.leaves.filter fun leaf => leaf.key = k).getLast?.map Leaf.text := by
  rw [ofDocument_eq h, Entries.get?_putAllSorted, List.filter_map, List.getLast?_map,
    Option.map_map]
  exact Option.or_none

/-- The keys of a record are in ascending order. -/
lemma ascending_ofDocument (document : Json) : (ofDocument document).Ascending := by
  unfold ofDocument
  split
  · rw [flattenInto_eq]
    exact Entries.Ascending.nil.putAllSorted _
  · exact .nil

/-- Leaves set their keys. -/
lemma keys_map_entryFrom (leaves : List Leaf) :
    Entries.keys (leaves.map (Leaf.entryFrom [])) = leaves.map Leaf.key := by
  unfold Entries.keys
  rw [List.map_map]
  rfl

/-- The keys of a record are those of the leaves. -/
lemma mem_keys_ofDocument {document : Json} (h : document.isObject = true) {k : Text} :
    k ∈ (ofDocument document).keys ↔ ∃ leaf ∈ document.leaves, leaf.key = k := by
  rw [ofDocument_eq h, Entries.mem_keys_putAllSorted, keys_map_entryFrom, List.mem_map]
  exact or_iff_right List.not_mem_nil

end Record

/-- Whether a text is one segment of a dotted path. -/
def IsDotless (s : Text) : Prop :=
  s ≠ [] ∧ '.' ∉ s

instance (s : Text) : Decidable (IsDotless s) :=
  inferInstanceAs (Decidable (_ ∧ _))

/-- An index is one segment. -/
lemma isDotless_ofNat (n : Nat) : IsDotless (Text.ofNat n) := by
  refine ⟨Nat.toDigits_ne_nil, fun h => ?_⟩
  exact absurd (Nat.isDigit_of_mem_toDigits (by decide) (by decide) h) (by decide)

/-- A key goes on with further segments behind dots. -/
lemma foldl_extend {key : Text} (hkey : key ≠ []) (ts : List Text) :
    ts.foldl Record.extend key = Text.join ['.'] (key :: ts) := by
  induction ts generalizing key with
  | nil => rfl
  | cons t ts ih =>
    rw [List.foldl_cons, Record.extend_of_ne_nil hkey,
      ih (List.append_ne_nil_of_left_ne_nil hkey _)]
    cases ts with
    | nil => simp [Text.join]
    | cons u us => simp [Text.join]

/-- Segments of which none is empty are joined by dots. -/
lemma foldl_extend_nil {ts : List Text} (h : ∀ t ∈ ts, IsDotless t) :
    ts.foldl Record.extend [] = Text.join ['.'] ts := by
  cases ts with
  | nil => rfl
  | cons t ts => exact foldl_extend (h t (.head _)).1 ts

/-- Segments are found again in the path that they make. -/
lemma pathSegments_join {ts : List Text} (h : ∀ t ∈ ts, IsDotless t) :
    Record.pathSegments (Text.join ['.'] ts) = ts := by
  cases ts with
  | nil => rfl
  | cons t ts =>
    unfold Record.pathSegments
    rw [Text.splitAt_join (fun u hu => (h u hu).2) (List.cons_ne_nil t ts), List.filter_eq_self]
    intro u hu
    rw [Bool.not_eq_true']
    exact List.isEmpty_eq_false_iff.2 (h u hu).1

namespace Json

/-- Whether no key in a value is empty or has a dot. Objects are maps: none has a key twice. -/
inductive Dotless : Json → Prop where
  | null : Dotless .null
  | bool {b} : Dotless (.bool b)
  | number {n} : Dotless (.number n)
  | string {s} : Dotless (.string s)
  | array {items} : (∀ item ∈ items, Dotless item) → Dotless (.array items)
  | object {members : List (Text × Json)} : (members.map Prod.fst).Nodup →
      (∀ m ∈ members, IsDotless m.1) → (∀ m ∈ members, Dotless m.2) → Dotless (.object members)

/-- The values one step inside of a value. -/
def branches : Json → List (Segment × Json)
  | .object members => members.map fun m => (.member m.1, m.2)
  | .array items => items.zipIdx.map fun p => (.item p.2, p.1)
  | _ => []

/-- The leaves behind a step. -/
def branchLeaves (branch : Segment × Json) : List Leaf :=
  branch.2.leaves.map (Leaf.behind branch.1)

/-- The leaves of an object are those behind the steps to its members. -/
lemma leaves_object (members : List (Text × Json)) :
    leaves (.object members) = (branches (.object members)).flatMap branchLeaves := by
  have hmembers (ms : List (Text × Json)) : membersLeaves ms =
      (ms.map fun m => (Segment.member m.1, m.2)).flatMap branchLeaves := by
    induction ms with
    | nil => rfl
    | cons m ms ih =>
      rw [membersLeaves, ih]
      rfl
  exact hmembers members

/-- The leaves of an array are those behind the steps to its items. -/
lemma leaves_array (items : List Json) :
    leaves (.array items) = (branches (.array items)).flatMap branchLeaves := by
  have hitems (js : List Json) (index : Nat) : itemsLeaves index js =
      ((js.zipIdx index).map fun p => (Segment.item p.2, p.1)).flatMap branchLeaves := by
    induction js generalizing index with
    | nil => rfl
    | cons j js ih =>
      rw [itemsLeaves, ih]
      rfl
  exact hitems items 0

/-- No two steps into a value are written alike. -/
lemma Dotless.nodup_branches {j : Json} (h : Dotless j) :
    ((branches j).map fun b => b.1.text).Nodup := by
  cases h with
  | null | bool | number | string => exact .nil
  | object hnodup _ _ =>
    rw [branches, List.map_map]
    exact hnodup
  | @array items _ =>
    have hindex : (items.zipIdx.map fun p => (Segment.item p.2, p.1)).map (fun b => b.1.text) =
        (items.zipIdx.map Prod.snd).map Text.ofNat := by
      rw [List.map_map, List.map_map]
      rfl
    rw [branches, hindex, List.zipIdx_map_snd]
    exact List.Nodup.map Text.ofNat_injective List.nodup_range'

/-- A step is one segment, and no key behind it is empty or has a dot. -/
lemma Dotless.of_mem_branches {j : Json} (h : Dotless j) {b : Segment × Json}
    (hb : b ∈ branches j) : IsDotless b.1.text ∧ Dotless b.2 := by
  cases h with
  | null | bool | number | string => cases hb
  | object _ hkeys hvalues =>
    obtain ⟨m, hm, rfl⟩ := List.mem_map.1 hb
    exact ⟨hkeys m hm, hvalues m hm⟩
  | array hitems =>
    obtain ⟨p, hp, rfl⟩ := List.mem_map.1 hb
    exact ⟨isDotless_ofNat p.2, hitems p.1 (List.fst_mem_of_mem_zipIdx hp)⟩

/-- A fact about all values with such keys holds of a value where it holds of all that are one step
inside of it. -/
@[elab_as_elim] lemma Dotless.rec_branches {motive : (j : Json) → Dotless j → Prop}
    (scalar : ∀ j (h : Dotless j), leaves j = [] ∨ (∃ t, leaves j = [⟨[], t⟩]) → motive j h)
    (branched : ∀ j (h : Dotless j), leaves j = (branches j).flatMap branchLeaves →
      (∀ b (hb : b ∈ branches j), motive b.2 (h.of_mem_branches hb).2) → motive j h)
    {j : Json} (h : Dotless j) : motive j h := by
  induction h with
  | null => exact scalar _ .null (.inl rfl)
  | bool => exact scalar _ .bool (.inl rfl)
  | number => exact scalar _ .number (.inr ⟨_, rfl⟩)
  | string => exact scalar _ .string (.inr ⟨_, rfl⟩)
  | array hitems ih =>
    refine branched _ (.array hitems) (leaves_array _) fun b hb => ?_
    obtain ⟨p, hp, rfl⟩ := List.mem_map.1 hb
    exact ih p.1 (List.fst_mem_of_mem_zipIdx hp)
  | object hnodup hkeys hvalues ih =>
    refine branched _ (.object hnodup hkeys hvalues) (leaves_object _) fun b hb => ?_
    obtain ⟨m, hm, rfl⟩ := List.mem_map.1 hb
    exact ih m hm

/-- The segments of a path stand for themselves in its key. -/
lemma Dotless.isDotless_texts {j : Json} (h : Dotless j) :
    ∀ leaf ∈ leaves j, ∀ t ∈ leaf.texts, IsDotless t := by
  induction h using Dotless.rec_branches with
  | scalar j _ hscalar =>
    obtain hj | ⟨t, hj⟩ := hscalar
    · rw [hj]
      exact nofun
    · rw [hj]
      exact List.forall_mem_singleton.2 nofun
  | branched j h hj ih =>
    intro leaf hleaf
    rw [hj] at hleaf
    obtain ⟨b, hb, hleaf⟩ := List.mem_flatMap.1 hleaf
    obtain ⟨inner, hinner, rfl⟩ := List.mem_map.1 hleaf
    exact List.forall_mem_cons.2 ⟨(h.of_mem_branches hb).1, ih b hb inner hinner⟩

/-- The leaves behind a step have its text in front of their own. -/
lemma map_texts_branchLeaves (b : Segment × Json) :
    (branchLeaves b).map Leaf.texts = (b.2.leaves.map Leaf.texts).map (List.cons b.1.text) := by
  unfold branchLeaves
  rw [List.map_map, List.map_map]
  rfl

/-- Steps that are written differently lead to leaves with different paths. -/
lemma nodup_texts_branches {bs : List (Segment × Json)} (hbs : (bs.map fun b => b.1.text).Nodup)
    (h : ∀ b ∈ bs, (b.2.leaves.map Leaf.texts).Nodup) :
    ((bs.flatMap branchLeaves).map Leaf.texts).Nodup := by
  induction bs with
  | nil => exact .nil
  | cons b bs ih =>
    obtain ⟨hfirst, hrest⟩ := List.nodup_cons.1 hbs
    obtain ⟨hb, hbs⟩ := List.forall_mem_cons.1 h
    rw [List.flatMap_cons, List.map_append, map_texts_branchLeaves, List.nodup_append]
    refine ⟨hb.map (List.cons_injective), ih hrest hbs, fun ts hts us hus => ?_⟩
    obtain ⟨ts, _, rfl⟩ := List.mem_map.1 hts
    obtain ⟨leaf, hleaf, rfl⟩ := List.mem_map.1 hus
    obtain ⟨b', hb', hleaf⟩ := List.mem_flatMap.1 hleaf
    obtain ⟨leaf, _, rfl⟩ := List.mem_map.1 hleaf
    intro heq
    exact hfirst (List.mem_map.2 ⟨b', hb', (List.cons.inj heq).1.symm⟩)

/-- No two leaves have the same path. -/
lemma Dotless.nodup_texts {j : Json} (h : Dotless j) : ((leaves j).map Leaf.texts).Nodup := by
  induction h using Dotless.rec_branches with
  | scalar j _ hscalar =>
    obtain hj | ⟨t, hj⟩ := hscalar
    · rw [hj]
      exact .nil
    · rw [hj]
      exact List.nodup_singleton _
  | branched j h hj ih =>
    rw [hj]
    exact nodup_texts_branches h.nodup_branches ih

/-- The key of a leaf has the segments of its path between its dots. -/
lemma Dotless.key_eq {j : Json} (h : Dotless j) {leaf : Leaf} (hleaf : leaf ∈ leaves j) :
    leaf.key = Text.join ['.'] leaf.texts :=
  foldl_extend_nil (h.isDotless_texts leaf hleaf)

/-- Different leaves have different keys. -/
lemma Dotless.nodup_keys {j : Json} (h : Dotless j) : ((leaves j).map Leaf.key).Nodup := by
  have htexts : ((leaves j).map Leaf.key).map Record.pathSegments = (leaves j).map Leaf.texts := by
    rw [List.map_map]
    refine List.map_congr_left fun leaf hleaf => ?_
    rw [Function.comp_apply, h.key_eq hleaf, pathSegments_join (h.isDotless_texts leaf hleaf)]
  refine List.Nodup.of_map Record.pathSegments ?_
  rw [htexts]
  exact h.nodup_texts

end Json

namespace Record

/-- Where the keys of leaves are all different, each leaf keeps its text. -/
lemma get?_ofDocument_key {document : Json} (h : document.isObject = true)
    (hkeys : (document.leaves.map Leaf.key).Nodup) {leaf : Leaf} (hleaf : leaf ∈ document.leaves) :
    (ofDocument document).get? leaf.key = some leaf.text := by
  have hmem : leaf ∈ document.leaves.filter fun other => other.key = leaf.key :=
    List.mem_filter.2 ⟨hleaf, decide_eq_true rfl⟩
  have hlast := List.getLast?_eq_some_getLast (List.ne_nil_of_mem hmem)
  obtain ⟨hother, heq⟩ := List.mem_filter.1 (List.getLast_mem (List.ne_nil_of_mem hmem))
  rw [List.inj_on_of_nodup_map hkeys hother hleaf (of_decide_eq_true heq)] at hlast
  rw [get?_ofDocument h, hlast]
  rfl

/-- Where the keys of leaves are all different, each leaf has an entry. -/
lemma length_ofDocument {document : Json} (h : document.isObject = true)
    (hkeys : (document.leaves.map Leaf.key).Nodup) :
    (ofDocument document).length = document.leaves.length := by
  rw [← keys_map_entryFrom] at hkeys
  rw [ofDocument_eq h, Entries.length_putAllSorted hkeys fun _ _ => List.not_mem_nil,
    List.length_nil, Nat.zero_add, List.length_map]

/-- The record of an object has exactly the keys of its leaves, each with the text of the last leaf
with this key; that of any other document is empty. Where keys are not empty and have no dot, no two
leaves have one key, so every leaf has an entry of its own. -/
theorem ofDocument_leaves (document : Json) :
    (document.isObject = true →
      (∀ k, k ∈ (ofDocument document).keys ↔ ∃ leaf ∈ document.leaves, leaf.key = k) ∧
      ∀ k, (ofDocument document).get? k =
        (document.leaves.filter fun leaf => leaf.key = k).getLast?.map Leaf.text) ∧
    (document.isObject = false → ofDocument document = []) ∧
    (ofDocument document).Ascending ∧
    (document.Dotless → (document.leaves.map Leaf.key).Nodup ∧
      (document.isObject = true →
        (ofDocument document).length = document.leaves.length ∧
        ∀ leaf ∈ document.leaves, (ofDocument document).get? leaf.key = some leaf.text)) := by
  refine ⟨fun h => ⟨fun k => mem_keys_ofDocument h, get?_ofDocument h⟩, fun h => ?_,
    ascending_ofDocument document, fun hdotless => ⟨hdotless.nodup_keys, fun h => ?_⟩⟩
  · unfold ofDocument
    rw [h]
    rfl
  · exact ⟨length_ofDocument h hdotless.nodup_keys,
      fun leaf => get?_ofDocument_key h hdotless.nodup_keys⟩

/-- An object of an object and an array. -/
def nestedDocument : Json :=
  .object [("a".toList, .object [("b".toList, .string "x".toList)]),
    ("c".toList, .array [.bool true, .string "y".toList])]

/-- No key in the document is empty or has a dot. -/
lemma dotless_nestedDocument : nestedDocument.Dotless := by
  have hobject : Json.Dotless (.object [("b".toList, .string "x".toList)]) :=
    .object (by decide) (by decide) (List.forall_mem_singleton.2 .string)
  have harray : Json.Dotless (.array [.bool true, .string "y".toList]) :=
    .array (List.forall_mem_cons.2 ⟨.bool, List.forall_mem_singleton.2 .string⟩)
  exact .object (by decide) (by decide)
    (List.forall_mem_cons.2 ⟨hobject, List.forall_mem_singleton.2 harray⟩)

/-- A member with a dot in its key gives way to a later leaf under this key; a truth value is no
leaf, but counts as an item; an array is no document. -/
theorem ofDocument_leaves_nested :
    (ofDocument (.object [("a.b".toList, .string "z".toList),
      ("a".toList, .object [("b".toList, .string "x".toList)])])).get? "a.b".toList =
        some "x".toList ∧
    ofDocument (.array [nestedDocument]) = [] ∧
    (ofDocument nestedDocument).length = 2 ∧
    (ofDocument nestedDocument).get? "c.1".toList = some "y".toList := by
  refine ⟨?_, ?_, ?_⟩
  · exact ((ofDocument_leaves _).1 rfl).2 _
  · exact (ofDocument_leaves (.array [nestedDocument])).2.1 rfl
  · obtain ⟨_, _, _, hdotless⟩ := ofDocument_leaves nestedDocument
    obtain ⟨_, hobject⟩ := hdotless dotless_nestedDocument
    obtain ⟨hlength, htexts⟩ := hobject rfl
    exact ⟨hlength, htexts ⟨[.member "c".toList, .item 1], "y".toList⟩ (.tail _ (.head _))⟩

end Record

end SearchGateway
