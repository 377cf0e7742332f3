import SearchGateway.Proofs.Record.Leaves

/-!
# Parts of documents

A dotted path leads from a document to one of its parts, and the same path stands in front of the
keys of all leaves in that part. So the record of a part is what the record of the document has
under keys that begin with the path (`get?_ofDocument_nodes`).
-/

namespace SearchGateway

namespace Json

/-- Whether a path of keys and indices leads from a value to one inside of it. -/
inductive Leads : Json → List Segment → Json → Prop where
  | here {j} : Leads j [] j
  | member {members key j path node} : Entries.get? key members = some j → Leads j path node →
      Leads (.object members) (.member key :: path) node
  | item {items index j path node} : items[index]? = some j → Leads j path node →
      Leads (.array items) (.item index :: path) node

/-- Whether a path that is given by the texts of its segments leads from a value to one inside of
it. -/
inductive Follows : Json → List Text → Json → Prop where
  | here {j} : Follows j [] j
  | member {members key j path node} : Entries.get? key members = some j → Follows j path node →
      Follows (.object members) (key :: path) node
  | item {items s index j path node} : WritesCount s index → items[index]? = some j →
      Follows j path node → Follows (.array items) (s :: path) node

/-- Whether a value has nothing inside of it. -/
def IsScalar (j : Json) : Prop :=
  j.asObject? = none ∧ j.asArray? = none

/-- Whether a segment of a path leads nowhere from a value. -/
inductive Stuck : Json → Text → Prop where
  | lacks {members s} : s ∉ Entries.keys members → Stuck (.object members) s
  | unread {items s} : (∀ n, ¬ WritesCount s n) → Stuck (.array items) s
  | beyond {items s n} : WritesCount s n → items.length ≤ n → Stuck (.array items) s
  | scalar {j s} : IsScalar j → Stuck j s

/-- Paths lead on from where others lead to. -/
lemma Leads.trans {j j' node : Json} {path path' : List Segment} (h : Leads j path j')
    (h' : Leads j' path' node) : Leads j (path ++ path') node := by
  induction h with
  | here => exact h'
  | member hj _ ih => exact .member hj (ih h')
  | item hj _ ih => exact .item hj (ih h')

/-- The first step of a path leads to a branch. -/
lemma Leads.exists_branch {j node : Json} {s : Segment} {path : List Segment}
    (h : Leads j (s :: path) node) :
    ∃ b ∈ branches j, b.1 = s ∧ Leads b.2 path node ∧
      leaves j = (branches j).flatMap branchLeaves := by
  cases h with
  | @member members key j _ _ hj h =>
    refine ⟨(.member key, j), ?_, rfl, h, leaves_object _⟩
    exact List.mem_map.2 ⟨(key, j), Entries.mem_of_get? hj, rfl⟩
  | @item items index j _ _ hj h =>
    refine ⟨(.item index, j), ?_, rfl, h, leaves_array _⟩
    exact List.mem_map.2 ⟨(j, index), List.mem_zipIdx_iff_getElem?.2 hj, rfl⟩

/-- The steps of a path stand for themselves, and no key behind it is empty or has a dot. -/
lemma Leads.isDotless {j node : Json} {path : List Segment} (h : Leads j path node)
    (hj : Dotless j) : (∀ t ∈ path.map Segment.text, IsDotless t) ∧ Dotless node := by
  induction path generalizing j with
  | nil =>
    cases h with
    | here => exact ⟨nofun, hj⟩
  | cons s path ih =>
    obtain ⟨b, hb, rfl, h, _⟩ := h.exists_branch
    obtain ⟨htext, hb⟩ := hj.of_mem_branches hb
    obtain ⟨htexts, hnode⟩ := ih h hb
    exact ⟨List.forall_mem_cons.2 ⟨htext, htexts⟩, hnode⟩

/-- Behind a step are the leaves whose path begins with it. -/
lemma filter_branchLeaves (b : Segment × Json) (t : Text) (ts : List Text) :
    (branchLeaves b).filter (fun leaf => leaf.texts = t :: ts) =
      if b.1.text = t then (b.2.leaves.filter fun leaf => leaf.texts = ts).map (Leaf.behind b.1)
      else [] := by
  unfold branchLeaves
  rw [List.filter_map]
  split
  · rename_i ht
    refine congrArg _ (List.filter_congr fun leaf _ => ?_)
    rw [Function.comp_apply, decide_eq_decide, Leaf.texts_behind, List.cons.injEq]
    exact and_iff_right ht
  · rename_i ht
    rw [List.map_eq_nil_iff, List.filter_eq_nil_iff]
    intro leaf _
    rw [Function.comp_apply, decide_eq_true_eq, Leaf.texts_behind, List.cons.injEq]
    exact fun h => ht h.1

/-- Of several steps that are written differently, one leads to the leaves whose path begins with
it. -/
lemma filter_flatMap_branchLeaves {bs : List (Segment × Json)}
    (hbs : (bs.map fun b => b.1.text).Nodup) {b : Segment × Json} (hb : b ∈ bs) (ts : List Text) :
    (bs.flatMap branchLeaves).filter (fun leaf => leaf.texts = b.1.text :: ts) =
      (b.2.leaves.filter fun leaf => leaf.texts = ts).map (Leaf.behind b.1) := by
  induction bs with
  | nil => cases hb
  | cons b' bs ih =>
    obtain ⟨hfirst, hrest⟩ := List.nodup_cons.1 hbs
    rw [List.flatMap_cons, List.filter_append, filter_branchLeaves]
    cases hb with
    | head =>
      have hnone :
          (bs.flatMap branchLeaves).filter (fun leaf => leaf.texts = b.1.text :: ts) = [] := by
        rw [List.filter_flatMap, List.flatMap_eq_nil_iff]
        intro b' hb'
        rw [filter_branchLeaves, if_neg]
        exact fun heq => hfirst (List.mem_map.2 ⟨b', hb', heq⟩)
      rw [if_pos rfl, hnone, List.append_nil]
    | tail _ hb =>
      have hne : b'.1.text ≠ b.1.text := fun heq =>
        hfirst (List.mem_map.2 ⟨b, hb, heq.symm⟩)
      rw [if_neg hne, List.nil_append, ih hrest hb]

/-- The leaves of a part are the leaves whose path begins with the one to the part. -/
lemma Leads.filter_leaves {j node : Json} {path : List Segment} (h : Leads j path node)
    (hj : Dotless j) (ts : List Text) :
    ((leaves j).filter fun leaf => leaf.texts = path.map Segment.text ++ ts).map Leaf.text =
      ((leaves node).filter fun leaf => leaf.texts = ts).map Leaf.text := by
  induction path generalizing j with
  | nil =>
    cases h with
    | here => rfl
  | cons s path ih =>
    obtain ⟨b, hb, rfl, h, hleaves⟩ := h.exists_branch
    rw [hleaves, List.map_cons, List.cons_append,
      filter_flatMap_branchLeaves hj.nodup_branches hb, List.map_map,
      ← ih h (hj.of_mem_branches hb).2]
    rfl

end Json

namespace Record

open Json

/-- An object is no leaf itself. -/
lemma texts_ne_nil {document : Json} (h : document.isObject = true) {leaf : Leaf}
    (hleaf : leaf ∈ leaves document) : leaf.texts ≠ [] := by
  cases document with
  | object members =>
    rw [leaves_object] at hleaf
    obtain ⟨b, _, hleaf⟩ := List.mem_flatMap.1 hleaf
    obtain ⟨inner, _, rfl⟩ := List.mem_map.1 hleaf
    exact List.cons_ne_nil _ _
  | _ => cases h

/-- The text under a key is found by the segments of the key. -/
lemma get?_ofDocument_texts {document : Json} (h : document.isObject = true)
    (hdotless : document.Dotless) (k : Text) :
    (ofDocument document).get? k =
      ((document.leaves.filter fun leaf => leaf.texts = k.splitAt '.').map Leaf.text).getLast? := by
  rw [get?_ofDocument h, List.getLast?_map]
  refine congrArg (fun l : List Leaf => l.getLast?.map Leaf.text) (List.filter_congr ?_)
  intro leaf hleaf
  rw [decide_eq_decide, hdotless.key_eq hleaf]
  constructor
  · rintro rfl
    have hdots := fun t ht => (hdotless.isDotless_texts leaf hleaf t ht).2
    exact (Text.splitAt_join hdots (texts_ne_nil h hleaf)).symm
  · intro htexts
    rw [htexts, Text.join_splitAt]

/-- The record of a part has what the record of the document has behind the path to the part. -/
lemma get?_ofDocument_of_leads {document node : Json} {path : List Segment}
    (hdocument : document.isObject = true) (hdotless : document.Dotless) (hpath : path ≠ [])
    (hleads : document.Leads path node) (hnode : node.isObject = true) (k : Text) :
    (ofDocument node).get? k =
      (ofDocument document).get? (Text.join ['.'] (path.map Segment.text) ++ '.' :: k) := by
  obtain ⟨hsegments, hnode'⟩ := hleads.isDotless hdotless
  have hsplit : Text.splitAt '.' (Text.join ['.'] (path.map Segment.text) ++ '.' :: k) =
      path.map Segment.text ++ k.splitAt '.' := by
    unfold Text.splitAt
    rw [Text.pieces_append_cons rfl]
    refine congrArg (· ++ _) (Text.splitAt_join (fun t ht => (hsegments t ht).2) ?_)
    exact fun hnil => hpath (List.map_eq_nil_iff.1 hnil)
  rw [get?_ofDocument_texts hnode hnode', get?_ofDocument_texts hdocument hdotless, hsplit,
    hleads.filter_leaves hdotless]

section paths

variable {document node : Json}

/-- Indices in plain decimal lead to the items that they count. -/
lemma follows_of_leads {path : List Segment} (h : document.Leads path node)
    (hcounts : ∀ i, Segment.item i ∈ path → i < 2 ^ 64) :
    document.Follows (path.map Segment.text) node := by
  induction h with
  | here => exact .here
  | member hj _ ih => exact .member hj (ih fun i hi => hcounts i (.tail _ hi))
  | item hj _ ih =>
    exact .item (writesCount_ofNat (hcounts _ (.head _))) hj (ih fun i hi => hcounts i (.tail _ hi))

/-- A path that leads on leads on behind a path that leads to its start. -/
lemma follow?_append {before : List Text} (h : document.Follows before node) (after : List Text) :
    follow? document (before ++ after) = follow? node after := by
  induction h with
  | here => rfl
  | member hj _ ih =>
    rw [List.cons_append, follow?, step?, hj]
    exact ih
  | item hs hj _ ih =>
    rw [List.cons_append, follow?, step?, readCount_eq_ok_iff.2 hs]
    simp only [hj]
    exact ih

/-- A segment that is stuck leads nowhere. -/
lemma step?_of_stuck {s : Text} (h : node.Stuck s) : step? node s = none := by
  cases h with
  | lacks hs =>
    rw [← Entries.isSome_get?_iff, Bool.not_eq_true, Option.isSome_eq_false_iff] at hs
    exact Option.isNone_iff_eq_none.1 hs
  | unread hs =>
    rw [step?]
    split
    · rename_i index hread
      exact absurd (readCount_eq_ok_iff.1 hread) (hs index)
    · rfl
  | beyond hs hlength =>
    rw [step?, readCount_eq_ok_iff.2 hs]
    exact List.getElem?_eq_none hlength
  | scalar hscalar =>
    cases node with
    | object members => cases hscalar.1
    | array items => cases hscalar.2
    | _ => rfl

/-- What a path leads to has the records that are looked for. -/
lemma nodes_of_follows {text : Text} (h : document.Follows (pathSegments text) node) :
    nodes document (some text) = objectsOf node := by
  have hfollow : follow? document (pathSegments text) = some node := by
    rw [← List.append_nil (pathSegments text), follow?_append h]
    rfl
  simp only [nodes, hfollow]

/-- A path that leads nowhere at one of its segments has no records. -/
lemma nodes_of_stuck {text s : Text} {before after : List Text}
    (htext : pathSegments text = before ++ s :: after) (h : document.Follows before node)
    (hs : node.Stuck s) : nodes document (some text) = [] := by
  have hfollow : follow? document (pathSegments text) = none := by
    rw [htext, follow?_append h, follow?, step?_of_stuck hs]
    rfl
  simp only [nodes, hfollow]

/-- The segments around a dot are those on both sides. -/
lemma pathSegments_append_cons (a b : Text) :
    pathSegments (a ++ '.' :: b) = pathSegments a ++ pathSegments b := by
  unfold pathSegments Text.splitAt
  rw [Text.pieces_append_cons rfl, List.filter_append]

/-- Dots at the ends of a path and next to other dots do not matter. -/
lemma pathSegments_dots (a b : Text) :
    pathSegments (a ++ '.' :: '.' :: b) = pathSegments (a ++ '.' :: b) ∧
      pathSegments ('.' :: a) = pathSegments a ∧ pathSegments (a ++ ['.']) = pathSegments a := by
  have hlead (t : Text) : pathSegments ('.' :: t) = pathSegments t := pathSegments_append_cons [] t
  refine ⟨?_, hlead a, ?_⟩
  · rw [pathSegments_append_cons, pathSegments_append_cons, hlead]
  · rw [pathSegments_append_cons]
    exact List.append_nil _

/-- A root path matters by its segments only. -/
lemma nodes_congr {text text' : Text} (h : pathSegments text = pathSegments text') :
    nodes document (some text) = nodes document (some text') := by
  simp only [nodes, h]

end paths

/-- A path of keys and indices leads to the records that the part of the document there stands for:
to an object itself, to the objects in an array, and to none in a scalar. The record of such a part
has what the record of the document has under keys that begin with the path to the part. More dots
in the path change nothing, and a path with a segment that leads nowhere leads to no record. Indices
are counts. -/
theorem get?_ofDocument_nodes (document : Json) :
    (∀ path node, document.isObject = true → document.Dotless → path ≠ [] →
      (∀ i, Segment.item i ∈ path → i < 2 ^ 64) → document.Leads path node →
      let text := Text.join ['.'] (path.map Segment.text)
      (node.isObject = true → nodes document (some text) = [node] ∧
        ∀ k, (ofDocument node).get? k = (ofDocument document).get? (text ++ '.' :: k)) ∧
      (∀ items, node = .array items → nodes document (some text) = items.filter Json.isObject ∧
        ∀ i item, items[i]? = some item → item.isObject = true → ∀ k,
          (ofDocument item).get? k =
            (ofDocument document).get? (text ++ '.' :: (Text.ofNat i ++ '.' :: k))) ∧
      (node.IsScalar → nodes document (some text) = [])) ∧
    (∀ a b : Text,
      nodes document (some (a ++ '.' :: '.' :: b)) = nodes document (some (a ++ '.' :: b)) ∧
      nodes document (some ('.' :: a)) = nodes document (some a) ∧
      nodes document (some (a ++ ['.'])) = nodes document (some a)) ∧
    ∀ text before s after node, pathSegments text = before ++ s :: after →
      document.Follows before node → node.Stuck s → nodes document (some text) = [] := by
  refine ⟨?_, fun a b => ?_, fun text before s after node => nodes_of_stuck⟩
  · intro path node hdocument hdotless hpath hcounts hleads text
    have hsegments := pathSegments_join (hleads.isDotless hdotless).1
    have hnodes : nodes document (some text) = objectsOf node :=
      nodes_of_follows (hsegments ▸ follows_of_leads hleads hcounts)
    refine ⟨fun hnode => ⟨?_, ?_⟩, ?_, fun hscalar => ?_⟩
    · rw [hnodes]
      cases node with
      | object members => rfl
      | _ => cases hnode
    · exact get?_ofDocument_of_leads hdocument hdotless hpath hleads hnode
    · rintro items rfl
      refine ⟨hnodes, fun i item hitem hobject k => ?_⟩
      -- The item stands one step behind the array.
      have hstep := hleads.trans (Leads.item hitem .here)
      have hpath' : path ++ [Segment.item i] ≠ [] := List.append_ne_nil_of_left_ne_nil hpath _
      have hget := get?_ofDocument_of_leads hdocument hdotless hpath' hstep hobject k
      have hjoin : Text.join ['.'] ((path ++ [Segment.item i]).map Segment.text) =
          text ++ '.' :: Text.ofNat i := by
        have hne : path.map Segment.text ≠ [] := fun hnil => hpath (List.map_eq_nil_iff.1 hnil)
        rw [List.map_append]
        exact Text.join_append ['.'] hne (List.cons_ne_nil _ _)
      rw [hget, hjoin, List.append_assoc, List.cons_append]
    · rw [hnodes]
      cases node with
      | object members => cases hscalar.1
      | array items => cases hscalar.2
      | _ => rfl
  · obtain ⟨hinner, hlead, htrail⟩ := pathSegments_dots a b
    exact ⟨nodes_congr hinner, nodes_congr hlead, nodes_congr htrail⟩

/-- An object with an array, and with an object under a key that looks like an index. -/
def payloadDocument : Json :=
  .object [("payload".toList, .object [
    ("items".toList, .array [.string "skip".toList, .object [("a".toList, .string "1".toList)]]),
    ("0".toList, .object [("b".toList, .string "2".toList)])])]

/-- No key in the document is empty or has a dot. -/
lemma dotless_payloadDocument : payloadDocument.Dotless := by
  have hitem : Json.Dotless (.object [("a".toList, .string "1".toList)]) :=
    .object (by decide) (by decide) (List.forall_mem_singleton.2 .string)
  have hitems : Json.Dotless
      (.array [.string "skip".toList, .object [("a".toList, .string "1".toList)]]) :=
    .array (List.forall_mem_cons.2 ⟨.string, List.forall_mem_singleton.2 hitem⟩)
  have hmember : Json.Dotless (.object [("b".toList, .string "2".toList)]) :=
    .object (by decide) (by decide) (List.forall_mem_singleton.2 .string)
  refine .object (by decide) (by decide) (List.forall_mem_singleton.2 ?_)
  exact .object (by decide) (by decide)
    (List.forall_mem_cons.2 ⟨hitems, List.forall_mem_singleton.2 hmember⟩)

/-- The second item of an array and a member under a digit, each with its record in the document;
dots in excess, and a letter for an index. -/
theorem get?_ofDocument_nodes_payload :
    nodes payloadDocument (some "payload.items".toList) =
      [.object [("a".toList, .string "1".toList)]] ∧
    (ofDocument (.object [("a".toList, .string "1".toList)])).get? "a".toList =
      (ofDocument payloadDocument).get? "payload.items.1.a".toList ∧
    nodes payloadDocument (some "payload.0".toList) =
      [.object [("b".toList, .string "2".toList)]] ∧
    (ofDocument (.object [("b".toList, .string "2".toList)])).get? "b".toList =
      (ofDocument payloadDocument).get? "payload.0.b".toList ∧
    nodes payloadDocument (some "payload..0".toList) =
      nodes payloadDocument (some "payload.0".toList) ∧
    nodes payloadDocument (some "payload.items.x.a".toList) = [] := by
  obtain ⟨hleads, hdots, hstuck⟩ := get?_ofDocument_nodes payloadDocument
  have hitems := hleads [.member "payload".toList, .member "items".toList] _ rfl
    dotless_payloadDocument (by decide) (by simp) (.member rfl (.member rfl .here))
  have hmember := hleads [.member "payload".toList, .member "0".toList] _ rfl
    dotless_payloadDocument (by decide) (by simp) (.member rfl (.member rfl .here))
  obtain ⟨hnodes, hget⟩ := hitems.2.1 _ rfl
  obtain ⟨hnodes', hget'⟩ := hmember.1 rfl
  refine ⟨hnodes, hget 1 _ rfl rfl _, hnodes', hget' _, (hdots "payload".toList "0".toList).1, ?_⟩
  refine hstuck _ ["payload".toList, "items".toList] "x".toList ["a".toList] _ rfl
    (.member rfl (.member rfl .here)) (.unread fun n hn => ?_)
  cases readCount_eq_ok_iff.2 hn

end Record

end SearchGateway
