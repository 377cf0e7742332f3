import SearchGateway.Proofs.Entries
import SearchGateway.Proofs.Json.Numbers

/-!
# JSON text reads back

A value whose integers fit into 64 bits and whose objects have each key once reads back from its
compact text, where it does not nest deeper than the reader goes (`readWhole_text`). Real numbers
are left out, since their last bit may change.
-/

namespace SearchGateway.Json

mutual

/-- Whether a value is kept by writing and reading it: its numbers are integers that fit into 64
bits, and no object has a key twice. -/
def Regular : Json → Prop
  | .null | .bool _ | .string _ => True
  | .number (.integer i) => Fits i
  | .number (.real _) => False
  | .array items => RegularItems items
  | .object members => (Entries.keys members).Nodup ∧ RegularMembers members

/-- Whether all items are kept by writing and reading them. -/
def RegularItems : List Json → Prop
  | [] => True
  | j :: js => Regular j ∧ RegularItems js

/-- Whether the values of all members are kept by writing and reading them. -/
def RegularMembers : List (Text × Json) → Prop
  | [] => True
  | (_, j) :: ms => Regular j ∧ RegularMembers ms

end

mutual

/-- How many arrays and objects stand around the innermost value, the value itself included. -/
def nesting : Json → Nat
  | .null | .bool _ | .number _ | .string _ => 0
  | .array items => itemsNesting items + 1
  | .object members => membersNesting members + 1

/-- The deepest nesting among items. -/
def itemsNesting : List Json → Nat
  | [] => 0
  | j :: js => max (nesting j) (itemsNesting js)

/-- The deepest nesting among the values of members. -/
def membersNesting : List (Text × Json) → Nat
  | [] => 0
  | (_, j) :: ms => max (nesting j) (membersNesting ms)

end

/-- The word for null reads as null. -/
lemma reads_null (depth : Nat) : Reads depth "null".toList .null := by
  apply reads_scalar .null (c := 'n') (r := "ull".toList) (by decide) (by decide)
  intro rest _
  unfold readScalar
  simp only [if_true, readWord_append, bind, Except.bind]
  rfl

/-- The word for a truth value reads as the truth value. -/
lemma reads_bool (depth : Nat) (b : Bool) : Reads depth (boolText b) (.bool b) := by
  cases b with
  | true =>
    apply reads_scalar (.bool true) (c := 't') (r := "rue".toList) (by decide) (by decide)
    intro rest _
    unfold readScalar
    simp only [Char.reduceEq, if_false, if_true, readWord_append, bind, Except.bind]
    rfl
  | false =>
    apply reads_scalar (.bool false) (c := 'f') (r := "alse".toList) (by decide) (by decide)
    intro rest _
    unfold readScalar
    simp only [Char.reduceEq, if_false, if_true, readWord_append, bind, Except.bind]
    rfl

/-- A text between quotes reads as itself. -/
lemma reads_quote (depth : Nat) (s : Text) : Reads depth (quote s) (.string s) := by
  exact reads_string (readString_escape s)

/-- A key that is written without white space. -/
def Key.compact (key : Text) : Key :=
  ⟨[], escape key, key, [], rfl, readString_escape key, rfl⟩

/-- The text of a key that is written without white space. -/
lemma Key.text_compact (key : Text) : (Key.compact key).text = quote key ++ [':'] := by
  simp [Key.text, Key.compact, quote]

/-- A member that is written without white space. -/
def WrittenMember.compact (key t : Text) : WrittenMember :=
  ⟨.compact key, t, [], rfl⟩

/-- A member that is written without white space, with what it reads as. -/
def Member.compact {depth : Nat} (key : Text) {t : Text} {j : Json} (h : Reads depth t j) :
    Member depth :=
  ⟨.compact key, t, j, [], h, rfl⟩

/-- The text of a member that is written without white space. -/
lemma Member.text_compact {depth : Nat} (key : Text) {t : Text} {j : Json} (h : Reads depth t j) :
    (Member.compact key h).text = quote key ++ ':' :: t := by
  simp [Member.text, Member.compact, Key.text_compact]

/-- Distinct keys give their members in order. -/
lemma entriesFrom_nil {depth : Nat} {ms : List (Member depth)} {members : Entries Json}
    (h : ms.map (fun m => (m.key, m.value)) = members) (hkeys : members.keys.Nodup) :
    Member.entriesFrom [] ms = members := by
  rw [← Entries.ofList_eq_self hkeys, ← h]
  unfold Entries.ofList
  rw [List.foldl_map]
  rfl

/-- The text of an array has a comma in front of every item but the first. -/
lemma text_array_eq (js : List Json) :
    (Json.array js).text = '[' :: ((itemsText js).tail ++ [']']) := by
  cases js <;> rfl

/-- The text of an object has a comma in front of every member but the first. -/
lemma text_object_eq (members : List (Text × Json)) :
    (Json.object members).text = '{' :: ((membersText members).tail ++ ['}']) := by
  cases members with
  | nil => rfl
  | cons m members => simp [text, membersText]

/-- Members that are written without white space make up the text of an object. -/
lemma WrittenMember.listText_compact (members : Entries Json) :
    listText (members.map fun (key, j) => .compact key j.text) = (membersText members).tail := by
  rw [listText_eq_tail]
  congr 1
  induction members with
  | nil => rfl
  | cons m members ih =>
    rw [List.map_cons, List.flatMap_cons, ih]
    simp [membersText, text, compact, Key.text_compact]

/-- Items that are written behind commas make up the text of an array. -/
lemma text_array {depth : Nat} {is : List (Item depth)} {js : List Json}
    (htext : (is.flatMap fun i => ',' :: i.text) = itemsText js) :
    (Json.array js).text = '[' :: (Item.listText is ++ [']']) := by
  rw [text_array_eq, ← htext]
  cases is <;> rfl

/-- Members that are written behind commas make up the text of an object. -/
lemma text_object {depth : Nat} {ms : List (Member depth)} {members : List (Text × Json)}
    (htext : (ms.flatMap fun m => ',' :: m.text) = membersText members) :
    (Json.object members).text = '{' :: (Member.listText ms ++ ['}']) := by
  rw [text_object_eq, ← htext]
  cases ms <;> rfl

mutual

/-- The compact text of a value reads as the value. -/
lemma reads_text (j : Json) {depth : Nat} (hj : Regular j) (hd : nesting j ≤ depth) :
    Reads depth j.text j := by
  match j with
  | .null => exact reads_null depth
  | .bool b => exact reads_bool depth b
  | .number (.integer i) => exact reads_ofInt hj
  | .number (.real _) => exact hj.elim
  | .string s => exact reads_quote depth s
  | .array items =>
    obtain ⟨d, rfl⟩ := Nat.exists_eq_succ_of_ne_zero (Nat.ne_zero_of_lt hd)
    obtain ⟨is, hvalues, htext⟩ := exists_items items d hj (Nat.le_of_succ_le_succ hd)
    have harray := reads_array is (b := []) rfl
    rwa [List.nil_append, ← text_array htext, hvalues] at harray
  | .object members =>
    -- Each member replaces those of its key, of which there are none where the keys are distinct.
    obtain ⟨d, rfl⟩ := Nat.exists_eq_succ_of_ne_zero (Nat.ne_zero_of_lt hd)
    obtain ⟨ms, hvalues, htext⟩ := exists_members members d hj.2
      (Nat.le_of_succ_le_succ hd)
    have hobject := reads_object ms (b := []) rfl
    rwa [List.nil_append, ← text_object htext, entriesFrom_nil hvalues hj.1] at hobject

/-- The texts of items read as the items. -/
lemma exists_items (js : List Json) (depth : Nat) (hj : RegularItems js)
    (hd : itemsNesting js ≤ depth) :
    ∃ is : List (Item depth), is.map Item.value = js ∧
      (is.flatMap fun i => ',' :: i.text) = itemsText js := by
  match js with
  | [] => exact ⟨[], rfl, rfl⟩
  | j :: js =>
    have hread := reads_text j hj.1 (Nat.le_trans (Nat.le_max_left _ _) hd)
    obtain ⟨is, hvalues, htext⟩ :=
      exists_items js depth hj.2 (Nat.le_trans (Nat.le_max_right _ _) hd)
    refine ⟨⟨j.text, j, [], hread, rfl⟩ :: is, by rw [List.map_cons, hvalues], ?_⟩
    rw [List.flatMap_cons, htext, Item.text, List.append_nil]
    rfl

/-- The texts of members read as the members. -/
lemma exists_members (members : List (Text × Json)) (depth : Nat) (hj : RegularMembers members)
    (hd : membersNesting members ≤ depth) :
    ∃ ms : List (Member depth), ms.map (fun m => (m.key, m.value)) = members ∧
      (ms.flatMap fun m => ',' :: m.text) = membersText members := by
  match members with
  | [] => exact ⟨[], rfl, rfl⟩
  | (key, j) :: members =>
    have hread := reads_text j hj.1 (Nat.le_trans (Nat.le_max_left _ _) hd)
    obtain ⟨ms, hvalues, htext⟩ :=
      exists_members members depth hj.2 (Nat.le_trans (Nat.le_max_right _ _) hd)
    refine ⟨.compact key hread :: ms, by rw [List.map_cons, hvalues]; rfl, ?_⟩
    rw [List.flatMap_cons, htext, Member.text_compact, membersText]
    rfl

end

/-- The compact text of an object stands in curly braces. -/
lemma exists_text_object (members : Entries Json) :
    ∃ s, (Json.object members).text = '{' :: (s ++ ['}']) := by
  cases members with
  | nil => exact ⟨[], rfl⟩
  | cons m ms => exact ⟨_, rfl⟩

/-- The whole compact text of a value reads as the value. -/
lemma readWhole_text {j : Json} (hj : Regular j) (hd : nesting j ≤ maxDepth) :
    readWhole (readValue maxDepth) j.text = .ok j :=
  readWhole_of_takes (reads_text j hj hd)

/-- The compact text of an object gives its members. -/
lemma parseObject_text {members : Entries Json} (hj : (Json.object members).Regular)
    (hd : membersNesting members < maxDepth) :
    parseObject (Json.object members).text = .ok members := by
  obtain ⟨ms, hvalues, htext⟩ := exists_members members (maxDepth - 1) hj.2
    (Nat.le_sub_one_of_lt hd)
  have hobject := parseObject_listText ms [] [] [] rfl rfl rfl
  rw [List.nil_append, List.nil_append, entriesFrom_nil hvalues hj.1] at hobject
  rwa [text_object htext]

end SearchGateway.Json
