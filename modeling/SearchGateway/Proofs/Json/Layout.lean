import SearchGateway.Json.Layout
import SearchGateway.Proofs.Json.RoundTrip

/-!
# Records in JSON text

The readers of single types take the compact text of what they read, whatever stands behind it. A
record whose fields are written under their names in the declared order, each with a value whose
text sets it, is taken as the record that setting them leads to (`Layout.takes_object`), so that a
round trip of a record is one for each of its fields.
-/

namespace SearchGateway.Json

/-- Where a value is taken, so is what it is made into without reading on. -/
lemma Takes.bind {α β : Type} {boundary : Text → Prop} {read : Text → Except Failure (α × Text)}
    {next : α × Text → Except Failure (β × Text)} {t : Text} {x : α} {y : β}
    (h : Takes boundary read t x) (hnext : ∀ rest, next (x, rest) = .ok (y, rest)) :
    Takes boundary (fun s => read s >>= next) t y :=
  fun rest hrest => (congrArg (· >>= next) (h rest hrest)).trans (hnext rest)

/-- The text of a string is the escaped string in quotes. -/
lemma text_string_append (s rest : Text) :
    (Json.string s).text ++ rest = '"' :: (escape s ++ '"' :: rest) := by
  simp [text, quote]

/-- The text of a string is taken as the string. -/
lemma takes_string (s : Text) : Takes Delimited readStringValue (Json.string s).text s := by
  intro rest _
  unfold readStringValue
  rw [text_string_append, skipSpaces_cons (by decide)]
  exact readString_escape s rest

/-- The text of a count is taken as the count. -/
lemma takes_count {n : Nat} (h : n ≤ maxCount) :
    Takes Delimited readCountValue (Json.number (.integer n)).text n := by
  intro rest hrest
  obtain ⟨c, r, htext, hdigit⟩ := exists_digit_cons n
  obtain ⟨hspace, -, -, -, -, hminus⟩ := of_isDigit hdigit
  have hread : readNumber false (Text.ofNat n ++ rest) = .ok (.integer n, rest) :=
    readNumber_ofNat h rfl hrest
  change readCountValue (Text.ofNat n ++ rest) = _
  rw [htext, List.cons_append] at hread ⊢
  unfold readCountValue
  rw [skipSpaces_cons hspace]
  simp only [hdigit, hminus, or_true, if_true, if_false, hread, bind, Except.bind]
  rfl

section Optional

variable {α : Type} {read : Text → Except Failure (α × Text)}

/-- Null is taken as nothing. -/
lemma takes_none : Takes Delimited (readOptional read) Json.null.text none := by
  intro rest _
  have hword := readWord_append "ull".toList rest
  change readOptional read ('n' :: ("ull".toList ++ rest)) = _
  unfold readOptional
  rw [skipSpaces_cons (by decide)]
  simp only [hword, bind, Except.bind]
  rfl

/-- What does not begin as null does is read back by the reader for it. -/
lemma takes_some {c : Char} {t : Text} {x : α} (hc : isSpace c = false) (hnull : c ≠ 'n')
    (h : Takes Delimited read (c :: t) x) : Takes Delimited (readOptional read) (c :: t) (some x) := by
  intro rest hrest
  have hread := h rest hrest
  rw [List.cons_append] at hread ⊢
  unfold readOptional
  rw [skipSpaces_cons hc]
  split
  · rename_i heq
    exact absurd (List.cons.inj heq).1 hnull
  · simp only [hread, bind, Except.bind]
    rfl

end Optional

/-- Strings can be read as items. -/
lemma isItemReader_readStringValue : IsItemReader readStringValue := by
  refine ⟨fun s => ?_, fun {s x} h => ?_⟩
  · unfold readStringValue
    rw [skipSpaces_skipSpaces]
  · unfold readStringValue at h
    split at h
    · cases h
    · rename_i c r hs
      refine ⟨c, r, hs, ?_⟩
      rintro rfl
      cases h

/-- The texts of values make up a list of items if a reader takes each of them. -/
lemma exists_writtenItems {α : Type} {read : Text → Except Failure (α × Text)} (toJson : α → Json)
    {xs : List α} (h : ∀ x ∈ xs, Takes Delimited read (toJson x).text x) :
    ∃ is : List (WrittenItem read), is.map WrittenItem.value = xs ∧
      (is.flatMap fun i => ',' :: i.text) = itemsText (xs.map toJson) := by
  induction xs with
  | nil => exact ⟨[], rfl, rfl⟩
  | cons x xs ih =>
    obtain ⟨is, hvalues, htext⟩ := ih fun y hy => h y (.tail _ hy)
    refine ⟨⟨(toJson x).text, x, [], h x (.head _), rfl⟩ :: is, ?_, ?_⟩
    · rw [List.map_cons, hvalues]
    · rw [List.flatMap_cons, htext, WrittenItem.text, List.append_nil]
      rfl

/-- A list is read back if each of its items is. -/
lemma takes_listOf {α : Type} {readItem : Nat → Text → Except Failure (α × Text)} {depth : Nat}
    (hread : IsItemReader (readItem depth)) (toJson : α → Json) {xs : List α}
    (h : ∀ x ∈ xs, Takes Delimited (readItem depth) (toJson x).text x) :
    Takes Delimited (readListOf readItem (depth + 1)) (Json.array (xs.map toJson)).text xs := by
  obtain ⟨is, rfl, htext⟩ := exists_writtenItems toJson h
  intro rest _
  have harray := WrittenItem.readArray_listText hread is (b := []) rfl rest
  rw [List.nil_append, WrittenItem.listText_eq_tail, htext] at harray
  rw [text_array_eq, List.cons_append, List.append_assoc]
  unfold readListOf
  rw [skipSpaces_cons (by decide)]
  exact harray

/-- The text of a name is taken as what it names. -/
lemma takes_name {α : Type} {ofName : Text → Option α} {name : Text} {x : α}
    (h : ofName name = some x) (expected : Text) (depth : Nat) :
    Takes Delimited (readName ofName expected depth) (Json.string name).text x := by
  intro rest _
  unfold readName
  rw [text_string_append, skipSpaces_cons (by decide)]
  simp only [if_true, readString_escape, h, bind, Except.bind]

namespace Layout

variable {σ : Type} {layout : Layout σ} {depth : Nat}

/-- Records can be read as items. -/
lemma isItemReader_read (layout : Layout σ) (depth : Nat) : IsItemReader (layout.read depth) := by
  refine ⟨fun s => ?_, fun {s x} h => ?_⟩
  · unfold Layout.read
    rw [skipSpaces_skipSpaces]
  · cases hs : skipSpaces s with
    | nil =>
      unfold Layout.read at h
      simp [hs] at h
    | cons c r =>
      refine ⟨c, r, rfl, ?_⟩
      rintro rfl
      have hmismatch : mismatch layout.title (']' :: r) = .behind .expectedValue (']' :: r) := rfl
      unfold Layout.read at h
      simp [hs, hmismatch] at h

/-- Fields are set one after the other by the texts of values, which stand under their names. -/
inductive Fills (depth : Nat) : List (Field σ) → σ → Entries Json → σ → Prop
  | nil (record : σ) : Fills depth [] record [] record
  | cons {field : Field σ} {fields : List (Field σ)} {record next last : σ} {j : Json}
    {members : Entries Json} (hread : Takes Delimited (field.read depth record) j.text next)
    (hrest : Fills depth fields next members last) :
    Fills depth (field :: fields) record ((field.name, j) :: members) last

/-- A member with the name of a field that was not there before sets the field. -/
lemma takes_readMember {field : Field σ} {record next : σ} {seen : List Text} {t : Text}
    (hfind : layout.fields.find? (·.name == field.name) = some field) (hseen : field.name ∉ seen)
    (h : Takes Delimited (field.read depth record) t next) :
    Takes Delimited (layout.readMember depth (record, seen) field.name) (':' :: t)
      (next, field.name :: seen) := by
  intro rest hrest
  have hnew : seen.contains field.name = false := by simpa using hseen
  have hcolon : readColon (':' :: t ++ rest) = .ok (t ++ rest) := rfl
  unfold readMember
  simp only [hfind, hnew, Bool.false_eq_true, if_false, hcolon, h rest hrest, bind, Except.bind]
  rfl

/-- Where names are distinct, a field is found under its name. -/
lemma find?_name {before fields : List (Field σ)} {field : Field σ}
    (h : ((before ++ field :: fields).map Field.name).Nodup) :
    (before ++ field :: fields).find? (·.name == field.name) = some field := by
  rw [List.map_append, List.map_cons] at h
  have hbefore : before.find? (·.name == field.name) = none := by
    refine List.find?_eq_none.2 fun other hother heq => ?_
    have hne := (List.nodup_append.1 h).2.2 _ (List.mem_map_of_mem hother) _ (.head _)
    exact hne (eq_of_beq heq)
  rw [List.find?_append, hbefore, Option.none_or]
  exact List.find?_cons_of_pos (beq_self_eq_true field.name)

/-- A reader of members goes over the fields that are left. -/
lemma Fills.steps {fields : List (Field σ)} {record last : σ} {members : Entries Json}
    (h : Fills depth fields record members last) (before : List (Field σ))
    (hfields : layout.fields = before ++ fields) (hnames : (layout.fields.map Field.name).Nodup) :
    WrittenMember.Steps (layout.readMember depth) (record, (before.map Field.name).reverse)
      (members.map fun (key, j) => .compact key j.text)
      (last, (layout.fields.map Field.name).reverse) := by
  -- The names set so far are those of the fields in front, the last one first.
  induction h generalizing before with
  | nil record =>
    rw [hfields, List.append_nil]
    exact .nil _
  | @cons field fields record next last j members hread _ ih =>
    have hfind := find?_name (hfields ▸ hnames)
    have hseen : field.name ∉ (before.map Field.name).reverse := by
      rw [hfields, List.map_append, List.map_cons] at hnames
      rw [List.mem_reverse]
      exact fun hmem => (List.nodup_append.1 hnames).2.2 _ hmem _ (.head _) rfl
    have hsteps := ih (before ++ [field]) (by rw [hfields]; simp)
    rw [List.map_append, List.reverse_append] at hsteps
    exact .cons (takes_readMember (hfields ▸ hfind) hseen hread) hsteps

/-- A record is read back from an object that sets all its fields in their declared order. -/
theorem takes_object {members : Entries Json} {record : σ}
    (hnames : (layout.fields.map Field.name).Nodup)
    (h : Fills depth layout.fields layout.initial members record) :
    Takes Delimited (layout.read (depth + 1)) (Json.object members).text record := by
  intro rest _
  have hsteps : WrittenMember.Steps (layout.readMember depth) (layout.initial, [])
      (members.map fun (key, j) => .compact key j.text)
      (record, (layout.fields.map Field.name).reverse) := h.steps [] rfl hnames
  have hobject := WrittenMember.readObject_of_steps hsteps (b := []) rfl rest
  have hpresent : layout.fields.find? (fun field => field.required &&
      !(layout.fields.map Field.name).reverse.contains field.name) = none := by
    refine List.find?_eq_none.2 fun field hfield => ?_
    have hmem := List.mem_map_of_mem (f := Field.name) hfield
    simp [hmem]
  rw [List.nil_append, WrittenMember.listText_compact] at hobject
  rw [text_object_eq, List.cons_append, List.append_assoc]
  unfold Layout.read
  rw [skipSpaces_cons (by decide)]
  simp only [Char.reduceEq, if_false, if_true, List.singleton_append]
  rw [hobject]
  simp only [bind, Except.bind, hpresent]
  rfl

end Layout

end SearchGateway.Json
