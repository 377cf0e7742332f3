import SearchGateway.Proofs.Json.Strings

/-!
# Written values

A text that reads as a value wherever it stands (`Takes`, `Reads`), and how such texts make up
objects and arrays: members and items between commas, with white space wherever JSON allows it. The
loops over members and items go on from one to the next whatever is read of each of them
(`readObject_of_steps`, `readArray_listText`). In particular an object that is written member by
member reads as the collection of its members, where a later member replaces an earlier one of the
same key (`readObject_listText`).
-/

namespace SearchGateway.Json

/-- White space between lexemes is skipped. -/
lemma skipSpaces_append {b : Text} (h : b.all isSpace = true) (s : Text) :
    skipSpaces (b ++ s) = skipSpaces s := by
  induction b with
  | nil => rfl
  | cons c b ih =>
    rw [List.all_cons, Bool.and_eq_true] at h
    simp only [List.cons_append, skipSpaces, h.1, if_true]
    exact ih h.2

/-- Skipping stops at a character that is no white space. -/
lemma skipSpaces_cons {c : Char} (h : isSpace c = false) (s : Text) :
    skipSpaces (c :: s) = c :: s := by
  simp [skipSpaces, h]

/-- Skipping twice is skipping once. -/
lemma skipSpaces_skipSpaces (s : Text) : skipSpaces (skipSpaces s) = skipSpaces s := by
  induction s with
  | nil => rfl
  | cons c s ih =>
    cases hc : isSpace c with
    | true => simpa [skipSpaces, hc] using ih
    | false => rw [skipSpaces_cons hc, skipSpaces_cons hc]

/-- A text is what is skipped and the text from its first lexeme on. -/
lemma exists_spaces (s : Text) : ∃ b, b.all isSpace = true ∧ s = b ++ skipSpaces s := by
  induction s with
  | nil => exact ⟨[], rfl, rfl⟩
  | cons c s ih =>
    cases hc : isSpace c with
    | true =>
      obtain ⟨b, hb, hs⟩ := ih
      refine ⟨c :: b, by rw [List.all_cons, hc, hb]; rfl, ?_⟩
      simp only [skipSpaces, hc, if_true]
      exact congrArg (c :: ·) hs
    | false => exact ⟨[], rfl, (skipSpaces_cons hc s).symm⟩

/-- The first lexeme begins with a character that is no white space. -/
lemma isSpace_of_skipSpaces {s r : Text} {c : Char} (h : skipSpaces s = c :: r) :
    isSpace c = false := by
  induction s with
  | nil => cases h
  | cons d s ih =>
    unfold skipSpaces at h
    split at h
    · exact ih h
    · rename_i hd
      cases h
      exact Bool.eq_false_iff.2 hd

/-- A word reads up to its end. -/
lemma readWord_append (word rest : Text) : readWord word (word ++ rest) = .ok rest := by
  induction word with
  | nil => cases rest <;> rfl
  | cons c word ih =>
    rw [List.cons_append, readWord, if_pos rfl, ih]

/-- A text that does not go on with a number in front of it. -/
def Delimited (rest : Text) : Prop :=
  ∀ c ∈ rest.head?, c.isDigit = false ∧ c ≠ '.' ∧ c ≠ 'e' ∧ c ≠ 'E'

/-- The end of the text delimits a number. -/
lemma delimited_nil : Delimited [] := by
  exact nofun

/-- A character that is no part of a number delimits one. -/
lemma delimited_cons {c : Char} (h : c.isDigit = false ∧ c ≠ '.' ∧ c ≠ 'e' ∧ c ≠ 'E') (s : Text) :
    Delimited (c :: s) := by
  rintro d ⟨⟩
  exact h

/-- White space in front of a delimited text delimits a number. -/
lemma delimited_append {b s : Text} (h : b.all isSpace = true) (hs : Delimited s) :
    Delimited (b ++ s) := by
  cases b with
  | nil => exact hs
  | cons c b =>
    rw [List.all_cons, Bool.and_eq_true] at h
    apply delimited_cons
    have hc := h.1
    simp only [isSpace, Bool.or_eq_true, beq_iff_eq] at hc
    rcases hc with ((rfl | rfl) | rfl) | rfl <;> decide

/-- Texts behind commas delimit a number, and so does the character that closes their list. -/
lemma delimited_flatMap {α : Type} (f : α → Text) (l : List α) {s : Text} (hs : Delimited s) :
    Delimited ((l.flatMap fun a => ',' :: f a) ++ s) := by
  cases l with
  | nil => exact hs
  | cons a l => exact delimited_cons (by decide) _

/-- Texts behind commas are at least as many characters as they are texts. -/
lemma length_le_length_flatMap_cons {α : Type} (c : Char) (f : α → Text) (l : List α) :
    l.length ≤ (l.flatMap fun a => c :: f a).length := by
  induction l with
  | nil => exact Nat.le_refl 0
  | cons a l ih =>
    simp only [List.flatMap_cons, List.length_append, List.length_cons]
    omega

section Readers

variable {α : Type} (boundary : Text → Prop) (read : Text → Except Failure (α × Text))

/-- A reader takes a text as a value, whatever stands behind it from a boundary on. -/
def Takes (t : Text) (x : α) : Prop :=
  ∀ rest, boundary rest → read (t ++ rest) = .ok (x, rest)

end Readers

/-- What a reader takes is read as a whole where nothing stands behind it. -/
lemma readWhole_of_takes {α : Type} {read : Text → Except Failure (α × Text)} {t : Text} {x : α}
    (h : Takes Delimited read t x) : readWhole read t = .ok x := by
  have hread := h [] delimited_nil
  rw [List.append_nil] at hread
  unfold readWhole
  rw [hread]
  rfl

/-- A text reads as a value to a given depth, whatever stands behind it. -/
def Reads (depth : Nat) (t : Text) (j : Json) : Prop :=
  ∀ rest, Delimited rest → readValue depth (t ++ rest) = .ok (j, rest)

/-- White space in front of a value does not matter. -/
lemma readValue_skipSpaces (depth : Nat) (s : Text) :
    readValue depth (skipSpaces s) = readValue depth s := by
  unfold readValue
  rw [skipSpaces_skipSpaces]

/-- A value begins with a character that does not close an array. -/
lemma exists_cons_of_readValue {depth : Nat} {s : Text} {x : Json × Text}
    (h : readValue depth s = .ok x) : ∃ c r, skipSpaces s = c :: r ∧ c ≠ ']' := by
  unfold readValue at h
  cases hs : skipSpaces s with
  | nil => cases depth <;> simp [hs] at h
  | cons c r =>
    refine ⟨c, r, rfl, ?_⟩
    rintro rfl
    have hscalar : readScalar ']' r = .error (.behind .expectedValue (']' :: r)) := rfl
    cases depth <;> simp [hs, hscalar, bind, Except.bind] at h

/-- A key of an object as it is written up to its colon. -/
structure Key where
  before : Text
  raw : Text
  key : Text
  beforeColon : Text
  before_spaces : before.all isSpace = true
  raw_reads : ∀ rest, readString (raw ++ '"' :: rest) = .ok (key, rest)
  beforeColon_spaces : beforeColon.all isSpace = true

/-- The text of a key with its colon. -/
def Key.text (k : Key) : Text :=
  k.before ++ '"' :: (k.raw ++ '"' :: (k.beforeColon ++ [':']))

/-- A member of an object as it is written. White space in front of the value belongs to the value. -/
structure WrittenMember extends Key where
  rawValue : Text
  behind : Text
  behind_spaces : behind.all isSpace = true

namespace WrittenMember

/-- The text of a member. -/
def text (m : WrittenMember) : Text :=
  m.toKey.text ++ (m.rawValue ++ m.behind)

/-- The text of members with commas between them. -/
def listText : List WrittenMember → Text
  | [] => []
  | m :: ms => m.text ++ ms.flatMap fun m => ',' :: m.text

/-- The first member has no comma in front of it. -/
lemma listText_eq_tail (ms : List WrittenMember) :
    listText ms = (ms.flatMap fun m => ',' :: m.text).tail := by
  cases ms <;> rfl

/-- Every member takes at least one character. -/
lemma length_le_length_listText (ms : List WrittenMember) : ms.length ≤ (listText ms).length := by
  cases ms with
  | nil => exact Nat.le_refl 0
  | cons m ms =>
    have h := length_le_length_flatMap_cons ',' text ms
    have hm : 1 ≤ m.text.length := by
      simp only [text, Key.text, List.length_append, List.length_cons]
      omega
    simp only [listText, List.length_append, List.length_cons]
    omega

section Loop

variable {α : Type} {readMember : α → Text → Text → Except Failure (α × Text)}

/-- A reader of members goes from one state to another over written members, each of which it takes
up to the end of the value. -/
inductive Steps (readMember : α → Text → Text → Except Failure (α × Text)) :
    α → List WrittenMember → α → Prop
  | nil (state : α) : Steps readMember state [] state
  | cons {state next last : α} {m : WrittenMember} {ms : List WrittenMember}
    (hread : Takes Delimited (readMember state m.key) (m.beforeColon ++ ':' :: m.rawValue) next)
    (hrest : Steps readMember next ms last) : Steps readMember state (m :: ms) last

/-- One round of reading takes a whole member. -/
lemma readMembers_succ {m : WrittenMember} {state next : α} {first : Bool} {s t : Text} (n : Nat)
    (hread : Takes Delimited (readMember state m.key) (m.beforeColon ++ ':' :: m.rawValue) next)
    (ht : Delimited t)
    (h : nextKey first s = .ok (true, m.raw ++
      '"' :: (m.beforeColon ++ ':' :: m.rawValue ++ (m.behind ++ t)))) :
    readMembers readMember (n + 1) first state s =
      readMembers readMember n false next (m.behind ++ t) := by
  have hmember := hread _ (delimited_append m.behind_spaces ht)
  rw [readMembers]
  simp only [h, bind, Except.bind, if_true, m.raw_reads, hmember]

/-- Members behind commas are read up to the brace. -/
lemma readMembers_flatMap {state last : α} {ms : List WrittenMember}
    (h : Steps readMember state ms last) {n : Nat} (hn : ms.length < n) {b : Text}
    (hb : b.all isSpace = true) (rest : Text) :
    readMembers readMember n false state
        (b ++ ((ms.flatMap fun m => ',' :: m.text) ++ '}' :: rest)) = .ok (last, '}' :: rest) := by
  induction h generalizing n b with
  | nil state =>
    obtain ⟨k, rfl⟩ := Nat.exists_eq_succ_of_ne_zero (Nat.ne_zero_of_lt hn)
    have hnext : nextKey false (b ++ '}' :: rest) = .ok (false, '}' :: rest) := by
      unfold nextKey
      rw [skipSpaces_append hb, skipSpaces_cons (by decide)]
      rfl
    simp only [List.flatMap_nil, List.nil_append, readMembers, hnext, bind, Except.bind]
    rfl
  | @cons state next last m ms hread _ ih =>
    obtain ⟨k, rfl⟩ := Nat.exists_eq_succ_of_ne_zero (Nat.ne_zero_of_lt hn)
    have hk : ms.length < k := by simpa using hn
    have hnext : nextKey false (b ++ (((m :: ms).flatMap fun m => ',' :: m.text) ++ '}' :: rest)) =
        .ok (true, m.raw ++ '"' :: (m.beforeColon ++ ':' :: m.rawValue ++
          (m.behind ++ ((ms.flatMap fun m => ',' :: m.text) ++ '}' :: rest)))) := by
      unfold nextKey
      rw [skipSpaces_append hb, List.flatMap_cons, List.cons_append, List.cons_append,
        skipSpaces_cons (by decide)]
      simp only [text, Key.text, List.append_assoc, List.cons_append,
        skipSpaces_append m.before_spaces]
      rfl
    have ht := delimited_flatMap WrittenMember.text ms (delimited_cons (c := '}') (by decide) rest)
    rw [readMembers_succ k hread ht hnext]
    exact ih hk m.behind_spaces

/-- The members of an object are read up to its brace. -/
lemma readMembers_listText {state last : α} {ms : List WrittenMember}
    (h : Steps readMember state ms last) {n : Nat} (hn : ms.length < n) {b : Text}
    (hb : b.all isSpace = true) (rest : Text) :
    readMembers readMember n true state (b ++ (listText ms ++ '}' :: rest)) =
      .ok (last, '}' :: rest) := by
  obtain ⟨k, rfl⟩ := Nat.exists_eq_succ_of_ne_zero (Nat.ne_zero_of_lt hn)
  -- Only the first member has no comma in front of it, so the others are read on from there.
  cases h with
  | nil =>
    have hnext : nextKey true (b ++ '}' :: rest) = .ok (false, '}' :: rest) := by
      unfold nextKey
      rw [skipSpaces_append hb, skipSpaces_cons (by decide)]
      rfl
    simp only [listText, List.nil_append, readMembers, hnext, bind, Except.bind]
    rfl
  | @cons _ next _ m ms hread hrest =>
    have hk : ms.length < k := by simpa using hn
    have hnext : nextKey true (b ++ (listText (m :: ms) ++ '}' :: rest)) =
        .ok (true, m.raw ++ '"' :: (m.beforeColon ++ ':' :: m.rawValue ++
          (m.behind ++ ((ms.flatMap fun m => ',' :: m.text) ++ '}' :: rest)))) := by
      unfold nextKey
      rw [skipSpaces_append hb]
      simp only [listText, text, Key.text, List.append_assoc, List.cons_append,
        skipSpaces_append m.before_spaces]
      rfl
    have ht := delimited_flatMap WrittenMember.text ms (delimited_cons (c := '}') (by decide) rest)
    rw [readMembers_succ k hread ht hnext]
    exact readMembers_flatMap hrest hk m.behind_spaces rest

/-- An object that is written member by member leads a reader over its members. -/
lemma readObject_of_steps {state last : α} {ms : List WrittenMember}
    (h : Steps readMember state ms last) {b : Text} (hb : b.all isSpace = true) (rest : Text) :
    readObject readMember state (b ++ (listText ms ++ '}' :: rest)) = .ok (last, rest) := by
  have hn : ms.length < (b ++ (listText ms ++ '}' :: rest)).length + 1 := by
    have h := length_le_length_listText ms
    simp only [List.length_append, List.length_cons]
    omega
  have hclose : closeObject ('}' :: rest) = .ok rest := rfl
  unfold readObject
  simp only [readMembers_listText h hn hb, hclose, bind, Except.bind]
  rfl

end Loop

end WrittenMember

/-- A member of an object as it is written, with the value that it reads as to a given depth. White
space in front of the value belongs to the value. -/
structure Member (depth : Nat) extends Key where
  rawValue : Text
  value : Json
  behind : Text
  rawValue_reads : Reads depth rawValue value
  behind_spaces : behind.all isSpace = true

namespace Member

variable {depth : Nat}

/-- The text of a member. -/
def text (m : Member depth) : Text :=
  m.toKey.text ++ (m.rawValue ++ m.behind)

/-- The text of members with commas between them. -/
def listText : List (Member depth) → Text
  | [] => []
  | m :: ms => m.text ++ ms.flatMap fun m => ',' :: m.text

/-- The members behind the given ones, where a later one replaces an earlier one of its key. -/
def entriesFrom (members : Entries Json) (ms : List (Member depth)) : Entries Json :=
  ms.foldl (fun members m => members.put m.key m.value) members

/-- A member as it is written. -/
def written (m : Member depth) : WrittenMember :=
  ⟨m.toKey, m.rawValue, m.behind, m.behind_spaces⟩

/-- Written members have the text of the members. -/
lemma listText_written (ms : List (Member depth)) :
    WrittenMember.listText (ms.map written) = listText ms := by
  cases ms with
  | nil => rfl
  | cons m ms =>
    rw [List.map_cons, WrittenMember.listText, List.flatMap_map]
    rfl

/-- Behind its key a member is read and set. -/
lemma takes_putMember (m : Member depth) (members : Entries Json) :
    Takes Delimited (putMember (readValue depth) members m.key) (m.beforeColon ++ ':' :: m.rawValue)
      (members.put m.key m.value) := by
  intro rest hrest
  have hcolon : readColon (m.beforeColon ++ ':' :: m.rawValue ++ rest) =
      .ok (m.rawValue ++ rest) := by
    unfold readColon
    rw [List.append_assoc, skipSpaces_append m.beforeColon_spaces, List.cons_append,
      skipSpaces_cons (by decide)]
    rfl
  simp only [bind, Except.bind, putMember, hcolon, m.rawValue_reads rest hrest]
  rfl

/-- Members are set one after the other. -/
lemma steps_putMember (ms : List (Member depth)) (members : Entries Json) :
    WrittenMember.Steps (putMember (readValue depth)) members (ms.map written)
      (entriesFrom members ms) := by
  induction ms generalizing members with
  | nil => exact .nil members
  | cons m ms ih => exact .cons (m.takes_putMember members) (ih _)

end Member

open Member

variable {depth : Nat}

/-- An object that is written member by member reads as its members. -/
lemma readObject_listText (ms : List (Member depth)) {b : Text} (hb : b.all isSpace = true)
    (rest : Text) :
    readObject (putMember (readValue depth)) [] (b ++ (listText ms ++ '}' :: rest)) =
      .ok (entriesFrom [] ms, rest) := by
  rw [← listText_written]
  exact WrittenMember.readObject_of_steps (steps_putMember ms []) hb rest

/-- White space in front of a value does not matter to what it reads as. -/
lemma Reads.append {t b : Text} {j : Json} (h : Reads depth t j) (hb : b.all isSpace = true) :
    Reads depth (b ++ t) j := by
  intro rest hr
  rw [← readValue_skipSpaces, List.append_assoc, skipSpaces_append hb, readValue_skipSpaces]
  exact h rest hr

/-- An object reads as its members. -/
lemma reads_object (ms : List (Member depth)) {b : Text} (hb : b.all isSpace = true) :
    Reads (depth + 1) ('{' :: (b ++ (listText ms ++ ['}']))) (.object (entriesFrom [] ms)) := by
  intro rest _
  have hobject := readObject_listText ms hb rest
  have htext : '{' :: (b ++ (listText ms ++ ['}'])) ++ rest =
      '{' :: (b ++ (listText ms ++ '}' :: rest)) := by simp
  unfold readValue
  rw [htext, skipSpaces_cons (by decide)]
  simp only [Char.reduceEq, if_false, if_true, hobject, bind, Except.bind]
  rfl

/-- A text that is one object between white space gives its members. -/
lemma parseObject_listText (ms : List (Member (maxDepth - 1))) (b b' b'' : Text)
    (hb : b.all isSpace = true) (hb' : b'.all isSpace = true) (hb'' : b''.all isSpace = true) :
    parseObject (b ++ '{' :: (b' ++ (listText ms ++ '}' :: b''))) = .ok (entriesFrom [] ms) := by
  have hobject := readObject_listText ms hb' b''
  have hend : skipSpaces b'' = [] := by
    have h := skipSpaces_append hb'' []
    rwa [List.append_nil] at h
  have hmap : readMap (b ++ '{' :: (b' ++ (listText ms ++ '}' :: b''))) =
      .ok (entriesFrom [] ms, b'') := by
    unfold readMap
    rw [skipSpaces_append hb, skipSpaces_cons (by decide)]
    exact hobject
  unfold parseObject readWhole
  simp only [hmap, hend]

/-- A scalar that is read behind its first character reads as a value. -/
lemma reads_scalar (found : Found) {c : Char} {r : Text} (hs : isSpace c = false)
    (hc : c ≠ '[' ∧ c ≠ '{')
    (h : ∀ rest, Delimited rest → readScalar c (r ++ rest) = .ok (found, rest)) :
    Reads depth (c :: r) found.scalar := by
  intro rest hr
  have hscalar := h rest hr
  unfold readValue
  rw [List.cons_append, skipSpaces_cons hs]
  cases depth <;>
    simp only [hc.1, hc.2, or_self, if_false, hscalar, bind, Except.bind] <;> rfl

/-- A string that reads behind its opening quote reads as a value. -/
lemma reads_string {raw s : Text} (h : ∀ rest, readString (raw ++ '"' :: rest) = .ok (s, rest)) :
    Reads depth ('"' :: (raw ++ ['"'])) (.string s) := by
  apply reads_scalar (.string s) (by decide) (by decide)
  intro rest _
  rw [List.append_assoc, List.singleton_append]
  unfold readScalar
  simp only [Char.reduceEq, if_false, Char.isDigit, h, bind, Except.bind]
  rfl

/-- A reader of items passes over white space in front of an item, and no item begins with the
bracket that closes an array. -/
structure IsItemReader {α : Type} (read : Text → Except Failure (α × Text)) : Prop where
  read_skipSpaces : ∀ s, read (skipSpaces s) = read s
  exists_cons : ∀ {s x}, read s = .ok x → ∃ c r, skipSpaces s = c :: r ∧ c ≠ ']'

/-- Values can be read as items. -/
lemma isItemReader_readValue (depth : Nat) : IsItemReader (readValue depth) :=
  ⟨readValue_skipSpaces depth, exists_cons_of_readValue⟩

/-- An item of an array as it is written, with the value that a reader takes it as. White space in
front of it belongs to the item. -/
structure WrittenItem {α : Type} (read : Text → Except Failure (α × Text)) where
  raw : Text
  value : α
  behind : Text
  raw_takes : Takes Delimited read raw value
  behind_spaces : behind.all isSpace = true

namespace WrittenItem

variable {α : Type} {read : Text → Except Failure (α × Text)}

/-- The text of an item. -/
def text (i : WrittenItem read) : Text :=
  i.raw ++ i.behind

/-- The text of items with commas between them. -/
def listText : List (WrittenItem read) → Text
  | [] => []
  | i :: is => i.text ++ is.flatMap fun i => ',' :: i.text

/-- The first item has no comma in front of it. -/
lemma listText_eq_tail (is : List (WrittenItem read)) :
    listText is = (is.flatMap fun i => ',' :: i.text).tail := by
  cases is <;> rfl

/-- Behind every item but the last there is a comma. -/
lemma length_le_length_listText (is : List (WrittenItem read)) :
    is.length ≤ (listText is).length + 1 := by
  cases is with
  | nil => exact Nat.zero_le 1
  | cons i is =>
    have h := length_le_length_flatMap_cons ',' text is
    simp only [listText, List.length_append, List.length_cons]
    omega

/-- An item is taken up to the white space behind it. -/
lemma read_text (i : WrittenItem read) {t : Text} (ht : Delimited t) :
    read (i.text ++ t) = .ok (i.value, i.behind ++ t) := by
  rw [text, List.append_assoc]
  exact i.raw_takes _ (delimited_append i.behind_spaces ht)

/-- One round of reading takes a whole item. -/
lemma readItems_succ (hread : IsItemReader read) (i : WrittenItem read) {first : Bool} {s t : Text}
    (n : Nat) (ht : Delimited t) (h : nextItem first s = .ok (true, skipSpaces (i.text ++ t))) :
    readItems read (n + 1) first s =
      (readItems read n false (i.behind ++ t)).map fun (items, rest) =>
        (i.value :: items, rest) := by
  have hvalue := (hread.read_skipSpaces (i.text ++ t)).trans (i.read_text ht)
  rw [readItems]
  simp only [h, bind, Except.bind, if_true, hvalue]
  cases readItems read n false (i.behind ++ t) <;> rfl

/-- Items behind commas are read up to the bracket. -/
lemma readItems_flatMap (hread : IsItemReader read) (is : List (WrittenItem read)) {n : Nat}
    (hn : is.length < n) {b : Text} (hb : b.all isSpace = true) (rest : Text) :
    readItems read n false (b ++ ((is.flatMap fun i => ',' :: i.text) ++ ']' :: rest)) =
      .ok (is.map value, ']' :: rest) := by
  induction is generalizing n b with
  | nil =>
    obtain ⟨k, rfl⟩ := Nat.exists_eq_succ_of_ne_zero (Nat.ne_zero_of_lt hn)
    have hnext : nextItem false (b ++ ']' :: rest) = .ok (false, ']' :: rest) := by
      unfold nextItem
      rw [skipSpaces_append hb, skipSpaces_cons (by decide)]
      rfl
    simp only [List.flatMap_nil, List.nil_append, readItems, hnext, bind, Except.bind]
    rfl
  | cons i is ih =>
    obtain ⟨k, rfl⟩ := Nat.exists_eq_succ_of_ne_zero (Nat.ne_zero_of_lt hn)
    have hk : is.length < k := by simpa using hn
    have ht := delimited_flatMap text is (delimited_cons (c := ']') (by decide) rest)
    obtain ⟨c, r, hs, hc⟩ := hread.exists_cons (i.read_text ht)
    have hnext : nextItem false (b ++ (((i :: is).flatMap fun i => ',' :: i.text) ++ ']' :: rest)) =
        .ok (true,
          skipSpaces (i.text ++ ((is.flatMap fun i => ',' :: i.text) ++ ']' :: rest))) := by
      unfold nextItem
      rw [skipSpaces_append hb, List.flatMap_cons, List.cons_append, List.cons_append,
        skipSpaces_cons (by decide), List.append_assoc, hs]
      simp only [Char.reduceEq, Bool.false_eq_true, hs, hc, if_true, if_false]
    rw [readItems_succ hread i k ht hnext, ih hk i.behind_spaces]
    rfl

/-- The items of an array are read up to its bracket. -/
lemma readItems_listText (hread : IsItemReader read) (is : List (WrittenItem read)) {n : Nat}
    (hn : is.length < n) {b : Text} (hb : b.all isSpace = true) (rest : Text) :
    readItems read n true (b ++ (listText is ++ ']' :: rest)) =
      .ok (is.map value, ']' :: rest) := by
  obtain ⟨k, rfl⟩ := Nat.exists_eq_succ_of_ne_zero (Nat.ne_zero_of_lt hn)
  cases is with
  | nil =>
    have hnext : nextItem true (b ++ ']' :: rest) = .ok (false, ']' :: rest) := by
      unfold nextItem
      rw [skipSpaces_append hb, skipSpaces_cons (by decide)]
      rfl
    simp only [listText, List.nil_append, readItems, hnext, bind, Except.bind]
    rfl
  | cons i is =>
    have hk : is.length < k := by simpa using hn
    have ht := delimited_flatMap text is (delimited_cons (c := ']') (by decide) rest)
    obtain ⟨c, r, hs, hc⟩ := hread.exists_cons (i.read_text ht)
    have hnext : nextItem true (b ++ (listText (i :: is) ++ ']' :: rest)) =
        .ok (true,
          skipSpaces (i.text ++ ((is.flatMap fun i => ',' :: i.text) ++ ']' :: rest))) := by
      unfold nextItem
      rw [skipSpaces_append hb, listText, List.append_assoc, hs]
      simp only [hc, if_true, if_false]
    rw [readItems_succ hread i k ht hnext, readItems_flatMap hread is hk i.behind_spaces]
    rfl

/-- An array that is written item by item reads as its items. -/
lemma readArray_listText (hread : IsItemReader read) (is : List (WrittenItem read)) {b : Text}
    (hb : b.all isSpace = true) (rest : Text) :
    readArray read (b ++ (listText is ++ ']' :: rest)) = .ok (is.map value, rest) := by
  have hn : is.length < (b ++ (listText is ++ ']' :: rest)).length + 1 := by
    have h := length_le_length_listText is
    simp only [List.length_append, List.length_cons]
    omega
  have hclose : closeArray (']' :: rest) = .ok rest := rfl
  unfold readArray
  simp only [readItems_listText hread is hn hb, hclose, bind, Except.bind]
  rfl

end WrittenItem

/-- An item of an array as it is written, with the value that it reads as to a given depth. White
space in front of it belongs to the item. -/
structure Item (depth : Nat) where
  raw : Text
  value : Json
  behind : Text
  raw_reads : Reads depth raw value
  behind_spaces : behind.all isSpace = true

namespace Item

/-- The text of an item. -/
def text (i : Item depth) : Text :=
  i.raw ++ i.behind

/-- The text of items with commas between them. -/
def listText : List (Item depth) → Text
  | [] => []
  | i :: is => i.text ++ is.flatMap fun i => ',' :: i.text

/-- An item as it is written. -/
def written (i : Item depth) : WrittenItem (readValue depth) :=
  ⟨i.raw, i.value, i.behind, i.raw_reads, i.behind_spaces⟩

/-- Written items have the text of the items. -/
lemma listText_written (is : List (Item depth)) :
    WrittenItem.listText (is.map written) = listText is := by
  cases is with
  | nil => rfl
  | cons i is =>
    rw [List.map_cons, WrittenItem.listText, List.flatMap_map]
    rfl

end Item

/-- An array reads as its items. -/
lemma reads_array (is : List (Item depth)) {b : Text} (hb : b.all isSpace = true) :
    Reads (depth + 1) ('[' :: (b ++ (Item.listText is ++ [']']))) (.array (is.map Item.value)) := by
  intro rest _
  have htext : '[' :: (b ++ (Item.listText is ++ [']'])) ++ rest =
      '[' :: (b ++ (Item.listText is ++ ']' :: rest)) := by simp
  have harray := WrittenItem.readArray_listText (isItemReader_readValue depth)
    (is.map Item.written) hb rest
  rw [Item.listText_written, List.map_map] at harray
  unfold readValue
  rw [htext, skipSpaces_cons (by decide)]
  simp only [if_true, harray, bind, Except.bind]
  rfl

end SearchGateway.Json
