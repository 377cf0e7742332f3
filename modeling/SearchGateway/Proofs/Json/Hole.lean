import Mathlib.Data.List.Induction
import SearchGateway.Proofs.Entries
import SearchGateway.Proofs.Json.Written

/-!
# Objects with an open value

The text of an object around the value of one of its keys, in any layout. Whatever reads as a value
may stand there, and nothing else in the object depends on it: the members have the same keys in the
same places, and all other values are the same (`Hole.reads`, `Hole.members_eq`).
-/

namespace SearchGateway.Json

/-- The value of a key is that of the last member with the key. -/
lemma Member.exists_last {depth : Nat} {ms : List (Member depth)} {key : Text} {j : Json}
    (h : (Member.entriesFrom [] ms).get? key = some j) :
    ∃ before m after, ms = before ++ m :: after ∧ m.key = key ∧ m.value = j ∧
      ∀ m' ∈ after, m'.key ≠ key := by
  induction ms using List.reverseRecOn with
  | nil => cases h
  | append_singleton ms m ih =>
    unfold Member.entriesFrom at h ih
    rw [List.foldl_append, List.foldl_cons, List.foldl_nil] at h
    by_cases hm : m.key = key
    · rw [hm, Entries.get?_put_self] at h
      exact ⟨ms, m, [], rfl, hm, Option.some.inj h, nofun⟩
    · rw [Entries.get?_put_of_ne (Ne.symm hm)] at h
      obtain ⟨before, m', after, rfl, hkey, hvalue, hlast⟩ := ih h
      refine ⟨before, m', after ++ [m], by simp, hkey, hvalue, fun m'' hmem => ?_⟩
      obtain hmem | hmem := List.mem_append.1 hmem
      · exact hlast m'' hmem
      · rwa [List.mem_singleton.1 hmem]

/-- The text of an object around the value of the last of its members with a certain key. -/
structure Hole (depth : Nat) where
  first : Text
  before : List (Member depth)
  key : Key
  beforeValue : Text
  behindValue : Text
  after : List (Member depth)
  first_spaces : first.all isSpace = true
  beforeValue_spaces : beforeValue.all isSpace = true
  behindValue_spaces : behindValue.all isSpace = true
  isLast : ∀ m ∈ after, m.key ≠ key.key

namespace Hole

variable {depth : Nat} (hole : Hole depth) {raw : Text} {j : Json}

/-- The text in front of the value. -/
def front : Text :=
  '{' :: (hole.first ++ ((hole.before.flatMap fun m => m.text ++ [',']) ++
    (hole.key.text ++ hole.beforeValue)))

/-- The text behind the value. -/
def back : Text :=
  hole.behindValue ++ ((hole.after.flatMap fun m => ',' :: m.text) ++ ['}'])

/-- The members of the object with the given value. -/
def members (j : Json) : Entries Json :=
  Member.entriesFrom ((Member.entriesFrom [] hole.before).put hole.key.key j) hole.after

/-- The member with the given value. -/
def member (h : Reads depth raw j) : Member depth :=
  ⟨hole.key, hole.beforeValue ++ raw, j, hole.behindValue, h.append hole.beforeValue_spaces,
    hole.behindValue_spaces⟩

/-- Members in front of a member end with commas, those behind it begin with commas. -/
lemma listText_append_cons (before : List (Member depth)) (m : Member depth)
    (after : List (Member depth)) :
    Member.listText (before ++ m :: after) =
      (before.flatMap fun m => m.text ++ [',']) ++
        (m.text ++ after.flatMap fun m => ',' :: m.text) := by
  have hcons (ms : List (Member depth)) (h : ms ≠ []) :
      (ms.flatMap fun m => ',' :: m.text) = ',' :: Member.listText ms := by
    obtain ⟨m, ms, rfl⟩ := List.exists_cons_of_ne_nil h
    rfl
  induction before with
  | nil => rfl
  | cons b before ih =>
    rw [List.cons_append, Member.listText, hcons _ (by simp), ih, List.flatMap_cons,
      List.append_assoc, List.append_assoc]
    rfl

/-- The text around a value is that of an object with the member. -/
lemma front_append_back (h : Reads depth raw j) :
    hole.front ++ (raw ++ hole.back) =
      '{' :: (hole.first ++
        (Member.listText (hole.before ++ hole.member h :: hole.after) ++ ['}'])) := by
  unfold front back
  rw [listText_append_cons]
  simp [Member.text, member]

/-- The members of the object with the member. -/
lemma entriesFrom_member (h : Reads depth raw j) :
    Member.entriesFrom [] (hole.before ++ hole.member h :: hole.after) = hole.members j := by
  unfold members Member.entriesFrom
  rw [List.foldl_append]
  rfl

/-- With a value in its place the object reads as its members. -/
lemma reads (h : Reads depth raw j) :
    Reads (depth + 1) (hole.front ++ (raw ++ hole.back)) (.object (hole.members j)) := by
  have hobject := reads_object (hole.before ++ hole.member h :: hole.after) hole.first_spaces
  rwa [← front_append_back, entriesFrom_member] at hobject

/-- With a value in its place the object gives its members, between white space. -/
lemma parseObject_text (hole : Hole (maxDepth - 1)) (h : Reads (maxDepth - 1) raw j)
    {start finish : Text} (hs : start.all isSpace = true) (hf : finish.all isSpace = true) :
    parseObject (start ++ (hole.front ++ (raw ++ (hole.back ++ finish)))) =
      .ok (hole.members j) := by
  have hobject := parseObject_listText (hole.before ++ hole.member h :: hole.after) start
    hole.first finish hs hole.first_spaces hf
  have htext : hole.front ++ (raw ++ (hole.back ++ finish)) = '{' :: (hole.first ++
      (Member.listText (hole.before ++ hole.member h :: hole.after) ++ '}' :: finish)) := by
    have hfront := congrArg (· ++ finish) (hole.front_append_back h)
    simpa using hfront
  rwa [← htext, entriesFrom_member] at hobject

/-- The key has the value. -/
lemma get?_members_key (j : Json) : (hole.members j).get? hole.key.key = some j := by
  have keep (ms : List (Member depth)) (h : ∀ m ∈ ms, m.key ≠ hole.key.key)
      (entries : Entries Json) :
      (Member.entriesFrom entries ms).get? hole.key.key = entries.get? hole.key.key := by
    induction ms generalizing entries with
    | nil => rfl
    | cons m ms ih =>
      have hm := h m (.head _)
      exact (ih (fun m hm => h m (.tail _ hm)) _).trans (Entries.get?_put_of_ne (Ne.symm hm) _ _)
  unfold members
  rw [keep _ hole.isLast, Entries.get?_put_self]

/-- Setting the key gives the object with the other value in its place. -/
lemma put_members (j j' : Json) : (hole.members j).put hole.key.key j' = hole.members j' := by
  have keep (ms : List (Member depth)) (h : ∀ m ∈ ms, m.key ≠ hole.key.key)
      (entries : Entries Json) :
      (Member.entriesFrom (entries.put hole.key.key j) ms).put hole.key.key j' =
        Member.entriesFrom (entries.put hole.key.key j') ms := by
    induction ms generalizing entries with
    | nil => exact Entries.put_put _ _ _ _
    | cons m ms ih =>
      have hm := h m (.head _)
      have ih := ih fun m hm => h m (.tail _ hm)
      have hset := ih ((entries.put hole.key.key j).put m.key m.value)
      rwa [Entries.put_put_of_ne hm, Entries.put_put_of_ne hm] at hset
  exact keep _ hole.isLast _

/-- All members but the one stay, in their places, whatever the value is. -/
lemma members_eq : ∃ before after : Entries Json, ∀ j,
    hole.members j = before ++ (hole.key.key, j) :: after := by
  -- The members behind it have other keys and leave its entry where it is.
  have keep (ms : List (Member depth)) (h : ∀ m ∈ ms, m.key ≠ hole.key.key)
      (before after : Entries Json) : ∃ before' after' : Entries Json, ∀ j,
        Member.entriesFrom (before ++ (hole.key.key, j) :: after) ms =
          before' ++ (hole.key.key, j) :: after' := by
    induction ms generalizing before after with
    | nil => exact ⟨before, after, fun _ => rfl⟩
    | cons m ms ih =>
      have hm := h m (.head _)
      obtain ⟨before', after', hput⟩ :=
        Entries.put_append_cons (Ne.symm hm) m.value before after
      obtain ⟨before'', after'', hrest⟩ :=
        ih (fun m hm => h m (.tail _ hm)) before' after'
      refine ⟨before'', after'', fun j => ?_⟩
      unfold Member.entriesFrom at hrest ⊢
      rw [List.foldl_cons, hput, hrest]
  obtain ⟨before, after, hput⟩ :=
    Entries.put_eq_append hole.key.key (Member.entriesFrom [] hole.before)
  obtain ⟨before', after', hrest⟩ := keep _ hole.isLast before after
  exact ⟨before', after', fun j => by rw [members, hput, hrest]⟩

/-- Another key has the same value whatever the value is. -/
lemma get?_members_of_ne {k : Text} (h : k ≠ hole.key.key) (j j' : Json) :
    (hole.members j).get? k = (hole.members j').get? k := by
  obtain ⟨before, after, hm⟩ := hole.members_eq
  rw [hm, hm, Entries.get?_append_cons_of_ne (Ne.symm h),
    Entries.get?_append_cons_of_ne (Ne.symm h)]

end Hole

end SearchGateway.Json
