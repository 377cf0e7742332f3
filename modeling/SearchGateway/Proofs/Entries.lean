import Mathlib.Tactic.Lemma
import SearchGateway.Entries

/-!
# Setting entries

What setting a key does to a collection: the key gets its value, every other key keeps the one it
has, and the places of the keys do not depend on the values that are set.
-/

namespace SearchGateway.Entries

variable {α : Type} {key k : Text}

/-- A key that was set has its value. -/
lemma get?_put_self (key : Text) (value : α) (entries : Entries α) :
    (entries.put key value).get? key = some value := by
  induction entries with
  | nil => simp [put, get?]
  | cons entry entries ih =>
    obtain ⟨k, v⟩ := entry
    by_cases hk : k = key
    · simp [put, get?, hk]
    · simp [put, get?, hk, ih]

/-- The value of a key stands among the entries. -/
lemma mem_of_get? {value : α} {entries : Entries α}
    (h : entries.get? key = some value) : (key, value) ∈ entries := by
  induction entries with
  | nil => cases h
  | cons entry entries ih =>
    obtain ⟨k, v⟩ := entry
    unfold get? at h
    split at h
    · rename_i hk
      cases h
      rw [hk]
      exact .head _
    · exact .tail _ (ih h)

/-- A key is there exactly where it has a value. -/
lemma isSome_get?_iff {entries : Entries α} :
    (entries.get? key).isSome = true ↔ key ∈ entries.keys := by
  unfold keys
  induction entries with
  | nil => simp [get?]
  | cons entry entries ih =>
    obtain ⟨k, v⟩ := entry
    by_cases hk : k = key
    · simp [get?, hk]
    · simp [get?, hk, Ne.symm hk, ih]

/-- Setting a key keeps the values of all others. -/
lemma get?_put_of_ne (h : k ≠ key) (value : α) (entries : Entries α) :
    (entries.put key value).get? k = entries.get? k := by
  induction entries with
  | nil => simp [put, get?, Ne.symm h]
  | cons entry entries ih =>
    obtain ⟨k', v⟩ := entry
    by_cases hk : k' = key
    · simp [put, get?, hk, Ne.symm h]
    · simp [put, get?, hk, ih]

/-- Of two values for one key the later one stays. -/
lemma put_put (key : Text) (a b : α) (entries : Entries α) :
    (entries.put key a).put key b = entries.put key b := by
  induction entries with
  | nil => simp [put]
  | cons entry entries ih =>
    obtain ⟨k, v⟩ := entry
    by_cases hk : k = key
    · simp [put, hk]
    · simp [put, hk, ih]

/-- Of two values for one key the later one stays, also where another key was set in between. -/
lemma put_put_of_ne (h : k ≠ key) (a b c : α) (entries : Entries α) :
    ((entries.put key a).put k c).put key b = (entries.put key b).put k c := by
  induction entries with
  | nil => simp [put, Ne.symm h]
  | cons entry entries ih =>
    obtain ⟨k', v⟩ := entry
    by_cases hk : k' = key
    · simp [put, hk, Ne.symm h]
    · by_cases hk' : k' = k
      · simp [put, hk', h, put_put]
      · simp [put, hk, hk', ih]

/-- A key that is not there yet is set at the end. -/
lemma put_of_not_mem (value : α) {entries : Entries α} (h : key ∉ entries.keys) :
    entries.put key value = entries ++ [(key, value)] := by
  induction entries with
  | nil => rfl
  | cons entry entries ih =>
    obtain ⟨k, v⟩ := entry
    obtain ⟨hk, hr⟩ := List.ne_and_not_mem_of_not_mem_cons h
    rw [put, if_neg (Ne.symm hk), ih hr]
    rfl

/-- However entries are set in turn, of the values that are set for a key the last one stays, and
without one the value before. -/
lemma get?_foldl {set : Text → α → Entries α → Entries α}
    (hself : ∀ key value entries, (set key value entries).get? key = some value)
    (hother : ∀ key k, k ≠ key → ∀ value entries,
      (set key value entries).get? k = entries.get? k)
    (k : Text) (entries more : Entries α) :
    (more.foldl (fun acc entry => set entry.1 entry.2 acc) entries).get? k =
      ((more.filter fun entry => entry.1 = k).getLast?.map Prod.snd).or (entries.get? k) := by
  induction more generalizing entries with
  | nil => rfl
  | cons entry more ih =>
    obtain ⟨key, value⟩ := entry
    refine (ih _).trans ?_
    by_cases hk : key = k
    · subst hk
      rw [hself, List.filter_cons_of_pos (by simp), List.getLast?_cons]
      cases (more.filter fun entry => entry.1 = key).getLast? <;> rfl
    · rw [hother _ _ (Ne.symm hk), List.filter_cons_of_neg (by simpa using hk)]

/-- A collection has the last value that was set for a key. -/
lemma get?_ofList (k : Text) (entries : List (Text × α)) :
    (ofList entries).get? k = (entries.filter fun entry => entry.1 = k).getLast?.map Prod.snd :=
  (get?_foldl get?_put_self (fun _ _ => get?_put_of_ne) k [] entries).trans Option.or_none

/-- Whether two lists have the same values under each key, in the same order. Entries of different
keys may stand in another order. -/
def SameByKey (entries entries' : List (Text × α)) : Prop :=
  ∀ key, (entries.filter fun entry => entry.1 = key) = entries'.filter fun entry => entry.1 = key

namespace SameByKey

variable {entries entries' : List (Text × α)}

/-- Lists with the same values under each key hold the same entries. -/
lemma mem_iff (h : SameByKey entries entries') {entry : Text × α} :
    entry ∈ entries ↔ entry ∈ entries' := by
  have hmem (l : List (Text × α)) : (entry ∈ l.filter fun e => e.1 = entry.1) ↔ entry ∈ l := by
    simp
  rw [← hmem entries, h, hmem]

/-- Lists with the same values under each key are empty together. -/
lemma isEmpty_eq (h : SameByKey entries entries') : entries.isEmpty = entries'.isEmpty := by
  rw [Bool.eq_iff_iff, List.isEmpty_iff, List.isEmpty_iff, List.eq_nil_iff_forall_not_mem,
    List.eq_nil_iff_forall_not_mem]
  exact forall_congr' fun entry => not_congr h.mem_iff

/-- Lists with the same values under each key set the same values. -/
lemma get?_ofList_eq (h : SameByKey entries entries') (k : Text) :
    (ofList entries).get? k = (ofList entries').get? k := by
  rw [get?_ofList, get?_ofList, h]

end SameByKey

/-- The keys once another one is set: it goes to the end unless it is there. -/
def putKey (keys : List Text) (key : Text) : List Text :=
  if key ∈ keys then keys else keys ++ [key]

/-- Setting a key sets it among the keys. -/
lemma keys_put (key : Text) (value : α) (entries : Entries α) :
    (entries.put key value).keys = putKey entries.keys key := by
  induction entries with
  | nil => rfl
  | cons entry entries ih =>
    obtain ⟨k, v⟩ := entry
    unfold keys putKey at ih ⊢
    by_cases hk : k = key
    · simp [put, hk]
    · simp only [put, hk, if_false, List.map_cons, ih, List.mem_cons, Ne.symm hk, false_or]
      split <;> rfl

/-- The keys once some keys are set. -/
lemma mem_foldl_putKey {keys more : List Text} :
    k ∈ more.foldl putKey keys ↔ k ∈ keys ∨ k ∈ more := by
  induction more generalizing keys with
  | nil => simp
  | cons key more ih =>
    have hput : k ∈ putKey keys key ↔ k ∈ keys ∨ k = key := by
      unfold putKey
      split
      · rename_i hmem
        exact ⟨.inl, fun h => h.elim id fun heq => heq ▸ hmem⟩
      · simp
    rw [List.foldl_cons, ih, hput, List.mem_cons, or_assoc]

/-- Distinct keys stay distinct when further ones are set. -/
lemma nodup_foldl_putKey {keys more : List Text} (h : keys.Nodup) :
    (more.foldl putKey keys).Nodup := by
  induction more generalizing keys with
  | nil => exact h
  | cons key more ih =>
    apply ih
    unfold putKey
    split
    · exact h
    · rename_i hkey
      refine List.nodup_append.2 ⟨h, by simp, fun k hk k' hk' => ?_⟩
      obtain rfl := List.mem_singleton.1 hk'
      exact fun heq => hkey (heq ▸ hk)

/-- Setting distinct keys that are not there yet appends them in their order. -/
lemma foldl_put (entries more : Entries α) (h : (entries ++ more).keys.Nodup) :
    more.foldl (fun acc entry => acc.put entry.1 entry.2) entries = entries ++ more := by
  induction more generalizing entries with
  | nil => exact (List.append_nil entries).symm
  | cons entry more ih =>
    have happ : entries ++ entry :: more = (entries ++ [entry]) ++ more := by simp
    have hkey : entry.1 ∉ entries.keys := by
      unfold keys at h ⊢
      rw [List.map_append, List.nodup_append] at h
      exact fun hm => h.2.2 _ hm _ (.head _) rfl
    rw [happ] at h ⊢
    rw [List.foldl_cons, put_of_not_mem _ hkey, ih _ h]

/-- Entries of distinct keys are the collection that they make. -/
lemma ofList_eq_self {entries : Entries α} (h : entries.keys.Nodup) : ofList entries = entries :=
  foldl_put [] entries h

/-- The place of a key that is set does not depend on its value. -/
lemma put_eq_append (key : Text) (entries : Entries α) :
    ∃ before after : Entries α, ∀ value,
      entries.put key value = before ++ (key, value) :: after := by
  induction entries with
  | nil => exact ⟨[], [], fun _ => rfl⟩
  | cons entry entries ih =>
    obtain ⟨k, v⟩ := entry
    by_cases hk : k = key
    · exact ⟨[], entries, fun value => by simp [put, hk]⟩
    · obtain ⟨before, after, h⟩ := ih
      exact ⟨(k, v) :: before, after, fun value => by simp [put, hk, h]⟩

/-- Setting another key keeps a key in its place, whatever its value is. -/
lemma put_append_cons (h : key ≠ k) (v : α) (before after : Entries α) :
    ∃ before' after' : Entries α, ∀ value,
      (before ++ (key, value) :: after).put k v = before' ++ (key, value) :: after' := by
  induction before with
  | nil => exact ⟨[], after.put k v, fun value => by simp [put, h]⟩
  | cons entry before ih =>
    obtain ⟨k', v'⟩ := entry
    by_cases hk : k' = k
    · exact ⟨(k', v) :: before, after, fun value => by simp [put, hk]⟩
    · obtain ⟨before', after', h⟩ := ih
      exact ⟨(k', v') :: before', after', fun value => by simp [put, hk, h]⟩

/-- An entry of another key does not matter to the value of a key. -/
lemma get?_append_cons_of_ne (h : key ≠ k) (value : α) (before after : Entries α) :
    get? k (before ++ (key, value) :: after) = get? k (before ++ after) := by
  induction before with
  | nil => simp [get?, h]
  | cons entry before ih =>
    obtain ⟨k', v⟩ := entry
    by_cases hk : k' = k
    · simp [get?, hk]
    · simpa [get?, hk] using ih

/-- Each of some keys has its value where every key comes with the value that it determines. -/
lemma get?_map_self {keys : List Text} {value : Text → α} (h : key ∈ keys) :
    get? key (keys.map fun k => (k, value k)) = some (value key) := by
  induction keys with
  | nil => cases h
  | cons k keys ih =>
    by_cases hk : k = key
    · simp [get?, hk]
    · cases h with
      | head => exact absurd rfl hk
      | tail _ h => simp [get?, hk, ih h]

section sorted

/-- Whether the keys stand in ascending order, so that none stands twice. -/
def Ascending (entries : Entries α) : Prop :=
  entries.keys.Pairwise (· < ·)

/-- No entries are in ascending order. -/
lemma Ascending.nil : Ascending ([] : Entries α) := List.Pairwise.nil

/-- A key that is set has its new value. -/
lemma get?_putSorted_self (key : Text) (value : α) (entries : Entries α) :
    (entries.putSorted key value).get? key = some value := by
  induction entries with
  | nil => simp [putSorted, get?]
  | cons entry entries ih =>
    obtain ⟨k, v⟩ := entry
    rw [putSorted]
    split
    · rename_i hk
      exact if_pos hk
    · rename_i hk
      split
      · exact if_pos rfl
      · exact (if_neg hk).trans ih

/-- Setting a key leaves the values of the others. -/
lemma get?_putSorted_of_ne (h : k ≠ key) (value : α) (entries : Entries α) :
    (entries.putSorted key value).get? k = entries.get? k := by
  induction entries with
  | nil => simp [putSorted, get?, Ne.symm h]
  | cons entry entries ih =>
    obtain ⟨k', v⟩ := entry
    rw [putSorted]
    split
    · rename_i hk
      simp only [get?, hk, Ne.symm h, if_false]
    · split
      · exact if_neg (Ne.symm h)
      · simp only [get?, ih]

/-- Setting a key brings no other one and loses none. -/
lemma mem_keys_putSorted {value : α} {entries : Entries α} :
    k ∈ (entries.putSorted key value).keys ↔ k = key ∨ k ∈ entries.keys := by
  rw [← isSome_get?_iff, ← isSome_get?_iff]
  by_cases hk : k = key
  · rw [hk, get?_putSorted_self]
    exact iff_of_true rfl (.inl rfl)
  · rw [get?_putSorted_of_ne hk]
    exact (or_iff_right hk).symm

/-- Setting a key keeps the ascending order. -/
lemma Ascending.putSorted {entries : Entries α} (h : Ascending entries) (key : Text) (value : α) :
    Ascending (entries.putSorted key value) := by
  induction entries with
  | nil => exact List.pairwise_singleton _ _
  | cons entry entries ih =>
    obtain ⟨k, v⟩ := entry
    obtain ⟨hfirst, hrest⟩ := List.pairwise_cons.1 h
    rw [Entries.putSorted]
    split
    · exact h
    · rename_i hk
      split
      · rename_i hlt
        refine List.pairwise_cons.2 ⟨List.forall_mem_cons.2 ⟨hlt, fun k' hk' => ?_⟩, h⟩
        exact List.lt_trans hlt (hfirst k' hk')
      · rename_i hge
        have hlt : k < key := Decidable.byContradiction fun hle =>
          hk (Std.Trichotomous.trichotomous k key hle hge)
        refine List.pairwise_cons.2 ⟨fun k' hk' => ?_, ih hrest⟩
        obtain rfl | hk' := mem_keys_putSorted.1 hk'
        · exact hlt
        · exact hfirst k' hk'

/-- Setting a new key adds one entry. -/
lemma length_putSorted_of_not_mem {value : α} {entries : Entries α} (h : key ∉ entries.keys) :
    (entries.putSorted key value).length = entries.length + 1 := by
  induction entries with
  | nil => rfl
  | cons entry entries ih =>
    obtain ⟨k, v⟩ := entry
    obtain ⟨hk, hrest⟩ := List.ne_and_not_mem_of_not_mem_cons h
    rw [putSorted, if_neg (Ne.symm hk)]
    split
    · rfl
    · rw [List.length_cons, ih hrest, List.length_cons]

/-- The collection once some entries are set in turn. -/
def putAllSorted (entries more : Entries α) : Entries α :=
  more.foldl (fun acc entry => acc.putSorted entry.1 entry.2) entries

/-- Of the values that are set for a key the last one stays, and without one the value before. -/
lemma get?_putAllSorted (k : Text) (entries more : Entries α) :
    (entries.putAllSorted more).get? k =
      ((more.filter fun entry => entry.1 = k).getLast?.map Prod.snd).or (entries.get? k) :=
  get?_foldl get?_putSorted_self (fun _ _ => get?_putSorted_of_ne) k entries more

/-- Setting entries adds their keys. -/
lemma mem_keys_putAllSorted {entries more : Entries α} :
    k ∈ (entries.putAllSorted more).keys ↔ k ∈ entries.keys ∨ k ∈ more.keys := by
  induction more generalizing entries with
  | nil => simp [putAllSorted, keys]
  | cons entry more ih =>
    refine ih.trans ?_
    rw [mem_keys_putSorted, or_comm (a := k = entry.1), or_assoc]
    exact or_congr_right List.mem_cons.symm

/-- Setting entries keeps the ascending order. -/
lemma Ascending.putAllSorted {entries : Entries α} (h : Ascending entries) (more : Entries α) :
    Ascending (entries.putAllSorted more) := by
  induction more generalizing entries with
  | nil => exact h
  | cons entry more ih => exact ih (h.putSorted entry.1 entry.2)

/-- Setting distinct new keys adds as many entries. -/
lemma length_putAllSorted {entries more : Entries α} (hmore : (keys more).Nodup)
    (hnew : ∀ k ∈ keys more, k ∉ keys entries) :
    (entries.putAllSorted more).length = entries.length + more.length := by
  induction more generalizing entries with
  | nil => rfl
  | cons entry more ih =>
    obtain ⟨hfirst, hmore⟩ := List.nodup_cons.1 hmore
    obtain ⟨hentry, hnew⟩ := List.forall_mem_cons.1 hnew
    refine (ih hmore fun k hk hmem => ?_).trans ?_
    · obtain rfl | hmem := mem_keys_putSorted.1 hmem
      · exact hfirst hk
      · exact hnew k hk hmem
    · rw [length_putSorted_of_not_mem hentry, List.length_cons]
      omega

end sorted

end SearchGateway.Entries
