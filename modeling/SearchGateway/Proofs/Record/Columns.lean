import Mathlib.Data.List.Nodup
import SearchGateway.Proofs.Entries
import SearchGateway.Record

/-!
# Columns of a record list

Where no fields are requested, the fields of a record list are the keys of its records, each of them
once. They stand in the order in which a reader meets them who goes through the records one after
the other and through the keys of each in their order (`fields_ofRecords_nil`), so further records
only ever add fields at the end.
-/

namespace SearchGateway

namespace Entries

variable {α : Type} {entries : Entries α} {x y : Text}

/-- The keys of an ascending collection are found at places in their order. -/
lemma Ascending.idxOf_lt_iff (h : Ascending entries) (hx : x ∈ entries.keys)
    (hy : y ∈ entries.keys) : entries.keys.idxOf x < entries.keys.idxOf y ↔ x < y := by
  have hplaces {a b : Text} (ha : a ∈ entries.keys) (hb : b ∈ entries.keys)
      (hlt : entries.keys.idxOf a < entries.keys.idxOf b) : a < b := by
    have hpair := List.pairwise_iff_getElem.1 h _ _ (List.idxOf_lt_length_of_mem ha)
      (List.idxOf_lt_length_of_mem hb) hlt
    rwa [List.getElem_idxOf, List.getElem_idxOf] at hpair
  refine ⟨hplaces hx hy, fun hxy => ?_⟩
  obtain hlt | heq | hgt := Nat.lt_trichotomy (entries.keys.idxOf x) (entries.keys.idxOf y)
  · exact hlt
  · rw [(List.idxOf_inj hx).1 heq] at hxy
    exact absurd hxy (List.lt_irrefl y)
  · exact absurd (hplaces hy hx hgt) (List.lt_asymm hxy)

end Entries

namespace RecordList

variable {seen keys : List Text} {x y : Text}

/-- A key in front is left out exactly where it was seen before. -/
lemma firstSeen_cons (seen keys : List Text) (key : Text) :
    firstSeen seen (key :: keys) =
      if key ∈ seen then firstSeen seen keys else key :: firstSeen (key :: seen) keys := by
  simp only [firstSeen, List.contains_iff_mem]

/-- What is kept of a list is what was not seen before. -/
lemma mem_firstSeen : x ∈ firstSeen seen keys ↔ x ∈ keys ∧ x ∉ seen := by
  induction keys generalizing seen with
  | nil => simp [firstSeen]
  | cons key keys ih =>
    rw [firstSeen_cons]
    split
    · rename_i hseen
      rw [ih, List.mem_cons]
      refine and_congr_left fun hx => (or_iff_right ?_).symm
      rintro rfl
      exact hx hseen
    · rename_i hseen
      rw [List.mem_cons, ih, List.mem_cons, List.mem_cons]
      by_cases hx : x = key
      · subst hx
        exact iff_of_true (.inl rfl) ⟨.inl rfl, hseen⟩
      · simp only [hx, false_or]

/-- Nothing is kept twice. -/
lemma nodup_firstSeen (seen keys : List Text) : (firstSeen seen keys).Nodup := by
  induction keys generalizing seen with
  | nil => exact .nil
  | cons key keys ih =>
    rw [firstSeen_cons]
    split
    · exact ih seen
    · refine List.nodup_cons.2 ⟨fun hmem => ?_, ih (key :: seen)⟩
      exact (mem_firstSeen.1 hmem).2 (.head _)

/-- What is kept of a list does not depend on what follows. -/
lemma firstSeen_prefix_append (seen keys more : List Text) :
    firstSeen seen keys <+: firstSeen seen (keys ++ more) := by
  induction keys generalizing seen with
  | nil => exact List.nil_prefix
  | cons key keys ih =>
    rw [List.cons_append, firstSeen_cons, firstSeen_cons]
    split
    · exact ih seen
    · exact List.cons_prefix_cons.2 ⟨rfl, ih (key :: seen)⟩

/-- What is kept stands in the order of its first appearance. -/
lemma idxOf_firstSeen_lt_iff (hx : x ∉ seen) (hy : y ∉ seen) :
    (firstSeen seen keys).idxOf x < (firstSeen seen keys).idxOf y ↔
      keys.idxOf x < keys.idxOf y := by
  induction keys generalizing seen with
  | nil => rfl
  | cons key keys ih =>
    rw [firstSeen_cons]
    split
    · rename_i hseen
      have hxkey : key ≠ x := fun heq => hx (heq ▸ hseen)
      have hykey : key ≠ y := fun heq => hy (heq ▸ hseen)
      rw [ih hx hy, List.idxOf_cons_ne _ hxkey, List.idxOf_cons_ne _ hykey, Nat.succ_lt_succ_iff]
    · by_cases hykey : key = y
      · -- Nothing stands in front of the key that was just met.
        subst hykey
        rw [List.idxOf_cons_self, List.idxOf_cons_self]
        exact iff_of_false (Nat.not_lt_zero _) (Nat.not_lt_zero _)
      · rw [List.idxOf_cons_ne _ hykey, List.idxOf_cons_ne _ hykey]
        by_cases hxkey : key = x
        · subst hxkey
          rw [List.idxOf_cons_self, List.idxOf_cons_self]
          exact iff_of_true (Nat.succ_pos _) (Nat.succ_pos _)
        · rw [List.idxOf_cons_ne _ hxkey, List.idxOf_cons_ne _ hxkey, Nat.succ_lt_succ_iff,
            Nat.succ_lt_succ_iff]
          exact ih (List.not_mem_cons_of_ne_of_not_mem (Ne.symm hxkey) hx)
            (List.not_mem_cons_of_ne_of_not_mem (Ne.symm hykey) hy)

/-- The place of the first record that has a key. -/
def firstHolder (records : List Record) (key : Text) : Nat :=
  records.findIdx fun record => record.keys.contains key

/-- A record in front holds a key first exactly where it has the key. -/
lemma firstHolder_cons (record : Record) (records : List Record) (key : Text) :
    firstHolder (record :: records) key =
      if key ∈ record.keys then 0 else firstHolder records key + 1 := by
  unfold firstHolder
  rw [List.findIdx_cons]
  by_cases h : key ∈ record.keys <;> simp [h]

/-- A key of the records appears before another one if an earlier record has it first, or if the
same record does and it comes first in the order of keys. -/
lemma idxOf_flatMap_keys_lt_iff {records : List Record}
    (h : ∀ record ∈ records, record.Ascending) (hx : x ∈ records.flatMap Entries.keys) :
    (records.flatMap Entries.keys).idxOf x < (records.flatMap Entries.keys).idxOf y ↔
      firstHolder records x < firstHolder records y ∨
        firstHolder records x = firstHolder records y ∧ x < y := by
  induction records with
  | nil => cases hx
  | cons record records ih =>
    obtain ⟨hrecord, hrecords⟩ := List.forall_mem_cons.1 h
    rw [List.flatMap_cons] at hx ⊢
    rw [firstHolder_cons, firstHolder_cons]
    by_cases hxr : x ∈ record.keys
    · rw [List.idxOf_append_of_mem hxr, if_pos hxr]
      by_cases hyr : y ∈ record.keys
      · rw [List.idxOf_append_of_mem hyr, if_pos hyr, hrecord.idxOf_lt_iff hxr hyr]
        simp
      · rw [List.idxOf_append_of_notMem hyr, if_neg hyr]
        have hlt := List.idxOf_lt_length_of_mem hxr
        exact iff_of_true (by omega) (.inl (Nat.succ_pos _))
    · rw [List.idxOf_append_of_notMem hxr, if_neg hxr]
      by_cases hyr : y ∈ record.keys
      · rw [List.idxOf_append_of_mem hyr, if_pos hyr]
        have hlt := List.idxOf_lt_length_of_mem hyr
        refine iff_of_false (by omega) ?_
        rintro (hlt | ⟨heq, _⟩)
        · exact Nat.not_lt_zero _ hlt
        · exact Nat.succ_ne_zero _ heq
      · have hxrs := (List.mem_append.1 hx).resolve_left hxr
        rw [List.idxOf_append_of_notMem hyr, if_neg hyr, Nat.add_lt_add_iff_left,
          ih hrecords hxrs, Nat.succ_lt_succ_iff, Nat.succ_inj]

/-- Without requested fields a list has as fields the keys of its records, each of them once, by the
first record that has it and then by the order of keys. Records that are left out at the end take
only fields at the end with them. The records are kept as they are, and they are what is counted. -/
theorem fields_ofRecords_nil {records : List Record} (h : ∀ record ∈ records, record.Ascending) :
    let list := ofRecords records []
    list.fields.Nodup ∧
    (∀ x, x ∈ list.fields ↔ ∃ record ∈ records, x ∈ record.keys) ∧
    (∀ x ∈ list.fields, ∀ y ∈ list.fields,
      list.fields.idxOf x < list.fields.idxOf y ↔
        firstHolder records x < firstHolder records y ∨
          firstHolder records x = firstHolder records y ∧ x < y) ∧
    (∀ n, (ofRecords (records.take n) []).fields <+: list.fields) ∧
    list.records = records ∧
    list.summary.get? "count".toList = some (Text.ofNat records.length) ∧
    list.summary.get? "size".toList = some (Text.ofNat records.length) := by
  intro list
  have hfields (x : Text) : x ∈ list.fields ↔ x ∈ records.flatMap Entries.keys :=
    mem_firstSeen.trans (and_iff_left List.not_mem_nil)
  refine ⟨nodup_firstSeen _ _, fun x => ?_, fun x hx y hy => ?_, fun n => ?_, rfl, rfl, rfl⟩
  · rw [hfields, List.mem_flatMap]
  · rw [← idxOf_flatMap_keys_lt_iff h ((hfields x).1 hx)]
    exact idxOf_firstSeen_lt_iff List.not_mem_nil List.not_mem_nil
  · have hsplit : records.flatMap Entries.keys =
        (records.take n).flatMap Entries.keys ++ (records.drop n).flatMap Entries.keys := by
      rw [← List.flatMap_append, List.take_append_drop]
    have hprefix := firstSeen_prefix_append [] ((records.take n).flatMap Entries.keys)
      ((records.drop n).flatMap Entries.keys)
    rwa [← hsplit] at hprefix

/-- Keys of a later record come behind those of an earlier one, also if they are smaller. -/
theorem fields_ofRecords_nil_overlapping :
    let records : List Record := [[("b".toList, "1".toList), ("d".toList, "2".toList)],
      [("a".toList, "3".toList), ("b".toList, "4".toList), ("c".toList, [])]]
    (∀ record ∈ records, record.Ascending) ∧
    (ofRecords records []).fields =
      ["b".toList, "d".toList, "a".toList, "c".toList] ∧
    (ofRecords records []).fields.Nodup ∧
    (ofRecords (records.take 1) []).fields <+: (ofRecords records []).fields := by
  intro records
  have h : ∀ record ∈ records, record.Ascending := by
    unfold Entries.Ascending
    decide
  obtain ⟨hnodup, _, _, hprefix, _⟩ := fields_ofRecords_nil h
  exact ⟨h, rfl, hnodup, hprefix 1⟩

end RecordList

end SearchGateway
