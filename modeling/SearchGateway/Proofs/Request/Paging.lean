import SearchGateway.Proofs.Entries
import SearchGateway.Proofs.Error
import SearchGateway.Proofs.Number.Count
import SearchGateway.Proofs.Text.Trim
import SearchGateway.Request.Select

/-!
# Pages

Raw metadata are accepted exactly where every key that is looked at gives a count or nothing, and an
error names the first one that does not. The page that is sent is told in natural numbers: its rows
are never zero, its start stays at the greatest count where it would be greater, and each page
starts where the one before it ends (`ofRaw_sendsPage`).
-/

namespace SearchGateway

/-- Whether a request asks for so many rows, from so many on. -/
structure SelectRequest.SendsPage (request : SelectRequest) (rows start : Nat) : Prop where
  rows_eq : request.get? "rows".toList = some (Text.ofNat rows)
  start_eq : request.get? "start".toList = some (Text.ofNat start)

namespace Metadata

/-- Whether there is no text under a key, or a blank one. -/
def isAbsent (raw : Entries Text) (key : Text) : Bool :=
  (raw.get? key).all Text.isBlank

/-- What raw metadata give as the count under a key: nothing, or the count that the trimmed text
writes. -/
inductive Gives (raw : Entries Text) (key : Text) : Option Nat → Prop where
  | absent : isAbsent raw key = true → Gives raw key none
  | written {text n} : raw.get? key = some text → WritesCount text.trim n → Gives raw key (some n)

/-- The keys that are looked at for the page, in their order: a page number only counts where there
is no offset. -/
def pagingKeys (raw : Entries Text) : List Text :=
  ["pageSize".toList, "offset".toList] ++
    if isAbsent raw "offset".toList then ["pageNumber".toList] else []

/-- Whether a key is the first one that gives neither a count nor nothing. -/
def IsFirstFault (raw : Entries Text) (key : Text) : Prop :=
  ∃ before after, pagingKeys raw = before ++ key :: after ∧
    (∀ k ∈ before, ∃ count?, Gives raw k count?) ∧ ¬ ∃ count?, Gives raw key count?

/-- How many rows the page has that raw metadata ask for. -/
inductive Rows (raw : Entries Text) : Nat → Prop where
  | absent : Gives raw "pageSize".toList none → Rows raw 1000
  | zero : Gives raw "pageSize".toList (some 0) → Rows raw 1000
  | given {n} : Gives raw "pageSize".toList (some n) → n ≠ 0 → Rows raw n

/-- Where the page starts that raw metadata ask for, if it has so many rows. -/
inductive Start (raw : Entries Text) (rows : Nat) : Nat → Prop where
  | offset {n} : Gives raw "offset".toList (some n) → Start raw rows n
  | page {n} : Gives raw "offset".toList none → Gives raw "pageNumber".toList (some n) →
      Start raw rows (min ((max n 1 - 1) * rows) (2 ^ 64 - 1))
  | first : Gives raw "offset".toList none → Gives raw "pageNumber".toList none → Start raw rows 0

section counts

variable {raw raw' : Entries Text} {key : Text}

/-- There is nothing to read under a key exactly where it is absent. -/
lemma nonBlank?_eq_none_iff : nonBlank? raw key = none ↔ isAbsent raw key = true := by
  unfold nonBlank? isAbsent
  cases raw.get? key with
  | none => exact iff_of_true rfl rfl
  | some text => simp [Option.filter, ← Text.trim_eq_nil_iff]

/-- What is read under a key is its text without white space around it. -/
lemma nonBlank?_eq_some {value : Text} (h : nonBlank? raw key = some value) :
    ∃ text, raw.get? key = some text ∧ value = text.trim := by
  obtain ⟨h, -⟩ := Option.filter_eq_some_iff.1 h
  obtain ⟨text, hget, rfl⟩ := Option.map_eq_some_iff.1 h
  exact ⟨text, hget, rfl⟩

/-- What a key gives is what is read under it. -/
lemma Gives.count?_eq {value : Option Nat} (h : Gives raw key value) :
    count? raw key = .ok value := by
  unfold count?
  cases h with
  | absent h => rw [nonBlank?_eq_none_iff.2 h]
  | @written text n hget hn =>
    have hread := readCount_eq_ok_iff.2 hn
    cases hvalue : nonBlank? raw key with
    | none =>
      -- A blank text has no digit.
      have hblank := nonBlank?_eq_none_iff.1 hvalue
      rw [isAbsent, hget] at hblank
      rw [Text.trim_eq_nil_iff.2 hblank] at hread
      cases hread
    | some value =>
      obtain ⟨text', hget', rfl⟩ := nonBlank?_eq_some hvalue
      obtain rfl := Option.some.inj (hget'.symm.trans hget)
      simp only [hread]

/-- What is read under a key is what it gives. -/
lemma gives_of_count? {value : Option Nat} (h : count? raw key = .ok value) :
    Gives raw key value := by
  unfold count? at h
  split at h
  · rename_i hblank
    cases h
    exact .absent (nonBlank?_eq_none_iff.1 hblank)
  · rename_i hvalue
    obtain ⟨text, hget, rfl⟩ := nonBlank?_eq_some hvalue
    split at h
    · rename_i hread
      cases h
      exact .written hget (readCount_eq_ok_iff.1 hread)
    · cases h

/-- A key whose text is no count is named in the error. -/
lemma of_count?_eq_error {e : Error} (h : count? raw key = .error e) :
    (¬ ∃ value, Gives raw key value) ∧ ∃ value cause, e = .invalidMetadata key value cause := by
  refine ⟨fun ⟨value, hgives⟩ => ?_, ?_⟩
  · rw [hgives.count?_eq] at h
    cases h
  · unfold count? at h
    split at h
    · cases h
    · split at h
      · cases h
      · cases h
        exact ⟨_, _, rfl⟩

/-- A key that gives something is absent exactly where it gives no number. -/
lemma Gives.isAbsent_iff {value : Option Nat} (h : Gives raw key value) :
    isAbsent raw key = true ↔ value = none := by
  rw [← nonBlank?_eq_none_iff]
  constructor
  · intro hblank
    have hcount := h.count?_eq
    rw [count?, hblank] at hcount
    exact (Except.ok.inj hcount).symm
  · rintro rfl
    cases h with
    | absent h => exact nonBlank?_eq_none_iff.2 h

/-- A key gives one number at most. -/
lemma Gives.eq {m n : Option Nat} (hm : Gives raw key m) (hn : Gives raw key n) : m = n :=
  Except.ok.inj (hm.count?_eq.symm.trans hn.count?_eq)

/-- A number depends on the text under its key only. -/
lemma count?_congr (h : raw'.get? key = raw.get? key) : count? raw' key = count? raw key := by
  unfold count? nonBlank?
  rw [h]

end counts

section reading

variable {raw raw' : Entries Text} {fields : List Text}

/-- No page is empty. -/
lemma Rows.pos {rows : Nat} (h : Rows raw rows) : 0 < rows := by
  cases h with
  | absent | zero => decide
  | given _ hn => exact Nat.pos_of_ne_zero hn

/-- The page size that is used is that of the specification. -/
lemma rows_resolvePageSize {size : Option Nat} (h : Gives raw "pageSize".toList size) :
    Rows raw (resolvePageSize size) := by
  match size with
  | none => exact .absent h
  | some 0 => exact .zero h
  | some (n + 1) => exact .given h (Nat.succ_ne_zero n)

/-- The offset of a page does not leave the natural numbers, except that it has a greatest value. -/
lemma pageOffset_eq (n rows : Nat) :
    pageOffset n rows = min ((max n 1 - 1) * rows) (2 ^ 64 - 1) := by
  have hn : max n 1 - 1 = n - 1 := by omega
  rw [hn]
  rfl

/-- The offset that is used is that of the specification. -/
lemma start_readOffset {size offset : Option Nat} (h : readOffset raw size = .ok offset) :
    Start raw (resolvePageSize size) (offset.getD 0) := by
  obtain ⟨given, hgiven, h⟩ := bind_eq_ok.1 h
  have hgiven := gives_of_count? hgiven
  cases given with
  | some n =>
    cases h
    exact .offset hgiven
  | none =>
    obtain ⟨page, hpage, h⟩ := bind_eq_ok.1 h
    have hpage := gives_of_count? hpage
    cases h
    cases page with
    | none => exact .first hgiven hpage
    | some n =>
      rw [Option.map_some, Option.getD_some, pageOffset_eq]
      exact .page hgiven hpage

/-- Metadata that are accepted have the page size and the offset that are read. -/
lemma ofRaw_eq_ok {metadata : Metadata} (h : ofRaw raw fields = .ok metadata) :
    count? raw "pageSize".toList = .ok metadata.pageSize ∧
      readOffset raw metadata.pageSize = .ok metadata.offset := by
  obtain ⟨size, hsize, h⟩ := bind_eq_ok.1 h
  obtain ⟨offset, hoffset, h⟩ := bind_eq_ok.1 h
  cases h
  exact ⟨hsize, hoffset⟩

/-- A search asks for the page of its metadata. -/
lemma sendsPage_build (query : LuceneQuery) (metadata : Metadata) :
    (SelectRequest.build .search query metadata).SendsPage
      metadata.effectivePageSize metadata.effectiveOffset :=
  ⟨rfl, rfl⟩

/-- An error is about the first key at fault. -/
lemma isFirstFault_of_ofRaw {e : Error} (h : ofRaw raw fields = .error e) :
    ∃ key value cause, e = .invalidMetadata key value cause ∧ IsFirstFault raw key := by
  obtain hsize | ⟨size, hsize, h⟩ := bind_eq_error.1 h
  · obtain ⟨hnone, value, cause, he⟩ := of_count?_eq_error hsize
    exact ⟨_, value, cause, he, [], _, rfl, nofun, hnone⟩
  have hsize := gives_of_count? hsize
  obtain hoffset | ⟨offset, _, h⟩ := bind_eq_error.1 h
  · obtain hgiven | ⟨given, hgiven, hpage⟩ := bind_eq_error.1 hoffset
    · obtain ⟨hnone, value, cause, he⟩ := of_count?_eq_error hgiven
      refine ⟨_, value, cause, he, ["pageSize".toList], _, rfl, ?_, hnone⟩
      exact List.forall_mem_singleton.2 ⟨size, hsize⟩
    · have hgiven := gives_of_count? hgiven
      cases given with
      | some n => cases hpage
      | none =>
        obtain hpage | ⟨_, _, h⟩ := bind_eq_error.1 hpage
        · obtain ⟨hnone, value, cause, he⟩ := of_count?_eq_error hpage
          refine ⟨_, value, cause, he, ["pageSize".toList, "offset".toList], [], ?_, ?_, hnone⟩
          · rw [pagingKeys, if_pos (hgiven.isAbsent_iff.2 rfl)]
          · exact List.forall_mem_cons.2
              ⟨⟨size, hsize⟩, List.forall_mem_singleton.2 ⟨none, hgiven⟩⟩
        · cases h
  · cases h

/-- Metadata are accepted exactly where each key of the paging gives something. -/
lemma exists_ofRaw_iff :
    (∃ metadata, ofRaw raw fields = .ok metadata) ↔
      ∀ key ∈ pagingKeys raw, ∃ count?, Gives raw key count? := by
  constructor
  · rintro ⟨metadata, h⟩
    obtain ⟨hsize, hoffset⟩ := ofRaw_eq_ok h
    obtain ⟨given, hgiven, hpage⟩ := bind_eq_ok.1 hoffset
    have hgiven := gives_of_count? hgiven
    refine List.forall_mem_append.2 ⟨?_, ?_⟩
    · exact List.forall_mem_cons.2
        ⟨⟨_, gives_of_count? hsize⟩, List.forall_mem_singleton.2 ⟨_, hgiven⟩⟩
    · split
      · rename_i habsent
        obtain rfl := hgiven.isAbsent_iff.1 habsent
        obtain ⟨page, hpage, _⟩ := bind_eq_ok.1 hpage
        exact List.forall_mem_singleton.2 ⟨page, gives_of_count? hpage⟩
      · exact nofun
  · intro h
    cases hread : ofRaw raw fields with
    | ok metadata => exact ⟨metadata, rfl⟩
    | error e =>
      obtain ⟨key, _, _, _, before, after, hkeys, _, hnone⟩ := isFirstFault_of_ofRaw hread
      exact absurd (h key (hkeys ▸ List.mem_append_right before (.head after))) hnone

/-- Where there is an offset, the page number is not looked at. -/
lemma ofRaw_congr_of_offset (hoffset : isAbsent raw "offset".toList = false)
    (h : ∀ key, key ≠ "pageNumber".toList → raw'.get? key = raw.get? key) :
    ofRaw raw' fields = ofRaw raw fields := by
  have hread (size : Option Nat) : readOffset raw' size = readOffset raw size := by
    unfold readOffset
    rw [count?_congr (h "offset".toList (by decide))]
    cases hgiven : count? raw "offset".toList with
    | error e => rfl
    | ok given =>
      cases given with
      | some n => rfl
      | none =>
        have habsent := (gives_of_count? hgiven).isAbsent_iff.2 rfl
        rw [hoffset] at habsent
        cases habsent
  unfold ofRaw nonBlank?
  rw [count?_congr (h "pageSize".toList (by decide)), h "order".toList (by decide)]
  simp only [hread]

/-- The next page starts where a page ends, unless that is beyond the greatest count. -/
lemma pageOffset_succ {n rows : Nat} (hn : 1 ≤ n) (h : n * rows < 2 ^ 64) :
    pageOffset (n + 1) rows = pageOffset n rows + rows := by
  obtain ⟨k, rfl⟩ := Nat.exists_eq_add_of_le' hn
  rw [Nat.succ_mul] at h
  unfold pageOffset boundCount maxCount
  rw [Nat.add_sub_cancel, Nat.add_sub_cancel, Nat.succ_mul]
  omega

/-- Without an offset, the number of the page tells the offset. -/
lemma readOffset_of_page {n : Nat} (hoffset : Gives raw "offset".toList none)
    (hpage : Gives raw "pageNumber".toList (some n)) (size : Option Nat) :
    readOffset raw size = .ok (some (pageOffset n (resolvePageSize size))) := by
  unfold readOffset
  rw [hoffset.count?_eq, hpage.count?_eq]
  rfl

/-- Metadata with the number of the next page ask for the rows behind those of the page. -/
lemma exists_sendsPage_next {metadata : Metadata} {n : Nat}
    (hread : ofRaw raw fields = .ok metadata) (hn : 1 ≤ n)
    (hfits : n * metadata.effectivePageSize < 2 ^ 64)
    (h : ∀ key, key ≠ "pageNumber".toList → raw'.get? key = raw.get? key)
    (hoffset : Gives raw "offset".toList none) (hpage : Gives raw "pageNumber".toList (some n))
    (hnext : Gives raw' "pageNumber".toList (some (n + 1))) :
    ∃ metadata', ofRaw raw' fields = .ok metadata' ∧
      ∀ query, (SelectRequest.build .search query metadata').SendsPage
        metadata.effectivePageSize (metadata.effectiveOffset + metadata.effectivePageSize) := by
  obtain ⟨hsize, hstart⟩ := ofRaw_eq_ok hread
  have hsize' : count? raw' "pageSize".toList = .ok metadata.pageSize :=
    (count?_congr (h _ (by decide))).trans hsize
  have hoffset' : Gives raw' "offset".toList none :=
    gives_of_count? ((count?_congr (h _ (by decide))).trans hoffset.count?_eq)
  have hstart' := readOffset_of_page hoffset' hnext metadata.pageSize
  have heq : some (pageOffset n (resolvePageSize metadata.pageSize)) = metadata.offset :=
    Except.ok.inj ((readOffset_of_page hoffset hpage metadata.pageSize).symm.trans hstart)
  have hbehind : pageOffset (n + 1) (resolvePageSize metadata.pageSize) =
      metadata.effectiveOffset + metadata.effectivePageSize := by
    rw [effectiveOffset, ← heq]
    exact pageOffset_succ hn hfits
  refine ⟨_, bind_eq_ok.2 ⟨_, hsize', bind_eq_ok.2 ⟨_, hstart', rfl⟩⟩, fun query => ?_⟩
  rw [← hbehind]
  exact sendsPage_build query _

end reading

/-- Raw metadata are accepted if and only if every key that is looked at for the page gives a count
or nothing; an error names the first key that does not, and a page number does not matter where
there is an offset. What is accepted makes a search send the rows and the start that are asked for,
as natural numbers, and the next page starts where a page ends if that is a count. -/
theorem ofRaw_sendsPage (raw : Entries Text) (fields : List Text) :
    ((∃ metadata, ofRaw raw fields = .ok metadata) ↔
      ∀ key ∈ pagingKeys raw, ∃ count?, Gives raw key count?) ∧
    (∀ e, ofRaw raw fields = .error e →
      ∃ key value cause, e = .invalidMetadata key value cause ∧ IsFirstFault raw key) ∧
    (isAbsent raw "offset".toList = false → ∀ raw' : Entries Text,
      (∀ key, key ≠ "pageNumber".toList → raw'.get? key = raw.get? key) →
        ofRaw raw' fields = ofRaw raw fields) ∧
    ∀ metadata, ofRaw raw fields = .ok metadata → ∃ rows start,
      Rows raw rows ∧ 0 < rows ∧ Start raw rows start ∧
      (∀ query, (SelectRequest.build .search query metadata).SendsPage rows start) ∧
      ∀ n (raw' : Entries Text), 1 ≤ n → n * rows < 2 ^ 64 →
        (∀ key, key ≠ "pageNumber".toList → raw'.get? key = raw.get? key) →
        Gives raw "offset".toList none → Gives raw "pageNumber".toList (some n) →
        Gives raw' "pageNumber".toList (some (n + 1)) →
          ∃ metadata', ofRaw raw' fields = .ok metadata' ∧ ∀ query,
            (SelectRequest.build .search query metadata').SendsPage rows (start + rows) := by
  refine ⟨exists_ofRaw_iff, fun e => isFirstFault_of_ofRaw,
    fun hoffset raw' => ofRaw_congr_of_offset hoffset, fun metadata hread => ?_⟩
  obtain ⟨hsize, hstart⟩ := ofRaw_eq_ok hread
  have hrows := rows_resolvePageSize (gives_of_count? hsize)
  refine ⟨metadata.effectivePageSize, metadata.effectiveOffset, hrows, hrows.pos,
    start_readOffset hstart, fun query => sendsPage_build query metadata, ?_⟩
  intro n raw' hn hfits h hoffset hpage hnext
  exact exists_sendsPage_next hread hn hfits h hoffset hpage hnext

/-- Raw metadata for a page of twenty rows. -/
def twentyRows (pageNumber : Text) : Entries Text :=
  [("pageSize".toList, " +20 ".toList), ("pageNumber".toList, pageNumber)]

/-- The third page of twenty rows starts at forty and the fourth one at sixty; a page number that is
none is an error, but not behind an offset. -/
theorem ofRaw_sendsPage_third :
    (∃ metadata metadata', ofRaw (twentyRows "3".toList) [] = .ok metadata ∧
      ofRaw ((twentyRows "3".toList).put "pageNumber".toList "4".toList) [] = .ok metadata' ∧
      ∀ query, (SelectRequest.build .search query metadata).SendsPage 20 40 ∧
        (SelectRequest.build .search query metadata').SendsPage 20 60) ∧
    (ofRaw (twentyRows "0x3".toList) [] =
        .error (.invalidMetadata "pageNumber".toList "0x3".toList .invalidDigit) ∧
      IsFirstFault (twentyRows "0x3".toList) "pageNumber".toList) ∧
    ofRaw ((twentyRows "0x3".toList).put "offset".toList "5".toList) [] =
      ofRaw ((twentyRows "4".toList).put "offset".toList "5".toList) [] := by
  refine ⟨?_, ⟨rfl, ?_⟩, ?_⟩
  · obtain ⟨_, _, _, haccepted⟩ := ofRaw_sendsPage (twentyRows "3".toList) []
    obtain ⟨rows, start, hrows, _, hstart, hsends, hnext⟩ :=
      haccepted ⟨some 20, some 40, [], []⟩ rfl
    have hsize : Gives (twentyRows "3".toList) "pageSize".toList (some 20) := gives_of_count? rfl
    have hoffset : Gives (twentyRows "3".toList) "offset".toList none := gives_of_count? rfl
    have hpage : Gives (twentyRows "3".toList) "pageNumber".toList (some 3) := gives_of_count? rfl
    obtain rfl : rows = 20 := by
      cases hrows with
      | absent h | zero h => cases h.eq hsize
      | given h _ => exact Option.some.inj (h.eq hsize)
    obtain rfl : start = 40 := by
      cases hstart with
      | offset h => cases h.eq hoffset
      | first _ h => cases h.eq hpage
      | page _ h =>
        obtain rfl := Option.some.inj (h.eq hpage)
        rfl
    obtain ⟨metadata', hread', hsends'⟩ := hnext 3
      ((twentyRows "3".toList).put "pageNumber".toList "4".toList) (by decide) (by decide)
      (fun key hkey => Entries.get?_put_of_ne hkey _ _) hoffset hpage (gives_of_count? rfl)
    exact ⟨_, metadata', rfl, hread', fun query => ⟨hsends query, hsends' query⟩⟩
  · obtain ⟨_, herror, _⟩ := ofRaw_sendsPage (twentyRows "0x3".toList) []
    obtain ⟨key, value, cause, he, hfirst⟩ := herror _ rfl
    cases he
    exact hfirst
  · obtain ⟨_, _, hcongr, _⟩ :=
      ofRaw_sendsPage ((twentyRows "4".toList).put "offset".toList "5".toList) []
    refine hcongr rfl _ fun key hkey => ?_
    have hput := Entries.get?_put_of_ne hkey "0x3".toList
      ((twentyRows "4".toList).put "offset".toList "5".toList)
    exact hput

end Metadata

end SearchGateway
