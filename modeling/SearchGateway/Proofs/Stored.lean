import SearchGateway.Proofs.Json.Layout
import SearchGateway.Proofs.Request.Paging
import SearchGateway.Settings

/-!
# Settings in JSON

Request metadata and connection settings are read back from their compact JSON text. For metadata
this holds as far as their counts go (`Metadata.IsBounded`), which is no restriction to those that
are read from raw ones (`isBounded_of_ofRaw`). What is read back was not lost, so different settings
have different texts (`parse_toJson_text`).
-/

namespace SearchGateway

open Json

namespace SortKey

/-- The text of a sort key is taken as the sort key. -/
lemma takes_text (key : SortKey) (depth : Nat) :
    Takes Delimited (layout.read (depth + 1)) key.toJson.text key := by
  have hdirection : Direction.ofExactName? key.direction.name = some key.direction := by
    cases key.direction <;> rfl
  refine Layout.takes_object (by decide) ?_
  refine .cons ((takes_string key.field).bind fun _ => rfl) ?_
  refine .cons ((takes_name hdirection _ depth).bind fun _ => rfl) ?_
  exact .nil key

end SortKey

namespace Metadata

/-- The counts are such as 64 bits hold. -/
structure IsBounded (metadata : Metadata) : Prop where
  pageSize : ∀ n ∈ metadata.pageSize, n ≤ maxCount
  offset : ∀ n ∈ metadata.offset, n ≤ maxCount

/-- The text of a number that may be absent is taken as it. -/
lemma takes_countJson {count : Option Nat} (h : ∀ n ∈ count, n ≤ maxCount) :
    Takes Delimited (readOptional readCountValue) (countJson count).text count := by
  cases count with
  | none => exact takes_none
  | some n =>
    obtain ⟨c, r, htext, hdigit⟩ := exists_digit_cons n
    obtain ⟨hspace, -, hnull, -⟩ := of_isDigit hdigit
    have hcount : Takes Delimited readCountValue (Text.ofNat n) n := takes_count (h n rfl)
    change Takes Delimited (readOptional readCountValue) (Text.ofNat n) (some n)
    rw [htext] at hcount ⊢
    exact takes_some hspace hnull hcount

/-- The text of metadata is taken as the metadata, where all numbers are in bounds. -/
lemma takes_text {metadata : Metadata} (h : metadata.IsBounded) (depth : Nat) :
    Takes Delimited (layout.read (depth + 3)) metadata.toJson.text metadata := by
  -- The settings, the list of sort keys and a sort key nest in one another.
  have hkey : IsItemReader (SortKey.layout.read (depth + 1)) :=
    Layout.isItemReader_read SortKey.layout (depth + 1)
  have hfield : IsItemReader ((fun _ => readStringValue) (depth + 1)) :=
    isItemReader_readStringValue
  refine Layout.takes_object (by decide) ?_
  refine .cons ((takes_countJson h.pageSize).bind fun _ => rfl) ?_
  refine .cons ((takes_countJson h.offset).bind fun _ => rfl) ?_
  refine .cons ((takes_listOf hkey SortKey.toJson fun key _ => key.takes_text depth).bind
    fun _ => rfl) ?_
  refine .cons ((takes_listOf hfield Json.string fun field _ => takes_string field).bind
    fun _ => rfl) ?_
  exact .nil metadata

/-- The counts under the keys of raw metadata are bounded. -/
lemma le_maxCount_of_count? {raw : Entries Text} {key : Text} {count : Option Nat}
    (h : count? raw key = .ok count) : ∀ n ∈ count, n ≤ maxCount := by
  rintro n rfl
  cases gives_of_count? h with
  | written _ hwrites => exact hwrites.le_maxCount

/-- Whatever metadata are read from raw ones are bounded. -/
lemma isBounded_of_ofRaw {raw : Entries Text} {fields : List Text} {metadata : Metadata}
    (h : ofRaw raw fields = .ok metadata) : metadata.IsBounded := by
  obtain ⟨hsize, hoffset⟩ := ofRaw_eq_ok h
  refine ⟨le_maxCount_of_count? hsize, ?_⟩
  obtain ⟨given, hgiven, hoffset⟩ := bind_eq_ok.1 hoffset
  cases given with
  | some n =>
    rw [← Except.ok.inj hoffset]
    exact le_maxCount_of_count? hgiven
  | none =>
    obtain ⟨page, -, hpage⟩ := bind_eq_ok.1 hoffset
    rw [← Except.ok.inj hpage]
    intro n hn
    obtain ⟨number, -, rfl⟩ := Option.map_eq_some_iff.1 hn
    exact Nat.min_le_right _ _

end Metadata

namespace Settings

/-- The text of a text that may be absent is taken as it. -/
lemma takes_optionalJson (s : Option Text) :
    Takes Delimited (readOptional readStringValue) (optionalJson s).text s := by
  cases s with
  | none => exact takes_none
  | some s => exact takes_some (c := '"') rfl (by decide) (takes_string s)

/-- The text of settings is taken as the settings. -/
lemma takes_text (settings : Settings) (depth : Nat) :
    Takes Delimited (layout.read (depth + 1)) settings.toJson.text settings := by
  refine Layout.takes_object (by decide) ?_
  refine .cons ((takes_string settings.url).bind fun _ => rfl) ?_
  refine .cons ((takes_optionalJson settings.username).bind fun _ => rfl) ?_
  refine .cons ((takes_optionalJson settings.password).bind fun _ => rfl) ?_
  exact .nil settings

end Settings

/-- Metadata whose counts 64 bits hold, and all connection settings, are read back from their
compact texts. So different ones have different texts. -/
theorem parse_toJson_text :
    (∀ metadata : Metadata, metadata.IsBounded →
      Metadata.layout.parse metadata.toJson.text = .ok metadata) ∧
    (∀ metadata metadata' : Metadata, metadata.IsBounded → metadata'.IsBounded →
      metadata.toJson.text = metadata'.toJson.text → metadata = metadata') ∧
    (∀ settings : Settings, Settings.layout.parse settings.toJson.text = .ok settings) ∧
    ∀ settings settings' : Settings,
      settings.toJson.text = settings'.toJson.text → settings = settings' := by
  have hmetadata (metadata : Metadata) (h : metadata.IsBounded) :
      Metadata.layout.parse metadata.toJson.text = .ok metadata :=
    readWhole_of_takes (Metadata.takes_text h 124)
  have hsettings (settings : Settings) :
      Settings.layout.parse settings.toJson.text = .ok settings :=
    readWhole_of_takes (settings.takes_text 126)
  refine ⟨hmetadata, fun metadata metadata' h h' heq => ?_, hsettings,
    fun settings settings' heq => ?_⟩
  · have hread := hmetadata metadata h
    rw [heq, hmetadata metadata' h'] at hread
    exact (Except.ok.inj hread).symm
  · have hread := hsettings settings
    rw [heq, hsettings settings'] at hread
    exact (Except.ok.inj hread).symm

/-- The greatest count, a quote, a line break and a letter outside ASCII are read back, and so is
what is absent or empty. -/
theorem parse_toJson_text_greatest :
    Metadata.layout.parse ("\x7b\"pageSize\":18446744073709551615,\"offset\":null,".toList ++
        "\"order\":[\x7b\"field\":\"é\\n\\\"\",\"direction\":\"desc\"\x7d],".toList ++
        "\"fields\":[\"\"]\x7d".toList) =
      .ok ⟨some 0xFFFFFFFFFFFFFFFF, none, [⟨"é\n\"".toList, .descending⟩], [[]]⟩ ∧
    Settings.layout.parse "\x7b\"url\":\"\",\"username\":\"a\",\"password\":null\x7d".toList =
      .ok ⟨[], some "a".toList, none⟩ := by
  obtain ⟨hmetadata, _, hsettings, _⟩ := parse_toJson_text
  refine ⟨?_, hsettings ⟨[], some "a".toList, none⟩⟩
  exact hmetadata ⟨some 0xFFFFFFFFFFFFFFFF, none, [⟨"é\n\"".toList, .descending⟩], [[]]⟩
    ⟨fun n hn => (Option.some.inj hn).symm.le, nofun⟩

end SearchGateway
