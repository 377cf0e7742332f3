import SearchGateway.Proofs.Adapter.Exchange
import SearchGateway.Proofs.Request.Parameters
import SearchGateway.Proofs.Text.Trim

/-!
# The base URL

Settings are made from a text by trimming it, turning it down if nothing is left, and dropping one
slash at the end, in this order. So what comes to the end by dropping the slash is not looked at
any more: it may be a second slash, white space, or nothing. `ClosesCleanly` is the exact condition
on the text under which the stored URL is as it should be (`isBase_dropSlash_iff`). A URL is as it
should be exactly if it makes itself (`ofUrl_self_iff`), and the two kinds of URLs that are sent
have one base exactly if the stored one does not end with a slash (`exists_isCommonBase_iff`).
-/

namespace SearchGateway

namespace Settings

/-- What a base URL should be: a text that neither begins nor ends with white space and does not end
with a slash. -/
structure IsBase (url : Text) : Prop where
  ne_nil : url ≠ []
  trim_eq : url.trim = url
  no_slash : url.getLast? ≠ some '/'

/-- What stands in front of a slash at the end is neither nothing, nor another slash, nor white
space. -/
def ClosesCleanly (t : Text) : Prop :=
  ∀ s, t = s ++ ['/'] → ∃ c ∈ s.getLast?, c ≠ '/' ∧ isBlank c = false

/-- The settings that are made from a text, which may stand among the adapter properties. -/
inductive MadeFrom : Text → Settings → Prop
  | ofUrl {text : Text} {settings : Settings} (h : ofUrl text = .ok settings) :
    MadeFrom text settings
  | ofProperties {properties : Entries Text} {settings : Settings}
    (h : ofProperties properties = .ok settings) :
    MadeFrom ((properties.get? "Solr URL".toList).getD []) settings

/-- A slash at the end is dropped. -/
@[simp] lemma dropSlash_concat (s : Text) : dropSlash (s ++ ['/']) = s := by
  simp [dropSlash]

/-- A text that does not end with a slash is kept. -/
lemma dropSlash_of_getLast? {t : Text} (h : t.getLast? ≠ some '/') : dropSlash t = t :=
  if_neg h

/-- What is left of a text begins as the text does. -/
lemma head?_of_dropSlash {c : Char} {t : Text} (h : (dropSlash t).head? = some c) :
    t.head? = some c := by
  by_cases hlast : t.getLast? = some '/'
  · obtain ⟨s, rfl⟩ := List.getLast?_eq_some_iff.1 hlast
    rw [dropSlash_concat] at h
    simp [List.head?_append, h]
  · rwa [dropSlash_of_getLast? hlast] at h

/-- A text still ends with a slash exactly if it ended with two. -/
lemma getLast?_dropSlash_iff {t : Text} :
    (dropSlash t).getLast? = some '/' ↔ ['/', '/'] <:+ t := by
  by_cases hlast : t.getLast? = some '/'
  · obtain ⟨s, rfl⟩ := List.getLast?_eq_some_iff.1 hlast
    rw [dropSlash_concat, List.getLast?_eq_some_iff]
    refine exists_congr fun r => ⟨fun h => ?_, fun h => ?_⟩
    · rw [h, List.append_assoc]
      rfl
    · rw [← List.singleton_append, ← List.append_assoc] at h
      exact (List.append_cancel_right h).symm
  · rw [dropSlash_of_getLast? hlast]
    refine iff_of_false hlast ?_
    rintro ⟨r, rfl⟩
    exact hlast (by simp)

/-- Settings are made from a text that is not blank, and from no other. -/
lemma ofUrl_eq_ok_iff {text : Text} {settings : Settings} :
    ofUrl text = .ok settings ↔
      text.isBlank = false ∧ settings = ⟨dropSlash text.trim, none, none⟩ := by
  unfold ofUrl
  cases hblank : text.isBlank with
  | true => simp [Text.trim_eq_nil_iff.2 hblank]
  | false =>
    have hne : text.trim.isEmpty = false := by
      rw [← Bool.not_eq_true, List.isEmpty_iff, Text.trim_eq_nil_iff, hblank]
      exact Bool.false_ne_true
    simp [hne, eq_comm]

/-- Both ways to make settings store the trimmed text without a slash at its end. -/
lemma MadeFrom.url_eq {text : Text} {settings : Settings} (h : MadeFrom text settings) :
    text.isBlank = false ∧ settings.url = dropSlash text.trim := by
  cases h with
  | ofUrl h =>
    obtain ⟨hblank, rfl⟩ := ofUrl_eq_ok_iff.1 h
    exact ⟨hblank, rfl⟩
  | ofProperties h =>
    obtain ⟨made, hmade, heq⟩ := bind_eq_ok.1 h
    obtain ⟨hblank, rfl⟩ := ofUrl_eq_ok_iff.1 hmade
    obtain rfl := Except.ok.inj heq
    exact ⟨hblank, rfl⟩

/-- In front of a slash that is dropped from a trimmed text, only the last character matters. -/
lemma isBase_front_iff {s : Text} (h : (s ++ ['/']).trim = s ++ ['/']) :
    IsBase s ↔ ∃ c ∈ s.getLast?, c ≠ '/' ∧ isBlank c = false := by
  constructor
  · intro hs
    obtain ⟨c, hc⟩ := Option.ne_none_iff_exists'.1 (mt List.getLast?_eq_none_iff.1 hs.ne_nil)
    refine ⟨c, hc, fun heq => hs.no_slash (heq ▸ hc), ?_⟩
    exact (Text.trim_eq_self_iff.1 hs.trim_eq).2 c hc
  · rintro ⟨c, hc, hslash, hblank⟩
    have hnil : s ≠ [] := by
      rintro rfl
      cases hc
    have hfirst : ∀ d ∈ s.head?, isBlank d = false := by
      intro d hd
      refine (Text.trim_eq_self_iff.1 h).1 d (head?_of_dropSlash ?_)
      rwa [dropSlash_concat]
    have hlast : ∀ d ∈ s.getLast?, isBlank d = false := by
      intro d hd
      obtain rfl := Option.some.inj (hc.symm.trans hd)
      exact hblank
    refine ⟨hnil, Text.trim_eq_self_iff.2 ⟨hfirst, hlast⟩, fun heq => ?_⟩
    exact hslash (Option.some.inj (hc.symm.trans heq))

/-- The stored URL is as it should be exactly if the trimmed text closes cleanly. -/
lemma isBase_dropSlash_iff {text : Text} (h : text.isBlank = false) :
    IsBase (dropSlash text.trim) ↔ ClosesCleanly text.trim := by
  have hne : text.trim ≠ [] := by
    rw [Ne, Text.trim_eq_nil_iff, h]
    exact Bool.false_ne_true
  have htrim := Text.trim_trim text
  generalize text.trim = t at hne htrim ⊢
  by_cases hlast : t.getLast? = some '/'
  · obtain ⟨s, rfl⟩ := List.getLast?_eq_some_iff.1 hlast
    rw [dropSlash_concat, isBase_front_iff htrim]
    refine ⟨fun hs r hr => ?_, fun hs => hs s rfl⟩
    rwa [← List.append_cancel_right hr]
  · rw [dropSlash_of_getLast? hlast]
    refine iff_of_true ⟨hne, htrim, hlast⟩ fun s hs => ?_
    rw [hs] at hlast
    exact absurd List.getLast?_concat hlast

/-- A URL is as it should be exactly if the settings that are made from it hold it unchanged. -/
lemma ofUrl_self_iff {url : Text} : ofUrl url = .ok ⟨url, none, none⟩ ↔ IsBase url := by
  rw [ofUrl_eq_ok_iff, Settings.mk.injEq]
  constructor
  · rintro ⟨hblank, hurl, -, -⟩
    -- A slash at the end would be dropped, and the text would be shorter than it is.
    have hlast : url.trim.getLast? ≠ some '/' := by
      intro hlast
      obtain ⟨s, hs⟩ := List.getLast?_eq_some_iff.1 hlast
      obtain ⟨b, b', -, -, hparts⟩ := Text.exists_eq_trim url
      rw [hs, dropSlash_concat] at hurl
      have hlength := congrArg List.length hparts
      rw [hs, hurl] at hlength
      simp only [List.length_append, List.length_singleton] at hlength
      omega
    rw [dropSlash_of_getLast? hlast] at hurl
    refine ⟨?_, hurl.symm, hurl ▸ hlast⟩
    rintro rfl
    cases hblank
  · intro h
    refine ⟨?_, ?_, rfl, rfl⟩
    · rw [← Bool.not_eq_true, ← Text.trim_eq_nil_iff, h.trim_eq]
      exact h.ne_nil
    · rw [h.trim_eq, dropSlash_of_getLast? h.no_slash]

end Settings

namespace Adapter

/-- A text with which the status URL and every select URL begin, right in front of their paths. -/
structure IsCommonBase (adapter : Adapter) (base : Text) : Prop where
  status : adapter.statusText = base ++ '/' :: statusPath
  select : ∀ (request : SelectRequest) (core : Text), request.urlText adapter.settings.url core =
    base ++ SelectRequest.corePath core ++ '?' :: request.queryString

/-- All URLs have a common base exactly if the URL of the settings does not end with a slash. -/
lemma exists_isCommonBase_iff {adapter : Adapter} :
    (∃ base, adapter.IsCommonBase base) ↔ adapter.settings.url.getLast? ≠ some '/' := by
  have hkeeps : adapter.settings.url.trimEndWhere (· == '/') = adapter.settings.url ↔
      adapter.settings.url.getLast? ≠ some '/' := by
    rw [Text.trimEndWhere_eq_self_iff]
    refine ⟨fun h hlast => absurd (h '/' hlast) (by simp), fun h c hc => ?_⟩
    rw [beq_eq_false_iff_ne]
    rintro rfl
    exact h hc
  rw [← hkeeps]
  constructor
  · rintro ⟨base, h⟩
    have hstatus : adapter.settings.url = base := List.append_cancel_right h.status
    have hselect := h.select ⟨[]⟩ []
    rw [SelectRequest.urlText_eq, List.append_assoc, List.append_assoc] at hselect
    exact (List.append_cancel_right hselect).trans hstatus.symm
  · intro h
    refine ⟨adapter.settings.url, rfl, fun request core => ?_⟩
    rw [SelectRequest.urlText_eq, h]

end Adapter

namespace Settings

/-- The stored URL never begins with white space. It is as it should be exactly if the trimmed text
closes cleanly, and this is also when settings can be made from it again and hold it unchanged. The
status URL and the select URLs begin with one base exactly if the trimmed text does not end with two
slashes. -/
theorem isBase_url_iff {text : Text} {settings : Settings} (h : MadeFrom text settings) :
    (∀ c ∈ settings.url.head?, isBlank c = false) ∧
    (IsBase settings.url ↔ ClosesCleanly text.trim) ∧
    (ofUrl settings.url = .ok ⟨settings.url, none, none⟩ ↔ ClosesCleanly text.trim) ∧
    ((∃ base, (⟨settings⟩ : Adapter).IsCommonBase base) ↔ ¬ ['/', '/'] <:+ text.trim) := by
  obtain ⟨hblank, hurl⟩ := h.url_eq
  have hbase : IsBase settings.url ↔ ClosesCleanly text.trim := by
    rw [hurl]
    exact isBase_dropSlash_iff hblank
  have hcommon : (∃ base, (⟨settings⟩ : Adapter).IsCommonBase base) ↔
      ¬ ['/', '/'] <:+ text.trim := by
    rw [Adapter.exists_isCommonBase_iff, hurl]
    exact not_congr getLast?_dropSlash_iff
  refine ⟨fun c hc => ?_, hbase, ofUrl_self_iff.trans hbase, hcommon⟩
  rw [hurl] at hc
  exact (Text.trim_eq_self_iff.1 (Text.trim_trim text)).1 c (head?_of_dropSlash hc)

/-- White space around the text and one slash at its end do no harm, here among properties. -/
theorem isBase_url_iff_properties :
    ofProperties [("Solr URL".toList, " http://solr/ ".toList), ("Username".toList, "a".toList)] =
      .ok ⟨"http://solr".toList, some "a".toList, none⟩ ∧
    IsBase "http://solr".toList ∧
    ∃ base, (⟨⟨"http://solr".toList, some "a".toList, none⟩⟩ : Adapter).IsCommonBase base := by
  have hmade : ofProperties
      [("Solr URL".toList, " http://solr/ ".toList), ("Username".toList, "a".toList)] =
        .ok ⟨"http://solr".toList, some "a".toList, none⟩ := rfl
  have htrim : Text.trim " http://solr/ ".toList = "http://solr".toList ++ ['/'] := by decide
  obtain ⟨_, hbase, _, hcommon⟩ := isBase_url_iff (.ofProperties hmade)
  have hget : (Entries.get? "Solr URL".toList
      [("Solr URL".toList, " http://solr/ ".toList), ("Username".toList, "a".toList)]).getD [] =
        " http://solr/ ".toList := rfl
  rw [hget, htrim] at hbase hcommon
  refine ⟨hmade, hbase.2 fun s hs => ?_, hcommon.2 (by decide)⟩
  obtain rfl := List.append_cancel_right hs
  exact ⟨'r', rfl, by decide, by decide⟩

/-- Of two slashes at the end one stays, so that the URL changes when settings are made from it
again, and the status URL has a slash more than the select URLs. A slash alone leaves no URL, and
white space in front of a slash comes to the end. -/
theorem isBase_url_slashes :
    (∃ settings, ofUrl "http://localhost:8983/solr//".toList = .ok settings ∧
      settings.url = "http://localhost:8983/solr/".toList ∧ ¬ IsBase settings.url ∧
      ofUrl settings.url ≠ .ok ⟨settings.url, none, none⟩ ∧
      ¬ ∃ base, (⟨settings⟩ : Adapter).IsCommonBase base) ∧
    (∃ settings, ofUrl "/".toList = .ok settings ∧ settings.url = [] ∧ ¬ IsBase settings.url) ∧
    ∃ settings, ofUrl "http://solr /".toList = .ok settings ∧
      settings.url = "http://solr ".toList ∧ ¬ IsBase settings.url := by
  refine ⟨⟨_, rfl, rfl, fun h => h.no_slash (by decide), fun h => ?_, ?_⟩,
    ⟨_, rfl, rfl, fun h => h.ne_nil rfl⟩, ⟨_, rfl, rfl, fun h => ?_⟩⟩
  · exact absurd (ofUrl_self_iff.1 h).no_slash (by decide)
  · rw [Adapter.exists_isCommonBase_iff]
    decide
  · exact absurd h.trim_eq (by decide)

end Settings

end SearchGateway
