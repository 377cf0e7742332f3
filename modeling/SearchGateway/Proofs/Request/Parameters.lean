import SearchGateway.Proofs.Url.Reading
import SearchGateway.Request.Select

/-!
# The parameters in a URL

A reader of query strings that knows nothing of requests cuts at every ampersand, then at the first
equals sign, and decodes the values. It gets back the parameters of a request from its query string
(`readParameters?_queryString`), and a URL keeps the query string as it is (`query_of_url`), so it
gets them back from the URL (`readParameters?_url`).
-/

namespace SearchGateway

namespace Url

/-- Reads a parameter from its name, an equals sign and its encoded value. -/
def readParameter? (piece : Text) : Option (Text × Text) := do
  let (name, value) ← Text.cut? '=' piece
  return (name, ← Percent.decodeText? value)

/-- Reads the parameters between ampersands. -/
def readParameters? (query : Text) : Option (List (Text × Text)) :=
  (query.splitAt '&').mapM readParameter?

end Url

namespace SelectRequest

/-- The names of all parameters that are ever sent, in the order of sending. -/
def parameterNames : List Text :=
  ["q".toList, "rows".toList, "start".toList, "fl".toList, "sort".toList, "wt".toList]

/-- The names of the parameters of a request stand in the order of all names. -/
lemma sublist_parameterNames (method : Method) (query : LuceneQuery) (metadata : Metadata) :
    ((build method query metadata).parameters.map Prod.fst).Sublist parameterNames := by
  have hcount : ["q".toList, "rows".toList, "wt".toList].Sublist parameterNames := by decide
  unfold build pageParameters
  cases method with
  | count => exact hcount
  | search =>
    -- The names depend on nothing but which of the two optional parameters are there.
    cases metadata.fields.isEmpty <;> cases metadata.order.isEmpty <;>
      simp only [Bool.false_eq_true, if_true, if_false, List.map_append, List.map_cons,
        List.map_nil] <;>
      decide

/-- No name of a parameter has a character that has to be encoded. -/
lemma staysInValue_of_mem_name {method : Method} {query : LuceneQuery} {metadata : Metadata}
    {parameter : Text × Text} (h : parameter ∈ (build method query metadata).parameters) :
    ∀ c ∈ parameter.1, Percent.staysInValue c = true := by
  have hnames : parameterNames.all (List.all · Percent.staysInValue) = true := by decide
  have hmem := (sublist_parameterNames method query metadata).subset (List.mem_map_of_mem h)
  exact List.all_eq_true.1 (List.all_eq_true.1 hnames _ hmem)

/-- The text of a parameter can be sent and has no ampersand. -/
lemma of_mem_parameterText {parameter : Text × Text}
    (hname : ∀ c ∈ parameter.1, Percent.staysInValue c = true) {c : Char}
    (h : c ∈ parameterText parameter) : Percent.isSent c = true ∧ c ≠ '&' := by
  have hstays {d : Char} (hd : Percent.staysInValue d = true) :
      Percent.isSent d = true ∧ d ≠ '&' := by
    refine ⟨by simp [Percent.isSent, hd], ?_⟩
    rintro rfl
    exact absurd hd (by decide)
  obtain hc | hc := List.mem_append.1 h
  · exact hstays (hname c hc)
  · cases hc with
    | head => decide
    | tail _ hc =>
      obtain hc | rfl := Percent.mem_encodeValue hc
      · exact hstays hc
      · decide

/-- A parameter is read back from its text. -/
lemma readParameter?_parameterText {parameter : Text × Text} (h : '=' ∉ parameter.1) :
    Url.readParameter? (parameterText parameter) = some parameter := by
  unfold Url.readParameter? parameterText
  rw [Text.cut?_append_cons h, Option.bind_eq_bind, Option.bind_some]
  simp only [Percent.decodeText?_encodeValue]
  rfl

/-- Parameters are read back from their texts. -/
lemma mapM_readParameter?_parameterText {parameters : List (Text × Text)}
    (h : ∀ parameter ∈ parameters, '=' ∉ parameter.1) :
    (parameters.map parameterText).mapM Url.readParameter? = some parameters := by
  induction parameters with
  | nil => rfl
  | cons parameter parameters ih =>
    rw [List.map_cons, List.mapM_cons, readParameter?_parameterText (h _ (.head _)),
      ih fun p hp => h p (.tail _ hp)]
    rfl

/-- The parameters are read back from the query string. -/
lemma readParameters?_queryString (method : Method) (query : LuceneQuery) (metadata : Metadata) :
    Url.readParameters? (build method query metadata).queryString =
      some (build method query metadata).parameters := by
  have hequals : ∀ parameter ∈ (build method query metadata).parameters, '=' ∉ parameter.1 :=
    fun _ h hmem => absurd (staysInValue_of_mem_name h '=' hmem) (by decide)
  have hpieces : ∀ piece ∈ (build method query metadata).parameters.map parameterText,
      '&' ∉ piece := by
    intro piece hpiece hmem
    obtain ⟨parameter, hparameter, rfl⟩ := List.mem_map.1 hpiece
    exact (of_mem_parameterText (staysInValue_of_mem_name hparameter) hmem).2 rfl
  unfold Url.readParameters? queryString
  rw [Text.splitAt_join hpieces (by simp [build]), mapM_readParameter?_parameterText hequals]

/-- A query string can be sent. -/
lemma isSent_of_mem_queryString {method : Method} {query : LuceneQuery} {metadata : Metadata}
    {c : Char} (h : c ∈ (build method query metadata).queryString) : Percent.isSent c = true := by
  obtain hc | ⟨piece, hpiece, hc⟩ := Text.mem_join h
  · rw [List.mem_singleton.1 hc]
    rfl
  · obtain ⟨parameter, hparameter, rfl⟩ := List.mem_map.1 hpiece
    exact (of_mem_parameterText (staysInValue_of_mem_name hparameter) hc).1

/-- The path behind the base, for a core. -/
def corePath (core : Text) : Text :=
  '/' :: (Percent.encodeValue core ++ "/select".toList)

/-- The text of the URL has the base, the path for the core and the query string. -/
lemma urlText_eq (request : SelectRequest) (base core : Text) :
    request.urlText base core =
      base.trimEndWhere (· == '/') ++ corePath core ++ '?' :: request.queryString := by
  simp [urlText, corePath]

/-- Besides slashes, the path for a core has what can be sent. -/
lemma of_mem_corePath {core : Text} {c : Char} (h : c ∈ corePath core) :
    c = '/' ∨ Percent.isSent c = true := by
  have hselect : "/select".toList.all (fun d => d = '/' ∨ Percent.isSent d = true) = true := by
    decide
  cases h with
  | head => exact .inl rfl
  | tail _ h =>
    obtain hc | hc := List.mem_append.1 h
    · exact .inr (Percent.isSent_of_mem_encodeValue hc)
    · exact of_decide_eq_true (List.all_eq_true.1 hselect c hc)

/-- A character that is not sent comes into the text in front of the query string with the base. -/
lemma not_mem_append_corePath {base core : Text} {c : Char} (hc : c ∉ base) (hslash : c ≠ '/')
    (hsent : Percent.isSent c = false) : c ∉ base ++ corePath core := by
  intro hm
  obtain hm | hm := List.mem_append.1 hm
  · exact hc hm
  · obtain h | h := of_mem_corePath hm
    · exact hslash h
    · rw [hsent] at h
      cases h

/-- The URL of a request is what its text reads as. -/
lemma url_eq_ok_iff {request : SelectRequest} {base core : Text} {url : Url} :
    request.url base core = .ok url ↔ Url.parse (request.urlText base core) = .ok url := by
  unfold SelectRequest.url
  simp only
  split <;> rename_i hparse <;> simp [hparse]

/-- A URL keeps the query string of a request as it is. -/
lemma query_of_url {method : Method} {query : LuceneQuery} {metadata : Metadata}
    {base core : Text} {url : Url} (hmark : '?' ∉ base) (hhash : '#' ∉ base)
    (h : (build method query metadata).url base core = .ok url) :
    url.query = some (build method query metadata).queryString := by
  have hmark' := Text.not_mem_trimEndWhere hmark (· == '/')
  have hhash' := Text.not_mem_trimEndWhere hhash (· == '/')
  -- The first question mark is the one in front of the query string.
  rw [url_eq_ok_iff, urlText_eq] at h
  exact Url.query_of_parse (not_mem_append_corePath hmark' (by decide) rfl)
    (not_mem_append_corePath hhash' (by decide) rfl)
    (fun c hc => isSent_of_mem_queryString hc) h

/-- The query of the URL of a request gives back exactly the parameters that were built. Their
names are distinct and in the order of sending, from the query, or the one that matches everything
in place of a blank one, to the format; besides these, a count sends that it wants no rows. -/
theorem readParameters?_url (method : Method) (query : LuceneQuery) (metadata : Metadata) :
    let parameters := (build method query metadata).parameters
    let q := if query.isBlank then "*:*".toList else query.text
    (∀ base core url, '?' ∉ base → '#' ∉ base →
      (build method query metadata).url base core = .ok url →
        ∃ text, url.query = some text ∧ Url.readParameters? text = some parameters) ∧
    (parameters.map Prod.fst).Nodup ∧
    (parameters.map Prod.fst).Sublist parameterNames ∧
    parameters.head? = some ("q".toList, q) ∧
    parameters.getLast? = some ("wt".toList, "json".toList) ∧
    (method = .count → parameters =
      [("q".toList, q), ("rows".toList, "0".toList), ("wt".toList, "json".toList)]) := by
  intro parameters q
  have hsublist := sublist_parameterNames method query metadata
  have hnodup : parameterNames.Nodup := by decide
  refine ⟨fun base core url hmark hhash h => ?_, hsublist.nodup hnodup, hsublist, rfl, ?_, ?_⟩
  · exact ⟨_, query_of_url hmark hhash h, readParameters?_queryString method query metadata⟩
  · exact List.getLast?_concat
  · rintro rfl
    rfl

/-- Separators, escapes, a line break and a letter outside ASCII all come back. -/
theorem readParameters?_url_reserved :
    (build .count ⟨"é&=+%\n#".toList⟩ {}).url "http://solr".toList "&".toList =
      .ok ⟨"http".toList, some ⟨[], [], .name "solr".toList, none⟩,
        .segments ["%26".toList, "select".toList],
        some "q=%C3%A9%26%3D%2B%25%0A%23&rows=0&wt=json".toList, none⟩ ∧
    Url.readParameters? "q=%C3%A9%26%3D%2B%25%0A%23&rows=0&wt=json".toList =
      some [("q".toList, "é&=+%\n#".toList), ("rows".toList, "0".toList),
        ("wt".toList, "json".toList)] := by
  have hurl : (build .count ⟨"é&=+%\n#".toList⟩ {}).url "http://solr".toList "&".toList =
      .ok ⟨"http".toList, some ⟨[], [], .name "solr".toList, none⟩,
        .segments ["%26".toList, "select".toList],
        some "q=%C3%A9%26%3D%2B%25%0A%23&rows=0&wt=json".toList, none⟩ := rfl
  obtain ⟨hread, _⟩ := readParameters?_url .count ⟨"é&=+%\n#".toList⟩ {}
  obtain ⟨text, htext, hparameters⟩ := hread _ _ _ (by decide) (by decide) hurl
  rw [← Option.some.inj htext] at hparameters
  exact ⟨hurl, hparameters⟩

end SelectRequest

end SearchGateway
