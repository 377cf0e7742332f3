import SearchGateway.CommandLine.Run
import SearchGateway.Proofs.Adapter.Methods
import SearchGateway.Proofs.Query.Lookup
import SearchGateway.Proofs.Query.Plain
import SearchGateway.Proofs.Settings

/-!
# Dry runs

A dry run prints the URL of a search and sends nothing. A search and a retrieval put the same URL
together before they send anything, so on a network that opens no connection for the scheme of the
base URL a dry run tells all about them: it prints the URL exactly where they are refused by the
network, and it fails for the reason that they fail with (`foretells_run`). The order of the
parameters does not matter to any run, as long as those of one name keep theirs
(`run_of_sameByKey`).
-/

namespace SearchGateway

/-- A query error never reads like an error of the network. -/
lemma Error.message_ne_of_isQueryError {e : Error} (h : e.isQueryError = true) (reason : Text) :
    e.message ≠ (network reason).message := by
  have hne : e.message.head? ≠ (network reason).message.head? := by
    cases e with
    | malformedEnvelope | unknownQueryType | malformedQuery | missingFieldValue | emptyQuery
    | missingParameter | encoding | invalidMetadata =>
      intro heq
      cases heq
    | network | httpStatus | unauthorized | multipleResults | invalidResponse | missingUrl =>
      cases h
  exact fun heq => hne (congrArg List.head? heq)

/-- Slashes at the end of a base URL are dropped, however many have been dropped before. -/
lemma Settings.trimEndWhere_dropSlash (t : Text) :
    (dropSlash t).trimEndWhere (· == '/') = t.trimEndWhere (· == '/') := by
  by_cases hlast : t.getLast? = some '/'
  · obtain ⟨s, rfl⟩ := List.getLast?_eq_some_iff.1 hlast
    rw [dropSlash_concat, Text.trimEndWhere_eq, Text.trimEndWhere_eq, List.reverse_concat,
      List.dropWhile_cons_of_pos rfl]
  · rw [dropSlash_of_getLast? hlast]

namespace CommandLine

namespace Report

/-- The lines of an indented text are those of the text behind four spaces. -/
lemma splitAt_indent (s : Text) :
    (indent s).splitAt '\n' = (s.splitAt '\n').map fun line => "    ".toList ++ line := by
  refine Text.splitAt_join (List.forall_mem_map.2 fun line hline => ?_) ?_
  · have hfree : '\n' ∉ line := fun hmem => by simpa using Text.separator_not_mem hline '\n' hmem
    exact List.not_mem_append (by decide) hfree
  · rw [Ne, List.map_eq_nil_iff, Text.splitAt, Text.pieces_eq_splitOnP]
    exact List.splitOnP_ne_nil _ s

/-- An indented text can be read back. -/
lemma indent_injective {s t : Text} (h : indent s = indent t) : s = t := by
  have hmap := congrArg (Text.splitAt '\n') h
  rw [splitAt_indent, splitAt_indent] at hmap
  have hlines : s.splitAt '\n' = t.splitAt '\n' :=
    (List.map_inj_right fun _ _ => List.append_cancel_left).1 hmap
  rw [← Text.join_splitAt '\n' s, hlines, Text.join_splitAt]

end Report

namespace Result

/-- What a run leaves behind with a text to print or a report. -/
def ofOutput : Except Report Text → Result
  | .ok text => ⟨0, text, []⟩
  | .error report => ⟨1, [], report.text⟩

/-- What a dry run leaves behind that cannot put its URL together. -/
def withoutUrl (cause : Text) : Result :=
  ⟨1, [], "Error: Failed to build the select URL\n\nCaused by:\n".toList ++ Report.indent cause⟩

/-- What a run leaves behind that fails in a step without a name. -/
def failed (message : Text) : Result :=
  ⟨1, [], "Error: ".toList ++ message⟩

/-- What a run leaves behind to which the network opened no connection. -/
def refused : Result :=
  failed "Network error: Unable to make a connection to the Solr server".toList

/-- The cause of a missing URL shows. -/
lemma withoutUrl_inj {cause cause' : Text} :
    withoutUrl cause = withoutUrl cause' ↔ cause = cause' := by
  refine ⟨fun h => ?_, fun h => congrArg withoutUrl h⟩
  exact Report.indent_injective (List.append_cancel_left (congrArg Result.errors h))

/-- The message of a failed run shows. -/
lemma failed_inj {message message' : Text} :
    failed message = failed message' ↔ message = message' := by
  refine ⟨fun h => ?_, fun h => congrArg failed h⟩
  exact List.append_cancel_left (congrArg Result.errors h)

/-- A query error does not look like a refusal. -/
lemma failed_ne_refused {e : Error} (h : e.isQueryError = true) : failed e.message ≠ refused :=
  fun heq => e.message_ne_of_isQueryError h _ (failed_inj.1 heq)

end Result

section Options

variable {network : Get → Reply} {options : Options} {settings : Settings}

/-- A run does what its options say. -/
lemma run_of_ofArguments {args : List Text} (h : Options.ofArguments args = .ok options) :
    run network args = .ofOutput (runOptions network options) := by
  unfold run
  rw [h]
  rfl

/-- A run without a check goes straight to its operation. -/
lemma run_of_settings {args : List Text} (h : Options.ofArguments args = .ok options)
    (hsettings : options.settings = .ok settings)
    (hskip : options.operation = .url ∨ options.skipCheck = true) :
    run network args = .ofOutput (outputText network options ⟨settings⟩) := by
  have hcheck : check network options ⟨settings⟩ = .ok () := if_pos hskip
  rw [run_of_ofArguments h]
  unfold runOptions
  rw [hsettings]
  show Result.ofOutput
    (check network options ⟨settings⟩ >>= fun _ => outputText network options ⟨settings⟩) = _
  rw [hcheck]
  rfl

/-- A dry run prints the URL of a search or reports why there is none. -/
lemma run_dry {args : List Text} (h : Options.ofArguments args = .ok options)
    (hdry : options.operation = .url) (hsettings : options.settings = .ok settings) :
    run network args = .ofOutput (((Adapter.selectUrl ⟨settings⟩ .search options.request).map
      Url.text).mapError fun e => ⟨some urlStep, e⟩) := by
  rw [run_of_settings h hsettings (.inl hdry)]
  unfold outputText
  rw [hdry]

namespace Options

/-- Whether the base URL of the options has a given scheme. -/
def HasScheme (options : Options) (scheme : Text) : Prop :=
  ∃ rest, Url.readScheme? (Url.inner options.url.trim) = some (scheme, rest)

/-- The settings hold the base URL without one slash at its end. -/
lemma url_of_settings (h : options.settings = .ok settings) :
    settings.url = Settings.dropSlash options.url.trim := by
  obtain ⟨made, hmade, h⟩ := bind_eq_ok.1 h
  obtain ⟨-, rfl⟩ := Settings.ofUrl_eq_ok_iff.1 hmade
  split at h
  · cases h
    rfl
  · cases h
    rfl

namespace HasScheme

variable {scheme : Text}

/-- Options with a scheme make settings. -/
lemma exists_settings (h : options.HasScheme scheme) :
    ∃ settings, options.settings = .ok settings := by
  obtain ⟨rest, hrest⟩ := h
  obtain ⟨lead, t, htrim, -⟩ := Url.exists_lead_of_readScheme? hrest
  have hblank : options.url.isBlank = false := by
    rw [← Bool.not_eq_true, ← Text.trim_eq_nil_iff, htrim]
    simp
  have hmade := Settings.ofUrl_eq_ok_iff.2 ⟨hblank, rfl⟩
  unfold Options.settings
  rw [hmade]
  cases options.username <;> cases options.password <;> exact ⟨_, rfl⟩

/-- The URLs of select requests have the scheme of the base URL. -/
lemma scheme_of_selectUrl (h : options.HasScheme scheme)
    (hsettings : options.settings = .ok settings) {method : Method} {request : BridgeRequest}
    {url : Url} (hurl : Adapter.selectUrl ⟨settings⟩ method request = .ok url) :
    url.scheme = scheme := by
  obtain ⟨rest, hrest⟩ := h
  obtain ⟨lead, t, htrim, hlead⟩ := Url.exists_lead_of_readScheme? hrest
  rw [Adapter.selectUrl_eq_bind] at hurl
  obtain ⟨query, _, hurl⟩ := bind_eq_ok.1 hurl
  obtain ⟨metadata, _, hurl⟩ := bind_eq_ok.1 hurl
  have hparse := SelectRequest.url_eq_ok_iff.1 hurl
  unfold SelectRequest.urlText at hparse
  rw [url_of_settings hsettings, Settings.trimEndWhere_dropSlash, htrim,
    Text.trimEndWhere_append_cons (by decide), List.append_assoc, List.cons_append] at hparse
  exact hlead.scheme_of_parse hparse

end HasScheme

end Options

end Options

/-- How a dry run tells what a run for the same URL leaves behind, and what that run sends. -/
structure Foretells (dry real : Result) (target : Except Error Url) (sent : List Get) : Prop where
  /-- The dry run prints the URL exactly where the run comes to the network and is refused there. -/
  printed_iff : (∃ url, target = .ok url ∧ dry = ⟨0, url.text, []⟩) ↔ sent ≠ [] ∧ real = .refused
  /-- The status of the dry run tells alone whether the run is refused. -/
  status_iff : dry.status = 0 ↔ real = .refused
  /-- Only the URL that the dry run is about is asked for. -/
  target_eq_of_mem (get : Get) : get ∈ sent → target = .ok get.url
  /-- A dry run that does not print the URL cannot put it together. -/
  exists_cause : dry.status ≠ 0 → ∃ cause, dry = .withoutUrl cause
  /-- The cause that the dry run gives is what the run fails with, before it sends anything. -/
  cause_iff (cause : Text) : dry = .withoutUrl cause ↔ sent = [] ∧ real = .failed cause

/-- A dry run foretells an operation for its URL on a network that refuses it. -/
lemma foretells_of_prepared {α β : Type} {network : Get → Reply} {adapter : Adapter}
    {operation : Except Error (Exchange α)} {prepared : Except Error β} {url : β → Url}
    {receive : β → Reply → Except Error α} {dry real : Result}
    (hoperation : operation = prepared.map fun b => ⟨adapter.get (url b), receive b⟩)
    (hprepared : FailsByQuery prepared)
    (hnetwork : ∀ b, prepared = .ok b →
      network (adapter.get (url b)) = noNetwork (adapter.get (url b)))
    (hreceive : ∀ b reason, receive b (.failure reason) = .error (.network reason))
    (hdry : dry =
      .ofOutput (((prepared.map url).map Url.text).mapError fun e => ⟨some urlStep, e⟩))
    (hreal : ∀ e, (Exchange.run network operation).answer = .error e → real = .failed e.message) :
    Foretells dry real (prepared.map url) (Exchange.run network operation).sent := by
  subst hoperation
  cases hp : prepared with
  | error e =>
    rw [hp] at hdry hreal
    have hdry : dry = .withoutUrl e.message := hdry
    have hreal : real = .failed e.message := hreal e rfl
    have hquery : e.isQueryError = true := hprepared e hp
    subst hdry hreal
    refine ⟨iff_of_false ?_ ?_, iff_of_false ?_ ?_, nofun, fun _ => ⟨_, rfl⟩, fun cause => ?_⟩
    · rintro ⟨_, h, _⟩
      cases h
    · exact fun h => h.1 rfl
    · exact Nat.one_ne_zero
    · exact Result.failed_ne_refused hquery
    · rw [Result.withoutUrl_inj, Result.failed_inj]
      exact ⟨fun h => ⟨rfl, h⟩, fun h => h.2⟩
  | ok b =>
    rw [hp] at hdry hreal
    have hdry : dry = ⟨0, (url b).text, []⟩ := hdry
    have hanswer := hreceive b "Unable to make a connection to the Solr server".toList
    have hreply : network (adapter.get (url b)) =
      .failure "Unable to make a connection to the Solr server".toList := hnetwork b hp
    rw [← hreply] at hanswer
    have hreal : real = .refused := hreal _ hanswer
    subst hdry hreal
    refine ⟨iff_of_true ⟨_, rfl, rfl⟩ ⟨List.cons_ne_nil _ _, rfl⟩, iff_of_true rfl rfl, ?_,
      fun h => absurd rfl h, fun cause => iff_of_false ?_ ?_⟩
    · intro get hget
      obtain rfl := List.mem_singleton.1 hget
      rfl
    · intro h
      cases congrArg Result.status h
    · rintro ⟨h, -⟩
      cases h

/-- What an operation that fails leaves behind. -/
lemma ofOutput_answerText {α : Type} {network : Get → Reply}
    {operation : Except Error (Exchange α)} {toJson : α → Json} {e : Error}
    (h : (Exchange.run network operation).answer = .error e) :
    Result.ofOutput (answerText network operation toJson) = .failed e.message := by
  unfold answerText
  rw [h]
  rfl

/-- No run depends on the order in which parameters are given, as long as those of one name keep
theirs. -/
lemma run_of_sameByKey {network : Get → Reply} {args args' : List Text} {options : Options}
    {parameters : List (Text × Text)} (hargs : Options.ofArguments args = .ok options)
    (hargs' : Options.ofArguments args' = .ok { options with parameters })
    (h : Entries.SameByKey options.parameters parameters) :
    run network args' = run network args := by
  have hlookup : SameLookup options.request.parameters
      (if parameters.isEmpty then none else some (.ofList parameters)) := sameLookup_ofList h
  have hrequest : Options.request { options with parameters } = { options.request with
      parameters := if parameters.isEmpty then none else some (.ofList parameters) } := rfl
  have houtput (adapter : Adapter) : outputText network { options with parameters } adapter =
      outputText network options adapter := by
    unfold outputText
    rw [hrequest]
    simp only [adapter.selectUrl_lookup hlookup, adapter.count_lookup hlookup,
      adapter.retrieve_lookup hlookup, adapter.search_lookup hlookup]
  rw [run_of_ofArguments hargs, run_of_ofArguments hargs']
  unfold runOptions
  simp only [houtput]
  rfl

/-- On a network that opens no connection for the scheme of the base URL, a dry run foretells a
search and a retrieval without a check that are given the same options. It prints the URL exactly
where they come to the network and are refused there, and the cause that it fails with is the
message that they fail with. Parameters in another order, in which those of one name keep theirs,
change nothing that any run leaves behind. -/
theorem foretells_run {network : Get → Reply} {options : Options} {scheme : Text}
    (hscheme : options.HasScheme scheme)
    (hnetwork : ∀ get, get.url.scheme = scheme → network get = noNetwork get)
    {dry search retrieve : List Text}
    (hdry : Options.ofArguments dry = .ok { options with operation := .url })
    (hsearch : Options.ofArguments search =
      .ok { options with operation := .search, skipCheck := true })
    (hretrieve : Options.ofArguments retrieve =
      .ok { options with operation := .retrieve, skipCheck := true }) :
    (∃ settings, options.settings = .ok settings ∧
      Foretells (run network dry) (run network search)
        (Adapter.selectUrl ⟨settings⟩ .search options.request)
        (Exchange.run network (Adapter.search ⟨settings⟩ options.request)).sent ∧
      Foretells (run network dry) (run network retrieve)
        (Adapter.selectUrl ⟨settings⟩ .search options.request)
        (Exchange.run network (Adapter.retrieve ⟨settings⟩ options.request)).sent) ∧
    ∀ (args args' : List Text) (given : Options) (parameters : List (Text × Text)),
      Options.ofArguments args = .ok given →
      Options.ofArguments args' = .ok { given with parameters } →
      Entries.SameByKey given.parameters parameters →
      run network args' = run network args := by
  refine ⟨?_, fun args args' given parameters => run_of_sameByKey⟩
  obtain ⟨settings, hsettings⟩ := hscheme.exists_settings
  let adapter : Adapter := ⟨settings⟩
  have hurl := adapter.selectUrl_eq .search options.request
  have hprepared := adapter.failsBy_prepare .search options.request
  have hrefuses (prepared : PreparedSelect)
      (hprepare : adapter.prepare .search options.request = .ok prepared) :
      network (adapter.get prepared.url) = noNetwork (adapter.get prepared.url) := by
    rw [hprepare] at hurl
    exact hnetwork _ (hscheme.scheme_of_selectUrl hsettings hurl)
  have hprints : run network dry = .ofOutput
      ((((adapter.prepare .search options.request).map PreparedSelect.url).map Url.text).mapError
        fun e => ⟨some urlStep, e⟩) := by
    rw [← hurl]
    exact (run_dry hdry rfl hsettings).trans rfl
  refine ⟨settings, hsettings, ?_, ?_⟩
  · rw [hurl]
    refine foretells_of_prepared (adapter.search_eq options.request) hprepared hrefuses
      (fun _ _ => rfl) hprints fun e he => ?_
    rw [run_of_settings hsearch hsettings (.inr rfl)]
    exact ofOutput_answerText he
  · rw [hurl]
    refine foretells_of_prepared (adapter.retrieve_eq options.request) hprepared hrefuses
      (fun _ _ => rfl) hprints fun e he => ?_
    rw [run_of_settings hretrieve hsettings (.inr rfl)]
    exact ofOutput_answerText he

/-- A template with one tag. -/
def tagTemplate : Template.Outline :=
  .single ⟨"a:".toList, by decide⟩ (.ofName ['p'] (by decide) (by decide))
    ⟨[], Template.tagFree_nil⟩

/-- A command line for the template, under a scheme that no client connects to. -/
def tagLine (operation parameters : List String) : List Text :=
  (operation ++ ["--url", "solr:/index", "-score", "-q", "a:<%= parameter['p'] %>"] ++
    parameters).map String.toList

/-- The options of this command line. -/
def tagOptions (parameters : List (Text × Text)) : Options where
  operation := .url
  url := "solr:/index".toList
  core := "core".toList
  query := tagTemplate.text
  parameters := parameters
  fields := []
  order := none
  pageSize := none
  offset := none
  username := none
  password := none
  skipCheck := false
  debug := false

/-- The settings that the options make. -/
def tagSettings : Settings :=
  ⟨"solr:/index".toList, none, none⟩

/-- The URL has the later value of the parameter. -/
lemma selectUrl_tagOptions :
    Adapter.selectUrl ⟨tagSettings⟩ .search
        (tagOptions [(['p'], ['1']), (['q'], ['2']), (['p'], ['3'])]).request =
      .ok ⟨"solr".toList, none, .segments ["index".toList, "core".toList, "select".toList],
        some "q=a%3A3&rows=1000&start=0&wt=json".toList, none⟩ := by
  have hquery : parse tagTemplate.text (some [(['p'], ['3']), (['q'], ['2'])]) =
    .ok ⟨"a:3".toList⟩ := parse_text tagTemplate (by decide) (by decide) (by decide)
  rw [Adapter.selectUrl_eq_bind]
  exact bind_eq_ok.2 ⟨_, hquery, rfl⟩

/-- Without parameters there is no URL. -/
lemma selectUrl_tagOptions_nil :
    Adapter.selectUrl ⟨tagSettings⟩ .search (tagOptions []).request =
      .error (.missingParameter ['p'] true) := by
  have hread : BridgeQuery.read tagTemplate.text =
    .ok (.plain (Template.normalize tagTemplate.text)) := by
    unfold BridgeQuery.read BridgeQuery.detect
    rw [Envelope.hasShape_normalize]
    rfl
  have hbuild : Template.substitute (Template.normalize tagTemplate.text) none .lucene =
      .error (.missingParameter ['p'] true) := by
    rw [Template.substitute_normalize_text tagTemplate (by decide)]
    exact (Template.substitute_none_eq_error_iff .lucene).2
      ⟨['p'], by rw [Template.names_text]; rfl, rfl⟩
  have hlucene : BridgeQuery.toLucene (.plain (Template.normalize tagTemplate.text)) none =
    .error (.missingParameter ['p'] true) := bind_eq_error.2 (.inl hbuild)
  rw [Adapter.selectUrl_eq_bind]
  exact bind_eq_error.2 (.inl (bind_eq_error.2 (.inr ⟨_, hread, hlucene⟩)))

/-- With a parameter that is given twice, around another one or behind it, the dry run prints the
URL with the later value and the other runs are refused; without parameters all of them fail
alike. -/
theorem foretells_run_repeated :
    run noNetwork (tagLine ["url"] ["-pp=1", "-pq=2", "-pp=3"]) =
        ⟨0, "solr:/index/core/select?q=a%3A3&rows=1000&start=0&wt=json".toList, []⟩ ∧
      run noNetwork (tagLine ["search", "--skip-check"] ["-pp=1", "-pq=2", "-pp=3"]) = .refused ∧
      run noNetwork (tagLine ["search", "--skip-check"] ["-pq=2", "-pp=1", "-pp=3"]) = .refused ∧
      run noNetwork (tagLine ["url"] []) = .withoutUrl
        (Error.missingParameter ['p'] true).message ∧
      run noNetwork (tagLine ["retrieve", "--skip-check"] []) = .failed
        (Error.missingParameter ['p'] true).message := by
  let given : List (Text × Text) := [(['p'], ['1']), (['q'], ['2']), (['p'], ['3'])]
  let swapped : List (Text × Text) := [(['q'], ['2']), (['p'], ['1']), (['p'], ['3'])]
  have hsame : Entries.SameByKey given swapped := by
    intro key
    by_cases hp : ['p'] = key
    · subst hp
      rfl
    · by_cases hq : ['q'] = key <;> simp [given, swapped, hp, hq]
  have hscheme (parameters : List (Text × Text)) :
      (tagOptions parameters).HasScheme "solr".toList := ⟨"/index".toList, rfl⟩
  have hdry : Options.ofArguments (tagLine ["url"] ["-pp=1", "-pq=2", "-pp=3"]) =
    .ok (tagOptions given) := rfl
  have hdryNone : Options.ofArguments (tagLine ["url"] []) = .ok (tagOptions []) := rfl
  have hsearch : Options.ofArguments
    (tagLine ["search", "--skip-check"] ["-pp=1", "-pq=2", "-pp=3"]) =
    .ok { tagOptions given with operation := .search, skipCheck := true } := rfl
  have hsearchNone : Options.ofArguments (tagLine ["search", "--skip-check"] []) =
    .ok { tagOptions [] with operation := .search, skipCheck := true } := rfl
  have hretrieve : Options.ofArguments
    (tagLine ["retrieve", "--skip-check"] ["-pp=1", "-pq=2", "-pp=3"]) =
    .ok { tagOptions given with operation := .retrieve, skipCheck := true } := rfl
  have hretrieveNone : Options.ofArguments (tagLine ["retrieve", "--skip-check"] []) =
    .ok { tagOptions [] with operation := .retrieve, skipCheck := true } := rfl
  have hsettings : (tagOptions given).settings = .ok tagSettings := rfl
  have hsettingsNone : (tagOptions []).settings = .ok tagSettings := rfl
  have hprinted : run noNetwork (tagLine ["url"] ["-pp=1", "-pq=2", "-pp=3"]) =
      ⟨0, "solr:/index/core/select?q=a%3A3&rows=1000&start=0&wt=json".toList, []⟩ := by
    rw [run_dry hdry rfl hsettings, selectUrl_tagOptions]
    rfl
  have hfailed : run noNetwork (tagLine ["url"] []) =
      .withoutUrl (Error.missingParameter ['p'] true).message := by
    rw [run_dry hdryNone rfl hsettingsNone, selectUrl_tagOptions_nil]
    rfl
  obtain ⟨⟨_, _, hforetells, -⟩, horder⟩ :=
    foretells_run (hscheme given) (fun _ _ => rfl) hdry hsearch hretrieve
  obtain ⟨⟨_, _, -, hforetellsNone⟩, -⟩ :=
    foretells_run (hscheme []) (fun _ _ => rfl) hdryNone hsearchNone hretrieveNone
  have hrefused := hforetells.status_iff.1 (by rw [hprinted])
  refine ⟨hprinted, hrefused, ?_, hfailed, ((hforetellsNone.cause_iff _).1 hfailed).2⟩
  exact (horder _ _ _ _ hsearch rfl hsame).trans hrefused

end CommandLine

end SearchGateway
