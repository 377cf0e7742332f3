import SearchGateway.Adapter
import SearchGateway.Proofs.Request.Parameters

/-!
# Counts and searches

The URL of a count and that of a search carry different parameters behind the one for the query.
Reading the text of a URL does not look at what a query string says, so either both texts make a
URL or neither does, and the URLs are the same through the parameter for the query
(`selectUrl_alike`).
-/

namespace SearchGateway

/-- Whether two errors are the same but for the text that was tried as a URL. -/
inductive Error.SameKind : Error → Error → Prop
  | refl (e : Error) : SameKind e e
  | encoding (cause : Url.Error) (tried tried' : Option Text) :
    SameKind (.encoding cause tried) (.encoding cause tried')

namespace SelectRequest

/-- The parameter for the query, as it is sent. -/
def queryParameter (query : LuceneQuery) : Text :=
  parameterText ("q".toList, queryText query)

/-- The query string begins with the parameter for the query, and more parameters follow. -/
lemma queryString_build (method : Method) (query : LuceneQuery) (metadata : Metadata) :
    ∃ tail, (build method query metadata).queryString = queryParameter query ++ '&' :: tail := by
  unfold build queryString queryParameter
  rw [List.cons_append, List.map_cons]
  cases h : List.map parameterText
      (pageParameters method metadata ++ [("wt".toList, "json".toList)]) with
  | nil => simp at h
  | cons p ps => exact ⟨Text.join ['&'] (p :: ps), by simp [Text.join]⟩

/-- A request fails where its text does not read as a URL. -/
lemma url_eq_error {request : SelectRequest} {base core : Text} {cause : Url.Error}
    (h : Url.parse (request.urlText base core) = .error cause) :
    request.url base core = .error (.encoding cause (some (request.urlText base core))) := by
  unfold SelectRequest.url
  simp only [h]

/-- Whether the requests for a query make URLs does not depend on the method and the settings, and
neither does the text of the URL through the parameter for the query. -/
lemma url_build (query : LuceneQuery) (base core : Text) :
    (∃ cause, ∀ method metadata, ∃ tried,
      (build method query metadata).url base core = .error (.encoding cause tried)) ∨
    ∃ front, ∀ method metadata, ∃ url tail,
      (build method query metadata).url base core = .ok url ∧
        url.text = front ++ '?' :: (queryParameter query ++ '&' :: tail) := by
  obtain ⟨cause, herror⟩ | ⟨front, hok⟩ :=
    Url.parse_append_query (base.trimEndWhere (· == '/') ++ corePath core)
  · refine .inl ⟨cause, fun method metadata => ?_⟩
    have hparse := herror _ fun _ => @isSent_of_mem_queryString method query metadata _
    rw [← urlText_eq] at hparse
    exact ⟨_, url_eq_error hparse⟩
  · refine .inr ⟨front, fun method metadata => ?_⟩
    obtain ⟨tail, htail⟩ := queryString_build method query metadata
    obtain ⟨url, hparse, htext⟩ := hok _ fun _ =>
      @isSent_of_mem_queryString method query metadata _
    rw [← urlText_eq] at hparse
    exact ⟨url, tail, url_eq_ok_iff.2 hparse, htail ▸ htext⟩

end SelectRequest

namespace Adapter

/-- The select URL is that of the built request, once query and settings are read. -/
lemma selectUrl_eq_bind (adapter : Adapter) (method : Method) (request : BridgeRequest) :
    adapter.selectUrl method request =
      (parse request.query request.parameters >>= fun query =>
        Metadata.ofRaw request.metadata request.fields >>= fun metadata =>
          (SelectRequest.build method query metadata).url adapter.settings.url request.core) := by
  unfold selectUrl prepare parse
  simp only [bind_assoc, pure_bind, bind_pure]

/-- A count and a search for one request fail together, with the same error but for the text that
was tried, and their URLs are the same through the parameter for the query. The URL of a count does
not depend on the settings and fields, once they are accepted. -/
theorem selectUrl_alike (adapter : Adapter) (request : BridgeRequest) :
    ((∃ e e', adapter.selectUrl .count request = .error e ∧
        adapter.selectUrl .search request = .error e' ∧ e.SameKind e') ∨
      ∃ query url url' front tail tail',
        parse request.query request.parameters = .ok query ∧
        adapter.selectUrl .count request = .ok url ∧
        adapter.selectUrl .search request = .ok url' ∧
        url.text = front ++ '?' :: (SelectRequest.queryParameter query ++ '&' :: tail) ∧
        url'.text = front ++ '?' :: (SelectRequest.queryParameter query ++ '&' :: tail')) ∧
    ∀ metadata fields accepted accepted',
      Metadata.ofRaw request.metadata request.fields = .ok accepted →
      Metadata.ofRaw metadata fields = .ok accepted' →
      adapter.selectUrl .count { request with metadata, fields } =
        adapter.selectUrl .count request := by
  simp only [selectUrl_eq_bind]
  cases parse request.query request.parameters with
  | error e => exact ⟨.inl ⟨e, e, rfl, rfl, .refl e⟩, fun _ _ _ _ _ _ => rfl⟩
  | ok query =>
    refine ⟨?_, ?_⟩
    · cases Metadata.ofRaw request.metadata request.fields with
      | error e => exact .inl ⟨e, e, rfl, rfl, .refl e⟩
      | ok metadata =>
        obtain ⟨cause, herror⟩ | ⟨front, hok⟩ :=
          SelectRequest.url_build query adapter.settings.url request.core
        · obtain ⟨tried, hcount⟩ := herror .count metadata
          obtain ⟨tried', hsearch⟩ := herror .search metadata
          exact .inl ⟨_, _, hcount, hsearch, .encoding cause tried tried'⟩
        · obtain ⟨url, tail, hcount, htext⟩ := hok .count metadata
          obtain ⟨url', tail', hsearch, htext'⟩ := hok .search metadata
          exact .inr ⟨query, url, url', front, tail, tail', rfl, hcount, hsearch, htext, htext'⟩
    · intro metadata fields accepted accepted' h h'
      rw [h, h']
      rfl

/-- A page size, an order and a field do not show in the URL of a count. -/
theorem selectUrl_alike_paged :
    Metadata.ofRaw [("pageSize".toList, "5".toList), ("order".toList, "b:DESC".toList)]
        ["b".toList] =
      .ok ⟨some 5, none, [⟨"b".toList, .descending⟩], ["b".toList]⟩ ∧
    selectUrl ⟨⟨"http://solr".toList, none, none⟩⟩ .count ⟨"core".toList, "a:b".toList, none,
        [("pageSize".toList, "5".toList), ("order".toList, "b:DESC".toList)], ["b".toList]⟩ =
      selectUrl ⟨⟨"http://solr".toList, none, none⟩⟩ .count
        ⟨"core".toList, "a:b".toList, none, [], []⟩ :=
  ⟨rfl, (selectUrl_alike _ ⟨"core".toList, "a:b".toList, none, [], []⟩).2 _ _ _ _ rfl rfl⟩

end Adapter

end SearchGateway
