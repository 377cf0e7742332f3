import SearchGateway.Proofs.Adapter.Methods
import SearchGateway.Proofs.Adapter.Records
import SearchGateway.Proofs.Record.Leaves

/-!
# Requested columns

A search sends the names of the requested fields without their structural heads, and lists the
fields as they were requested. Where every document of the page has a string or a number under each
name that was sent, each of these names is a key of every record (`search_columns`). The listed
field itself is one as well unless it has a structural head, since the server does not know the
field by that name.
-/

namespace SearchGateway

/-- Whether an object has a string or a number under a key. -/
inductive Json.HasScalar (key : Text) : Json → Prop where
  | string {members s} : Entries.get? key members = some (.string s) → HasScalar key (.object members)
  | number {members n} : Entries.get? key members = some (.number n) → HasScalar key (.object members)

namespace Record

/-- A member that is a leaf itself has its key in the record. -/
lemma mem_keys_ofDocument_of_member {members : List (Text × Json)} {key : Text} {j : Json}
    (hj : Entries.get? key members = some j) {t : Text} (hleaves : j.leaves = [⟨[], t⟩]) :
    key ∈ (ofDocument (.object members)).keys := by
  refine (mem_keys_ofDocument rfl).2 ⟨⟨[.member key], t⟩, ?_, rfl⟩
  rw [Json.leaves_object]
  refine List.mem_flatMap.2 ⟨(.member key, j), ?_, ?_⟩
  · exact List.mem_map.2 ⟨(key, j), Entries.mem_of_get? hj, rfl⟩
  · rw [Json.branchLeaves, hleaves]
    exact .head _

/-- A scalar under a name gives the record a key with the name. -/
lemma mem_keys_ofDocument_of_hasScalar {document : Json} {key : Text}
    (h : document.HasScalar key) : key ∈ (ofDocument document).keys := by
  cases h with
  | string hmember => exact mem_keys_ofDocument_of_member hmember rfl
  | number hmember => exact mem_keys_ofDocument_of_member hmember rfl

/-- Without a root path every document is a record. -/
lemma ofDocuments_none (documents : List Json) :
    ofDocuments documents none = documents.map ofDocument := by
  unfold ofDocuments nodes
  rw [List.flatMap_singleton']

end Record

/-- Only objects hold scalars under names. -/
lemma Json.HasScalar.isObject {key : Text} {j : Json} (h : j.HasScalar key) :
    j.isObject = true := by
  cases h with
  | string _ => rfl
  | number _ => rfl

/-- Requested fields are sent by their names without structural heads. -/
lemma SelectRequest.get?_fl_build (query : LuceneQuery) (metadata : Metadata)
    (h : metadata.fields ≠ []) :
    (build .search query metadata).get? "fl".toList =
      some (Text.join [','] (metadata.fields.map stripStructure)) := by
  obtain ⟨field, fields, hfields⟩ := List.exists_cons_of_ne_nil h
  unfold build pageParameters
  rw [hfields]
  rfl

namespace Adapter

section search

variable {adapter : Adapter} {request : BridgeRequest} {url : Url}

/-- A select URL is that of a request that was put together. -/
lemma exists_prepare_of_selectUrl {method : Method}
    (h : adapter.selectUrl method request = .ok url) :
    ∃ prepared, adapter.prepare method request = .ok prepared ∧ prepared.url = url := by
  rw [selectUrl_eq] at h
  cases hprepare : adapter.prepare method request with
  | error e =>
    rw [hprepare] at h
    cases h
  | ok prepared =>
    rw [hprepare] at h
    exact ⟨prepared, rfl, Except.ok.inj h⟩

/-- The URL of a search for fields carries their names. -/
lemma exists_build_of_selectUrl (h : adapter.selectUrl .search request = .ok url)
    (hfields : request.fields ≠ []) :
    ∃ query metadata,
      (SelectRequest.build .search query metadata).url adapter.settings.url request.core =
        .ok url ∧
      (SelectRequest.build .search query metadata).get? "fl".toList =
        some (Text.join [','] (request.fields.map stripStructure)) := by
  rw [selectUrl_eq_bind] at h
  obtain ⟨query, _, h⟩ := bind_eq_ok.1 h
  obtain ⟨metadata, hmetadata, h⟩ := bind_eq_ok.1 h
  have hkept : metadata.fields = request.fields := by
    obtain ⟨_, _, hmetadata⟩ := bind_eq_ok.1 hmetadata
    obtain ⟨_, _, hmetadata⟩ := bind_eq_ok.1 hmetadata
    cases hmetadata
    rfl
  refine ⟨query, metadata, h, ?_⟩
  rw [SelectRequest.get?_fl_build query metadata (hkept ▸ hfields), hkept]

/-- A search for some fields, without a root path, sends their names without structural heads. If
every document that comes back has a string or a number under each of these names, then the listed
fields are the requested ones, and without their structural heads they are keys of every record. The
listed fields themselves are keys of every record exactly where each one with a structural head is
the key of a leaf in every document. -/
theorem search_columns {network : Get → Reply} {status : Nat} {body : Text} {selection : Selection}
    (hfields : request.fields ≠ [])
    (hroot : SearchGateway.rootPath request.query = .ok none)
    (hurl : adapter.selectUrl .search request = .ok url)
    (hreply : network (adapter.get url) = .response status body)
    (hstatus : isSuccess status = true)
    (hbody : Selection.responseLayout.parse body = .ok selection)
    (hdocuments : ∀ document ∈ selection.documents, ∀ field ∈ request.fields,
      document.HasScalar (stripStructure field)) :
    (∃ query metadata,
      (SelectRequest.build .search query metadata).url adapter.settings.url request.core =
        .ok url ∧
      (SelectRequest.build .search query metadata).get? "fl".toList =
        some (Text.join [','] (request.fields.map stripStructure))) ∧
    ∃ list, (Exchange.run network (adapter.search request)).answer = .ok list ∧
      list.fields = request.fields ∧
      list.records = selection.documents.map Record.ofDocument ∧
      (∀ field ∈ list.fields, ∀ record ∈ list.records, stripStructure field ∈ record.keys) ∧
      ((∀ field ∈ list.fields, ∀ record ∈ list.records, field ∈ record.keys) ↔
        ∀ field ∈ request.fields, stripStructure field ≠ field →
          ∀ document ∈ selection.documents, ∃ leaf ∈ document.leaves, leaf.key = field) := by
  refine ⟨exists_build_of_selectUrl hurl hfields, ?_⟩
  obtain ⟨prepared, hprepare, rfl⟩ := exists_prepare_of_selectUrl hurl
  have hpath : prepared.rootPath = none :=
    Except.ok.inj ((rootPath_of_prepare hprepare).symm.trans hroot)
  have hselection : Selection.ofReply (network (adapter.get prepared.url)) = .ok selection := by
    rw [hreply]
    exact Selection.ofReply_response hstatus hbody
  have hlist : (listed request.fields prepared.rootPath selection).fields = request.fields := by
    unfold listed RecordList.ofRecords
    rw [List.isEmpty_eq_false_iff.2 hfields]
    rfl
  have hrecords : (listed request.fields prepared.rootPath selection).records =
      selection.documents.map Record.ofDocument := by
    rw [hpath]
    exact Record.ofDocuments_none selection.documents
  refine ⟨_, answer_search hprepare hselection, hlist, hrecords, ?_, ?_⟩
  · rw [hlist, hrecords]
    intro field hfield
    refine List.forall_mem_map.2 fun document hdocument => ?_
    exact Record.mem_keys_ofDocument_of_hasScalar (hdocuments document hdocument field hfield)
  · rw [hlist, hrecords]
    refine forall₂_congr fun field hfield => ?_
    rw [List.forall_mem_map]
    constructor
    · intro h _ document hdocument
      have hobject := (hdocuments document hdocument field hfield).isObject
      exact (Record.mem_keys_ofDocument hobject).1 (h document hdocument)
    · intro h document hdocument
      have hscalar := hdocuments document hdocument field hfield
      by_cases hplain : stripStructure field = field
      · exact Record.mem_keys_ofDocument_of_hasScalar (hplain ▸ hscalar)
      · exact (Record.mem_keys_ofDocument hscalar.isObject).2 (h hplain document hdocument)

end search

/-- A request for one field by its name with a structural head. -/
def messageRequest : BridgeRequest where
  core := "core".toList
  query := "id:1".toList
  fields := ["_source.message".toList]

/-- A response with one document, which has the field. -/
def messageBody : Text :=
  "\x7b\"response\":\x7b\"numFound\":1,\"docs\":[\x7b\"message\":\"x\"\x7d]\x7d\x7d".toList

/-- The selection in this body. -/
def messageSelection : Selection :=
  ⟨1, [.object [("message".toList, .string "x".toList)]]⟩

/-- The body is read as this selection. -/
lemma parse_messageBody : Selection.responseLayout.parse messageBody = .ok messageSelection := rfl

/-- The URL of the request. -/
def messageUrl : Url :=
  ⟨"http".toList, some ⟨[], [], .name "localhost".toList, some 8983⟩,
    .segments ["solr".toList, "core".toList, "select".toList],
    some "q=id%3A1&rows=1000&start=0&fl=message&wt=json".toList, none⟩

/-- The request is sent under its URL, and its documents are the records. -/
lemma prepare_messageRequest :
    prepare ⟨⟨"http://localhost:8983/solr".toList, none, none⟩⟩ .search messageRequest =
      .ok ⟨messageUrl, none⟩ := by
  have hfree : Template.TagFree "id:1".toList := Template.tagFree_of_no_angle (by decide)
  have hread : BridgeQuery.read messageRequest.query = .ok (.plain "id:1".toList) := by
    unfold BridgeQuery.read
    rw [messageRequest, Template.normalize_of_tagFree hfree]
    rfl
  have hquery : BridgeQuery.toLucene (.plain "id:1".toList) none = .ok ⟨"id:1".toList⟩ :=
    congrArg (Except.map LuceneQuery.mk) (Template.substitute_of_tagFree hfree none .lucene)
  exact bind_eq_ok.2 ⟨_, hread, bind_eq_ok.2 ⟨_, hquery, rfl⟩⟩

/-- The field is a key of the record by the name that was sent. -/
theorem search_columns_message :
    let network : Get → Reply := fun _ => .response 200 messageBody
    let adapter : Adapter := ⟨⟨"http://localhost:8983/solr".toList, none, none⟩⟩
    messageRequest.fields ≠ [] ∧ SearchGateway.rootPath messageRequest.query = .ok none ∧
    adapter.selectUrl .search messageRequest = .ok messageUrl ∧
    (∀ document ∈ messageSelection.documents, ∀ field ∈ messageRequest.fields,
      document.HasScalar (stripStructure field)) ∧
    ∃ list, (Exchange.run network (adapter.search messageRequest)).answer = .ok list ∧
      list.fields = ["_source.message".toList] ∧
      ∀ record ∈ list.records, "message".toList ∈ record.keys := by
  intro network adapter
  have hurl : adapter.selectUrl .search messageRequest = .ok messageUrl :=
    (selectUrl_eq _ _ _).trans (congrArg (Except.map PreparedSelect.url) prepare_messageRequest)
  have hroot := rootPath_of_prepare prepare_messageRequest
  have hdocuments : ∀ document ∈ messageSelection.documents, ∀ field ∈ messageRequest.fields,
      document.HasScalar (stripStructure field) :=
    List.forall_mem_singleton.2 (List.forall_mem_singleton.2 (.string rfl))
  have hfields : messageRequest.fields ≠ [] := List.cons_ne_nil _ _
  have hreply : network (adapter.get messageUrl) = .response 200 messageBody := rfl
  obtain ⟨_, list, hanswer, hlist, _, hkeys, _⟩ := search_columns hfields hroot hurl hreply rfl
    parse_messageBody hdocuments
  refine ⟨hfields, hroot, hurl, hdocuments, list, hanswer, hlist, ?_⟩
  exact hkeys "_source.message".toList (hlist ▸ List.mem_singleton.2 rfl)

/-- The field is listed with its structural head and the record has it without. -/
theorem search_structural_field :
    let network : Get → Reply := fun _ => .response 200 messageBody
    let adapter : Adapter := ⟨⟨"http://localhost:8983/solr".toList, none, none⟩⟩
    (Exchange.run network (adapter.search messageRequest)).answer =
      .ok ⟨["_source.message".toList], [[("message".toList, "x".toList)]]⟩ ∧
    "_source.message".toList ∉ Entries.keys [("message".toList, "x".toList)] := by
  intro network adapter
  have hselection : Selection.ofReply (.response 200 messageBody) = .ok messageSelection :=
    Selection.ofReply_response rfl parse_messageBody
  exact ⟨(answer_search prepare_messageRequest hselection).trans rfl, by decide⟩

end Adapter

end SearchGateway
