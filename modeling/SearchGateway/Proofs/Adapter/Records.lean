import Mathlib.Data.List.TakeDrop
import SearchGateway.Proofs.Adapter.Exchange
import SearchGateway.Proofs.Template.Outline

/-!
# The single record

A retrieval goes by the number of documents that match, while a search lists the records inside
them. On a page that shows no more documents than match, the retrieved record is the first one that
a search lists, and it is the only one exactly where no document holds several
(`retrieve_eq_search_iff`).
-/

namespace SearchGateway

/-- The records of one document at most are one at most where the document holds no more. -/
lemma Record.length_ofDocuments_le_one_iff {documents : List Json} (h : documents.length ≤ 1)
    (path : Option Text) :
    (ofDocuments documents path).length ≤ 1 ↔
      ∀ document ∈ documents, (nodes document path).length ≤ 1 := by
  unfold ofDocuments
  rw [List.length_map]
  match documents with
  | [] => simp
  | [document] => simp
  | _ :: _ :: _ => simp at h

/-- A successful response that reads as a selection gives the selection. -/
lemma Selection.ofReply_response {status : Nat} {body : Text} {selection : Selection}
    (hstatus : isSuccess status = true) (hbody : responseLayout.parse body = .ok selection) :
    ofReply (.response status body) = .ok selection := by
  unfold ofReply
  simp only [hstatus, if_true, hbody]

namespace Adapter

/-- A prepared request has the root path of its query. -/
lemma rootPath_of_prepare {adapter : Adapter} {method : Method} {request : BridgeRequest}
    {prepared : PreparedSelect} (h : adapter.prepare method request = .ok prepared) :
    SearchGateway.rootPath request.query = .ok prepared.rootPath := by
  unfold prepare at h
  obtain ⟨query, hread, h⟩ := bind_eq_ok.1 h
  obtain ⟨_, _, h⟩ := bind_eq_ok.1 h
  obtain ⟨_, _, h⟩ := bind_eq_ok.1 h
  obtain ⟨_, _, h⟩ := bind_eq_ok.1 h
  cases h
  exact bind_eq_ok.2 ⟨query, hread, rfl⟩

/-- The single record of a selection is the first of its records, unless several documents match. -/
lemma singleRecord_eq {selection : Selection} (path : Option Text)
    (h : selection.documents.length ≤ selection.found) :
    singleRecord path selection =
      if selection.found ≤ 1 then .ok (Record.ofDocuments selection.documents path).head?
      else .error (.multipleResults selection.found) := by
  obtain ⟨found, documents⟩ := selection
  match found with
  | 0 =>
    obtain rfl := List.length_eq_zero_iff.1 (Nat.le_zero.1 h)
    rfl
  | 1 => rfl
  | n + 2 => rfl

section answers

variable {adapter : Adapter} {request : BridgeRequest} {network : Get → Reply}
  {prepared : PreparedSelect} {selection : Selection}

/-- A retrieval takes the single record from the selection that comes back. -/
lemma answer_retrieve (hprepare : adapter.prepare .search request = .ok prepared)
    (hselection : Selection.ofReply (network (adapter.get prepared.url)) = .ok selection) :
    (Exchange.run network (adapter.retrieve request)).answer =
      singleRecord prepared.rootPath selection := by
  rw [retrieve_eq, hprepare]
  exact congrArg (· >>= singleRecord prepared.rootPath) hselection

/-- A search lists the records of the selection that comes back. -/
lemma answer_search (hprepare : adapter.prepare .search request = .ok prepared)
    (hselection : Selection.ofReply (network (adapter.get prepared.url)) = .ok selection) :
    (Exchange.run network (adapter.search request)).answer =
      .ok (listed request.fields prepared.rootPath selection) := by
  rw [search_eq, hprepare]
  exact congrArg (Except.map (listed request.fields prepared.rootPath)) hselection

end answers

/-- Where a retrieval gets an answer, a search gets one from the same reply, and the retrieved
record is the first of its list. It is the whole list exactly where no document holds several
records. A retrieval gets an answer exactly where one document matches at most. -/
theorem retrieve_eq_search_iff (adapter : Adapter) (request : BridgeRequest) {status : Nat}
    {body : Text} {selection : Selection} (hstatus : isSuccess status = true)
    (hbody : Selection.responseLayout.parse body = .ok selection)
    (hpage : selection.documents.length ≤ selection.found) :
    let network : Get → Reply := fun _ => .response status body
    let retrieved := (Exchange.run network (adapter.retrieve request)).answer
    let searched := (Exchange.run network (adapter.search request)).answer
    (∀ record?, retrieved = .ok record? →
      ∃ list path, searched = .ok list ∧ SearchGateway.rootPath request.query = .ok path ∧
        record? = list.records.head? ∧
        (list.records = record?.toList ↔
          ∀ document ∈ selection.documents, (Record.nodes document path).length ≤ 1)) ∧
    ∀ list, searched = .ok list →
      ((∃ record?, retrieved = .ok record?) ↔ selection.found ≤ 1) := by
  intro network retrieved searched
  have hselection := Selection.ofReply_response hstatus hbody
  cases hprepare : adapter.prepare .search request with
  | error e =>
    have hretrieved : retrieved = .error e := by
      unfold retrieved
      rw [retrieve_eq, hprepare]
      rfl
    have hsearched : searched = .error e := by
      unfold searched
      rw [search_eq, hprepare]
      rfl
    rw [hretrieved, hsearched]
    exact ⟨nofun, nofun⟩
  | ok prepared =>
    have hretrieved : retrieved = _ :=
      (answer_retrieve hprepare hselection).trans (singleRecord_eq prepared.rootPath hpage)
    have hsearched : searched = _ := answer_search hprepare hselection
    rw [hretrieved, hsearched]
    by_cases hfound : selection.found ≤ 1
    · rw [if_pos hfound]
      refine ⟨?_, fun _ _ => iff_of_true ⟨_, rfl⟩ hfound⟩
      rintro _ ⟨⟩
      refine ⟨_, _, rfl, rootPath_of_prepare hprepare, rfl, ?_⟩
      rw [← Record.length_ofDocuments_le_one_iff (hpage.trans hfound) prepared.rootPath,
        ← List.take_self_eq_iff, List.take_one]
      rfl
    · rw [if_neg hfound]
      exact ⟨nofun, fun _ _ => iff_of_false nofun hfound⟩

/-- A request for the items inside of one document. -/
def itemsRequest : BridgeRequest where
  core := "core".toList
  query := "\x7b\"type\":\"Solr DSL\",\"query\":\"id:1\",\"jsonRootPath\":\"items\"\x7d".toList

/-- A response with one document, which holds the given items. -/
def itemsBody (items : Text) : Text :=
  "\x7b\"response\":\x7b\"numFound\":1,\"docs\":[\x7b\"items\":".toList ++
    (items ++ "\x7d]\x7d\x7d".toList)

/-- The request for items makes a URL and has a root path. -/
lemma prepare_itemsRequest :
    prepare ⟨⟨"http://localhost:8983/solr".toList, none, none⟩⟩ .search itemsRequest =
      .ok ⟨⟨"http".toList, some ⟨[], [], .name "localhost".toList, some 8983⟩,
        .segments ["solr".toList, "core".toList, "select".toList],
        some "q=id%3A1&rows=1000&start=0&wt=json".toList, none⟩, some "items".toList⟩ := by
  have hread : BridgeQuery.read itemsRequest.query =
      .ok (.envelope ⟨[("type".toList, .string "Solr DSL".toList),
        ("query".toList, .string "id:1".toList),
        ("jsonRootPath".toList, .string "items".toList)]⟩) := by
    unfold BridgeQuery.read
    rw [Template.normalize_of_tagFree (Template.tagFree_of_no_angle (by decide))]
    rfl
  have hfragment : Fragment.build true "id:1".toList none = .ok "id:1".toList :=
    Template.substitute_of_tagFree (Template.tagFree_of_no_angle (by decide)) none .luceneInJson
  have hquery : BridgeQuery.toLucene (.envelope ⟨[("type".toList, .string "Solr DSL".toList),
      ("query".toList, .string "id:1".toList),
      ("jsonRootPath".toList, .string "items".toList)]⟩) none = .ok ⟨"id:1".toList⟩ :=
    congrArg (Except.map LuceneQuery.mk) hfragment
  exact bind_eq_ok.2 ⟨_, hread, bind_eq_ok.2 ⟨_, hquery, rfl⟩⟩

/-- A document with one object among its items gives the same record either way. -/
theorem retrieve_eq_search_iff_item :
    let network : Get → Reply := fun _ => .response 200
      (itemsBody "[1,\x7b\"name\":\"a\"\x7d]".toList)
    let adapter : Adapter := ⟨⟨"http://localhost:8983/solr".toList, none, none⟩⟩
    (Exchange.run network (adapter.retrieve itemsRequest)).answer =
        .ok (some [("name".toList, "a".toList)]) ∧
      ∃ list, (Exchange.run network (adapter.search itemsRequest)).answer = .ok list ∧
        list.records = [[("name".toList, "a".toList)]] := by
  intro network adapter
  have hbody : Selection.responseLayout.parse (itemsBody "[1,\x7b\"name\":\"a\"\x7d]".toList) =
      .ok ⟨1, [.object [("items".toList, .array [.number (.integer 1),
        .object [("name".toList, .string "a".toList)]])]]⟩ := rfl
  have hstatus : isSuccess 200 = true := rfl
  have hanswer : (Exchange.run network (adapter.retrieve itemsRequest)).answer =
      .ok (some [("name".toList, "a".toList)]) :=
    (answer_retrieve prepare_itemsRequest (Selection.ofReply_response hstatus hbody)).trans rfl
  obtain ⟨hretrieve, _⟩ := retrieve_eq_search_iff adapter itemsRequest hstatus hbody (by decide)
  obtain ⟨list, path, hsearch, hpath, _, hiff⟩ := hretrieve _ hanswer
  have hroot := rootPath_of_prepare prepare_itemsRequest
  rw [hpath] at hroot
  injection hroot with hroot
  subst hroot
  refine ⟨hanswer, list, hsearch, hiff.2 ?_⟩
  intro document hdocument
  obtain rfl := List.mem_singleton.1 hdocument
  exact Nat.le_refl 1

/-- Of two items in the only document that matches, the first is retrieved and both are listed. -/
theorem retrieve_first_item :
    let network : Get → Reply := fun _ => .response 200
      (itemsBody "[\x7b\"name\":\"a\"\x7d,\x7b\"name\":\"b\"\x7d]".toList)
    let adapter : Adapter := ⟨⟨"http://localhost:8983/solr".toList, none, none⟩⟩
    (Exchange.run network (adapter.retrieve itemsRequest)).answer =
        .ok (some [("name".toList, "a".toList)]) ∧
      (Exchange.run network (adapter.search itemsRequest)).answer =
        .ok ⟨["name".toList], [[("name".toList, "a".toList)], [("name".toList, "b".toList)]]⟩ := by
  intro network adapter
  have hselection : Selection.ofReply (.response 200
      (itemsBody "[\x7b\"name\":\"a\"\x7d,\x7b\"name\":\"b\"\x7d]".toList)) =
      .ok ⟨1, [.object [("items".toList, .array [.object [("name".toList, .string "a".toList)],
        .object [("name".toList, .string "b".toList)]])]]⟩ := rfl
  exact ⟨(answer_retrieve prepare_itemsRequest hselection).trans rfl,
    (answer_search prepare_itemsRequest hselection).trans rfl⟩

end Adapter

end SearchGateway
