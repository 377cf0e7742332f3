import SearchGateway.Adapter
import SearchGateway.Proofs.Query.Errors

/-!
# Exchanges with the network

Every operation puts one GET together and then turns the reply into its answer. What fails before
the GET fails with a query error, which no further attempt mends, and sends nothing; what fails
behind it never fails with a query error, and another attempt may help exactly where the reply says
so (`run_isSplit`).
-/

namespace SearchGateway

namespace Metadata

/-- A text that is no count is a query error. -/
lemma failsBy_count? (raw : Entries Text) (key : Text) : FailsByQuery (count? raw key) := by
  unfold count?
  split
  · exact .ok _
  · split
    · exact .ok _
    · exact .error rfl

/-- The offset fails to be read with query errors. -/
lemma failsBy_readOffset (raw : Entries Text) (pageSize : Option Nat) :
    FailsByQuery (readOffset raw pageSize) := by
  unfold readOffset
  refine (failsBy_count? raw _).bind fun offset _ => ?_
  cases offset with
  | some n => exact .ok _
  | none => exact (failsBy_count? raw _).bind fun pageNumber _ => .ok _

/-- Raw metadata fail to be read with query errors. -/
lemma failsBy_ofRaw (raw : Entries Text) (fields : List Text) :
    FailsByQuery (ofRaw raw fields) := by
  unfold ofRaw
  exact (failsBy_count? raw _).bind fun pageSize _ =>
    (failsBy_readOffset raw pageSize).bind fun offset _ => .ok _

end Metadata

/-- A request that makes no URL is a query error. -/
lemma SelectRequest.failsBy_url (request : SelectRequest) (base core : Text) :
    FailsByQuery (request.url base core) := by
  unfold SelectRequest.url
  simp only
  split
  · exact .ok _
  · exact .error rfl

/-- Whether a reply leaves hope that another attempt succeeds: there was no response, or one with
the status of an overloaded or a failing server. -/
def Reply.IsTransient : Reply → Prop
  | .failure _ => True
  | .response status _ => status = 429 ∨ 500 ≤ status

/-- The errors that are made of a reply: no query errors, and worth another attempt where the reply
is transient. -/
def Reply.Explains (reply : Reply) (e : Error) : Prop :=
  e.isQueryError = false ∧ (e.isRetryable = true ↔ reply.IsTransient)

namespace Reply

/-- A missing response explains an error of the network. -/
lemma explains_failure (reason : Text) : (failure reason).Explains (.network reason) :=
  ⟨rfl, fun _ => trivial, fun _ => rfl⟩

/-- A response explains an error with its status. -/
lemma explains_response (status : Nat) (body : Text) :
    (response status body).Explains (.httpStatus status) := by
  refine ⟨rfl, ?_⟩
  unfold Error.isRetryable IsTransient
  simp only [Bool.or_eq_true, decide_eq_true_eq, beq_iff_eq]
  exact or_comm

/-- A reply that is not transient explains an error that another attempt does not mend. -/
lemma explains_of_not_isTransient {reply : Reply} {e : Error} (h : ¬ reply.IsTransient)
    (hquery : e.isQueryError = false) (hretryable : e.isRetryable = false) : reply.Explains e :=
  ⟨hquery, iff_of_false (by simp [hretryable]) h⟩

/-- A successful response is not transient. -/
lemma not_isTransient_of_isSuccess {status : Nat} {body : Text} (h : isSuccess status = true) :
    ¬ (response status body).IsTransient := by
  unfold isSuccess at h
  unfold IsTransient
  simp only [Bool.and_eq_true, decide_eq_true_eq] at h
  omega

end Reply

namespace Selection

/-- A reply without a selection explains the error. -/
lemma failsBy_ofReply (reply : Reply) : FailsBy reply.Explains (ofReply reply) := by
  unfold ofReply
  split
  · exact .error (Reply.explains_failure _)
  · split
    · rename_i status body hstatus
      split
      · exact .ok _
      · have htransient := @Reply.not_isTransient_of_isSuccess status body hstatus
        exact .error (Reply.explains_of_not_isTransient htransient rfl rfl)
    · exact .error (Reply.explains_response _ _)

/-- A reply with a selection is not transient. -/
lemma not_isTransient_of_ofReply {reply : Reply} {selection : Selection}
    (h : ofReply reply = .ok selection) : ¬ reply.IsTransient := by
  unfold ofReply at h
  split at h
  · cases h
  · split at h
    · rename_i hstatus
      exact Reply.not_isTransient_of_isSuccess hstatus
    · cases h

end Selection

namespace Adapter

/-- The status URL fails with query errors. -/
lemma failsBy_statusUrl (adapter : Adapter) : FailsByQuery adapter.statusUrl := by
  unfold statusUrl
  split
  · exact .ok _
  · exact .error rfl

/-- The status check asks for the status URL. -/
lemma checkStatus_eq (adapter : Adapter) :
    adapter.checkStatus = adapter.statusUrl.map fun url => ⟨adapter.get url, readStatus⟩ := by
  unfold checkStatus
  cases adapter.statusUrl <;> rfl

/-- The select URL is that of the request once it is put together. -/
lemma selectUrl_eq (adapter : Adapter) (method : Method) (request : BridgeRequest) :
    adapter.selectUrl method request =
      (adapter.prepare method request).map PreparedSelect.url := by
  unfold selectUrl
  cases adapter.prepare method request <;> rfl

/-- A count asks for the URL of a count and takes the number from the selection. -/
lemma count_eq (adapter : Adapter) (request : BridgeRequest) :
    adapter.count request = (adapter.prepare .count request).map fun prepared =>
      ⟨adapter.get prepared.url, fun reply => (Selection.ofReply reply).map Selection.found⟩ := by
  unfold count
  cases adapter.prepare .count request <;> rfl

/-- A retrieval asks for the URL of a search and takes the single record from the selection. -/
lemma retrieve_eq (adapter : Adapter) (request : BridgeRequest) :
    adapter.retrieve request = (adapter.prepare .search request).map fun prepared =>
      ⟨adapter.get prepared.url, fun reply =>
        Selection.ofReply reply >>= singleRecord prepared.rootPath⟩ := by
  unfold retrieve
  cases adapter.prepare .search request <;> rfl

/-- The records of a selection as a search lists them. -/
def listed (requested : List Text) (rootPath : Option Text) (selection : Selection) : RecordList :=
  .ofRecords (Record.ofDocuments selection.documents rootPath) requested

/-- A search asks for the URL of a search and takes all records from the selection. -/
lemma search_eq (adapter : Adapter) (request : BridgeRequest) :
    adapter.search request = (adapter.prepare .search request).map fun prepared =>
      ⟨adapter.get prepared.url, fun reply =>
        (Selection.ofReply reply).map (listed request.fields prepared.rootPath)⟩ := by
  unfold search
  cases adapter.prepare .search request <;> rfl

/-- A select request fails to be put together with query errors. -/
lemma failsBy_prepare (adapter : Adapter) (method : Method) (request : BridgeRequest) :
    FailsByQuery (adapter.prepare method request) := by
  unfold prepare
  exact (BridgeQuery.failsBy_read _).bind fun query _ =>
    (query.failsBy_toLucene _).bind fun lucene _ =>
      (Metadata.failsBy_ofRaw _ _).bind fun metadata _ =>
        (SelectRequest.failsBy_url _ _ _).bind fun url _ => .ok _

/-- A reply to the status check explains its error. -/
lemma failsBy_readStatus (reply : Reply) : FailsBy reply.Explains (readStatus reply) := by
  unfold readStatus
  split
  · exact .error (Reply.explains_failure _)
  · rename_i status body
    split
    · rename_i hstatus
      have htransient : ¬ (Reply.response status body).IsTransient := by
        unfold Reply.IsTransient
        omega
      exact .error (Reply.explains_of_not_isTransient htransient rfl rfl)
    · split
      · exact .ok _
      · exact .error (Reply.explains_response _ _)

/-- A selection with several documents is an error that its reply explains. -/
lemma failsBy_singleRecord {reply : Reply} {selection : Selection} (rootPath : Option Text)
    (h : Selection.ofReply reply = .ok selection) :
    FailsBy reply.Explains (singleRecord rootPath selection) := by
  unfold singleRecord
  split
  · exact .ok _
  · exact .ok _
  · have htransient := Selection.not_isTransient_of_ofReply h
    exact .error (Reply.explains_of_not_isTransient htransient rfl rfl)

end Adapter

/-- How the outcome of an operation that asks for a URL is split by the network. -/
structure Outcome.IsSplit {α : Type} (outcome : Outcome α) (adapter : Adapter)
    (target : Except Error Url) (network : Get → Reply) : Prop where
  /-- At most one GET is sent. -/
  length_sent_le : outcome.sent.length ≤ 1
  /-- None is sent exactly where the operation fails with a query error. -/
  sent_eq_nil_iff : outcome.sent = [] ↔
    ∃ e, outcome.answer = .error e ∧ e.isQueryError = true
  /-- Another attempt does not mend a query error. -/
  not_isRetryable (e : Error) :
    outcome.answer = .error e → e.isQueryError = true → e.isRetryable = false
  /-- What is sent goes to the target. -/
  target_eq_of_mem (get : Get) : get ∈ outcome.sent → target = .ok get.url
  /-- What is sent carries credentials exactly where both their parts are set. -/
  credentials_iff_of_mem (get : Get) : get ∈ outcome.sent → ∀ credentials : Credentials,
    get.credentials = some credentials ↔
      adapter.settings.username = some credentials.username ∧
        adapter.settings.password = some credentials.password
  /-- The reply explains the error behind it. -/
  explains_of_mem (get : Get) : get ∈ outcome.sent →
    ∀ e, outcome.answer = .error e → (network get).Explains e

/-- The credentials of settings are the two parts, if both are set. -/
lemma Settings.credentials_eq_some_iff {settings : Settings} {credentials : Credentials} :
    settings.credentials = some credentials ↔
      settings.username = some credentials.username ∧
        settings.password = some credentials.password := by
  obtain ⟨url, username, password⟩ := settings
  obtain ⟨u, p⟩ := credentials
  cases username <;> cases password <;> simp [Settings.credentials]

/-- An operation that first puts a URL together, with query errors, and then makes its answer of the
reply is split by the network. -/
lemma isSplit_run {α β : Type} {adapter : Adapter} {operation : Except Error (Exchange α)}
    {target : Except Error Url} {prepared : Except Error β} {url : β → Url}
    {receive : β → Reply → Except Error α}
    (hoperation : operation = prepared.map fun b => ⟨adapter.get (url b), receive b⟩)
    (htarget : target = prepared.map url) (hprepared : FailsByQuery prepared)
    (hreceive : ∀ b reply, FailsBy reply.Explains (receive b reply)) (network : Get → Reply) :
    (Exchange.run network operation).IsSplit adapter target network := by
  rw [hoperation, htarget]
  cases hp : prepared with
  | error e =>
    have hquery := hprepared e hp
    refine ⟨Nat.zero_le 1, ?_, ?_, nofun, nofun, nofun⟩
    · exact iff_of_true rfl ⟨e, rfl, hquery⟩
    · intro e' _ hquery'
      exact Error.isRetryable_of_isQueryError hquery'
  | ok b =>
    have hexplains := hreceive b (network (adapter.get (url b)))
    refine ⟨Nat.le_refl 1, ?_, ?_, ?_, ?_, ?_⟩
    · refine iff_of_false (List.cons_ne_nil _ _) ?_
      rintro ⟨e, he, hquery⟩
      rw [(hexplains e he).1] at hquery
      cases hquery
    · intro e _ hquery
      exact Error.isRetryable_of_isQueryError hquery
    · intro get hget
      obtain rfl := List.mem_singleton.1 hget
      rfl
    · intro get hget credentials
      obtain rfl := List.mem_singleton.1 hget
      exact Settings.credentials_eq_some_iff
    · intro get hget e he
      obtain rfl := List.mem_singleton.1 hget
      exact hexplains e he

/-- Whatever the network does, each operation sends at most one GET, and none exactly where it fails
with a query error. The GET goes to the URL of the operation, with the credentials that are set, and
every error behind it is explained by the reply. -/
theorem run_isSplit (adapter : Adapter) (request : BridgeRequest) (network : Get → Reply) :
    (Exchange.run network adapter.checkStatus).IsSplit adapter adapter.statusUrl network ∧
    (Exchange.run network (adapter.count request)).IsSplit adapter
      (adapter.selectUrl .count request) network ∧
    (Exchange.run network (adapter.retrieve request)).IsSplit adapter
      (adapter.selectUrl .search request) network ∧
    (Exchange.run network (adapter.search request)).IsSplit adapter
      (adapter.selectUrl .search request) network := by
  refine ⟨?_, ?_, ?_, ?_⟩
  · have htarget : adapter.statusUrl = adapter.statusUrl.map id := by
      cases adapter.statusUrl <;> rfl
    exact isSplit_run adapter.checkStatus_eq htarget adapter.failsBy_statusUrl
      (fun _ => Adapter.failsBy_readStatus) network
  · exact isSplit_run (adapter.count_eq request) (adapter.selectUrl_eq .count request)
      (adapter.failsBy_prepare .count request)
      (fun _ reply => (Selection.failsBy_ofReply reply).map _) network
  · exact isSplit_run (adapter.retrieve_eq request) (adapter.selectUrl_eq .search request)
      (adapter.failsBy_prepare .search request)
      (fun prepared reply => (Selection.failsBy_ofReply reply).bind fun _ h =>
        Adapter.failsBy_singleRecord prepared.rootPath h) network
  · exact isSplit_run (adapter.search_eq request) (adapter.selectUrl_eq .search request)
      (adapter.failsBy_prepare .search request)
      (fun _ reply => (Selection.failsBy_ofReply reply).map _) network

end SearchGateway
