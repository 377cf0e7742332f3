import SearchGateway.Record
import SearchGateway.Request.Select
import SearchGateway.Settings

/-!
# The adapter

Answers bridge requests from a search server. Each operation first puts its one GET together, or
fails without sending anything; what comes back is then turned into the answer. The network is a
function from GETs to replies, so an operation is a value that can be looked at before it runs.
-/

namespace SearchGateway

/-- A request as a bridge hands it over. -/
structure BridgeRequest where
  /-- The core or collection to ask. -/
  core : Text := []
  /-- The bridge query. -/
  query : Text := []
  parameters : Option Parameters := none
  /-- The raw metadata. -/
  metadata : Entries Text := []
  /-- The fields to return; none means all. -/
  fields : List Text := []

/-- A GET to the server. -/
structure Get where
  url : Url
  credentials : Option Credentials
  deriving DecidableEq, Repr

/-- What comes back on a GET. -/
inductive Reply where
  | response (status : Nat) (body : Text)
  /-- There was no response, for the given reason. -/
  | failure (reason : Text)
  deriving DecidableEq, Repr

/-- Whether a status says that the request succeeded. -/
def isSuccess (status : Nat) : Bool :=
  200 ≤ status && status < 300

/-- A GET that is ready to be sent, and what its reply is turned into. -/
structure Exchange (α : Type) where
  get : Get
  receive : Reply → Except Error α

/-- What an operation answered, and the GETs it sent. -/
structure Outcome (α : Type) where
  answer : Except Error α
  sent : List Get

/-- Runs an operation on a network. -/
def Exchange.run {α : Type} (network : Get → Reply) (operation : Except Error (Exchange α)) :
    Outcome α :=
  match operation with
  | .error e => ⟨.error e, []⟩
  | .ok exchange => ⟨exchange.receive (network exchange.get), [exchange.get]⟩

/-- What a select response holds. -/
structure Selection where
  /-- The number of matching documents. -/
  found : Nat
  /-- The documents of the page. -/
  documents : List Json

namespace Selection

/-- How a selection stands in JSON. -/
def layout : Json.Layout Selection where
  name := "SelectBody".toList
  initial := ⟨0, []⟩
  fields := [
    ⟨"numFound".toList, true, fun _ selection s => do
      let (found, s) ← Json.readCountValue s
      return ({ selection with found }, s)⟩,
    ⟨"docs".toList, false, fun depth selection s => do
      let (documents, s) ← Json.readListOf Json.readValue depth s
      return ({ selection with documents }, s)⟩]

/-- How the response around a selection stands in JSON. -/
def responseLayout : Json.Layout Selection where
  name := "SelectResponse".toList
  initial := layout.initial
  fields := [⟨"response".toList, true, fun depth _ s => layout.read depth s⟩]

/-- Reads the selection from a reply. -/
def ofReply : Reply → Except Error Selection
  | .failure reason => .error (.network reason)
  | .response status body =>
    if isSuccess status then
      match responseLayout.parse body with
      | .ok selection => .ok selection
      | .error cause => .error (.invalidResponse true cause)
    else .error (.httpStatus status)

end Selection

/-- A select request that is ready to be sent, and where its documents hold their records. -/
structure PreparedSelect where
  url : Url
  rootPath : Option Text

/-- An adapter for a server. -/
structure Adapter where
  settings : Settings

namespace Adapter

/-- The name of the adapter. -/
def name : Text := "Solr Bridge".toList

/-- The version of the adapter. -/
def version : Text := "0.1.0".toList

/-- The number of seconds after which a request is given up. -/
def timeoutSeconds : Nat := 30

/-- How the adapter names itself to the server. -/
def userAgent : Text := "solr-bridge/0.1".toList

/-- Where the server tells the status of its cores. -/
def statusPath : Text := "admin/cores?action=STATUS".toList

/-- A description that does not show the password. -/
def description (adapter : Adapter) : Text :=
  "SolrAdapter \x7b config: ".toList ++ adapter.settings.description ++ " \x7d".toList

/-- The GET of a URL. -/
def get (adapter : Adapter) (url : Url) : Get :=
  ⟨url, adapter.settings.credentials⟩

/-- Reads from a reply whether the server is there and accepts the credentials. -/
def readStatus : Reply → Except Error Unit
  | .failure reason => .error (.network reason)
  | .response status _ =>
    if status = 401 then .error .unauthorized
    else if isSuccess status then .ok ()
    else .error (.httpStatus status)

/-- The text of the URL under which the server tells the status of its cores. -/
def statusText (adapter : Adapter) : Text :=
  adapter.settings.url ++ '/' :: statusPath

/-- The URL under which the server tells the status of its cores. -/
def statusUrl (adapter : Adapter) : Except Error Url :=
  match Url.parse adapter.statusText with
  | .ok url => .ok url
  | .error cause => .error (.encoding cause none)

/-- Checks that the server is there and accepts the credentials. -/
def checkStatus (adapter : Adapter) : Except Error (Exchange Unit) := do
  let url ← adapter.statusUrl
  return ⟨adapter.get url, readStatus⟩

/-- Puts a select request together. -/
def prepare (adapter : Adapter) (method : Method) (request : BridgeRequest) :
    Except Error PreparedSelect := do
  let query ← BridgeQuery.read request.query
  let lucene ← query.toLucene request.parameters
  let metadata ← Metadata.ofRaw request.metadata request.fields
  let url ← (SelectRequest.build method lucene metadata).url adapter.settings.url request.core
  return ⟨url, query.rootPath⟩

/-- The select URL of a request. -/
def selectUrl (adapter : Adapter) (method : Method) (request : BridgeRequest) : Except Error Url := do
  let prepared ← adapter.prepare method request
  return prepared.url

/-- The number of documents that match a request. -/
def count (adapter : Adapter) (request : BridgeRequest) : Except Error (Exchange Nat) := do
  let prepared ← adapter.prepare .count request
  return ⟨adapter.get prepared.url, fun reply => (Selection.ofReply reply).map Selection.found⟩

/-- The single record of a selection, if there is any. -/
def singleRecord (rootPath : Option Text) (selection : Selection) : Except Error (Option Record) :=
  match selection.found with
  | 0 => .ok none
  | 1 => .ok (Record.ofDocuments selection.documents rootPath).head?
  | n => .error (.multipleResults n)

/-- The single record that matches a request, if there is any. -/
def retrieve (adapter : Adapter) (request : BridgeRequest) :
    Except Error (Exchange (Option Record)) := do
  let prepared ← adapter.prepare .search request
  return ⟨adapter.get prepared.url, fun reply => do
    let selection ← Selection.ofReply reply
    singleRecord prepared.rootPath selection⟩

/-- All records on the requested page. -/
def search (adapter : Adapter) (request : BridgeRequest) :
    Except Error (Exchange RecordList) := do
  let prepared ← adapter.prepare .search request
  return ⟨adapter.get prepared.url, fun reply => do
    let selection ← Selection.ofReply reply
    return .ofRecords (Record.ofDocuments selection.documents prepared.rootPath) request.fields⟩

end Adapter

end SearchGateway
