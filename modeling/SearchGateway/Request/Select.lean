import SearchGateway.Query.Basic
import SearchGateway.Request.Metadata
import SearchGateway.Url.Basic

/-!
# Select requests

The parameters of a select request, in the order in which they are sent, and the URL that carries
them. A count asks for no rows and sends nothing but the query; a search sends page, fields and
order as well.
-/

namespace SearchGateway

/-- What a request asks for. -/
inductive Method where
  /-- The number of matching documents only. -/
  | count
  /-- The matching documents. -/
  | search
  deriving DecidableEq, Repr

namespace Method

/-- The name of a method. -/
def name : Method → Text
  | .count => "count".toList
  | .search => "search".toList

/-- The method with a given name, in any case of its letters. No letter outside ASCII becomes one of
these letters in small form, so ASCII letters are all that matter. -/
def ofName? (name : Text) : Option Method :=
  [count, search].find? fun method => method.name.equalsIgnoringCase name

end Method

/-- A field name without the structural head that some bridges put in front of it. -/
def stripStructure (field : Text) : Text :=
  (field.after? "_source.".toList).getD field

/-- A sort key as a request sends it. -/
def SortKey.parameterText (key : SortKey) : Text :=
  stripStructure key.field ++ ':' :: key.direction.name

/-- The parameters of a select request with their values unencoded, in the order of sending. -/
structure SelectRequest where
  parameters : List (Text × Text)
  deriving DecidableEq, Repr

namespace SelectRequest

/-- The text of a query, or that of the query that matches everything if it is blank. -/
def queryText (query : LuceneQuery) : Text :=
  if query.isBlank then "*:*".toList else query.text

/-- The parameters for the page, the fields and the order. -/
def pageParameters (method : Method) (metadata : Metadata) : List (Text × Text) :=
  match method with
  | .count => [("rows".toList, "0".toList)]
  | .search =>
    [("rows".toList, Text.ofNat metadata.effectivePageSize),
     ("start".toList, Text.ofNat metadata.effectiveOffset)] ++
    (if metadata.fields.isEmpty then []
     else [("fl".toList, Text.join [','] (metadata.fields.map stripStructure))]) ++
    (if metadata.order.isEmpty then []
     else [("sort".toList, Text.join [','] (metadata.order.map SortKey.parameterText))])

/-- The request for a query under given settings. -/
def build (method : Method) (query : LuceneQuery) (metadata : Metadata) : SelectRequest :=
  ⟨("q".toList, queryText query) :: pageParameters method metadata ++
    [("wt".toList, "json".toList)]⟩

/-- The value of a parameter. -/
def get? (request : SelectRequest) (name : Text) : Option Text :=
  Entries.get? name request.parameters

/-- Whether a parameter is sent. -/
def contains (request : SelectRequest) (name : Text) : Bool :=
  (request.get? name).isSome

/-- A parameter with its value encoded. -/
def parameterText (parameter : Text × Text) : Text :=
  parameter.1 ++ '=' :: Percent.encodeValue parameter.2

/-- The query part of the URL. -/
def queryString (request : SelectRequest) : Text :=
  Text.join ['&'] (request.parameters.map parameterText)

/-- The text of the URL for a core under a base, before it is read as one. -/
def urlText (request : SelectRequest) (base core : Text) : Text :=
  base.trimEndWhere (· == '/') ++ '/' :: (Percent.encodeValue core ++ "/select?".toList ++
    request.queryString)

/-- The URL of the request to a core under a base. -/
def url (request : SelectRequest) (base core : Text) : Except Error Url :=
  let text := request.urlText base core
  match Url.parse text with
  | .ok url => .ok url
  | .error cause => .error (.encoding cause (some text))

end SelectRequest

end SearchGateway
