import SearchGateway.Json.Failure
import SearchGateway.Number.Count
import SearchGateway.QueryStyle
import SearchGateway.Url.Host

/-!
# Errors

Everything that can go wrong between a bridge query and the records it answers with. The query
errors arise while the query and the request are put together, before anything is sent; the others
arise from the answer, from the network, or from the settings.
-/

namespace SearchGateway

/-- What is wrong with a nested query. -/
inductive QueryFault where
  /-- There is no query text for the style. -/
  | blank (style : QueryStyle)
  /-- The query does not read as a JSON object. -/
  | unreadable (cause : Json.ReadError)
  /-- The value that a field is to match is an array or an object. -/
  | notScalar (field : Text)
  deriving DecidableEq, Repr

/-- What a query fault says. -/
def QueryFault.message : QueryFault → Text
  | .blank style => "the ".toList ++ style.name ++ " query was not specified or was blank".toList
  | .unreadable cause => cause.message
  | .notScalar field => "the value of the ".toList ++ field ++ " field must be a scalar".toList

/-- An error of the gateway. -/
inductive Error where
  /-- A query in curly braces does not read as JSON. -/
  | malformedEnvelope (query : Text) (cause : Json.ReadError)
  /-- An envelope declares a style that does not exist. -/
  | unknownQueryType (found : Text)
  /-- A nested query cannot be used. -/
  | malformedQuery (fragment : Text) (cause : QueryFault)
  /-- A field to match comes without a value. -/
  | missingFieldValue (field fragment : Text)
  /-- No field of a structured query gives a clause. -/
  | emptyQuery (fragment : Text)
  /-- A parameter is referenced that was not provided, or none was. -/
  | missingParameter (name : Text) (noParameters : Bool)
  /-- The request makes no URL; the text that was tried may follow. -/
  | encoding (cause : Url.Error) (tried : Option Text)
  /-- A request setting is not a count. -/
  | invalidMetadata (key value : Text) (cause : CountError)
  /-- No response came at all. -/
  | network (message : Text)
  /-- The server answered with another status than success. -/
  | httpStatus (status : Nat)
  /-- The server refused the user name and password. -/
  | unauthorized
  /-- More than one document matched where at most one was expected. -/
  | multipleResults (count : Nat)
  /-- A text does not read as what it should be; it may be the answer to a select request. -/
  | invalidResponse (toSelect : Bool) (cause : Json.ReadError)
  /-- The settings name no server. -/
  | missingUrl
  deriving DecidableEq, Repr

namespace Error

/-- The names of all query styles, as a message lists them. -/
def validStyles : Text :=
  '[' :: (Text.join ", ".toList (QueryStyle.all.map fun style => style.name.quoted) ++ [']'])

/-- What an error says. -/
def message : Error → Text
  | malformedEnvelope query cause =>
    "The bridge query (".toList ++ query ++
    ") appears to be a JSON object instead of a lucene query because it starts ".toList ++
    "and ends with curly braces, but it failed to parse as JSON: ".toList ++ cause.message
  | unknownQueryType found =>
    "The specified query type \"".toList ++ found ++ "\" is not valid. Valid options are: ".toList
    ++ validStyles
  | malformedQuery fragment cause =>
    "The JSON query value (".toList ++ fragment ++ ") did not parse successfully as JSON: ".toList
    ++ cause.message
  | missingFieldValue field fragment =>
    "The ".toList ++ field ++ " field is missing a value key in the Kinetic DSL JSON: ".toList
    ++ fragment
  | emptyQuery fragment =>
    "Unable to produce a lucene query from the following Kinetic DSL structure: ".toList
    ++ fragment
  | missingParameter name noParameters =>
    "Unable to parse qualification, the '".toList ++ name ++
    "' parameter was referenced but ".toList ++
    (if noParameters then "no parameters were provided".toList else "not provided".toList)
  | encoding cause tried =>
    "There was a problem URL encoding the bridge request: ".toList ++ cause.message ++
    match tried with
    | none => []
    | some text => " (".toList ++ text ++ ")".toList
  | invalidMetadata key value cause =>
    "Invalid request metadata ".toList ++ key ++ "=".toList ++ value.quoted ++ ": ".toList
    ++ cause.message
  | network message => "Network error: ".toList ++ message
  | httpStatus status =>
    "The Solr server returned a HTTP status code of ".toList ++ Text.ofNat status
    ++ ", 200 was expected".toList
  | unauthorized =>
    "Unauthorized: the configured username/password combination is not valid".toList
  | multipleResults count =>
    "Multiple results (".toList ++ Text.ofNat count
    ++ ") matched an expected single match query".toList
  | invalidResponse toSelect cause =>
    "Invalid Solr response: ".toList ++
    (if toSelect then "unexpected select response: ".toList else []) ++ cause.message
  | missingUrl => "Configuration error: the 'Solr URL' property is required".toList

/-- Whether an error arose while the query or the request was put together. -/
def isQueryError : Error → Bool
  | malformedEnvelope .. | unknownQueryType .. | malformedQuery .. | missingFieldValue ..
  | emptyQuery .. | missingParameter .. | encoding .. | invalidMetadata .. => true
  | network .. | httpStatus .. | unauthorized | multipleResults .. | invalidResponse ..
  | missingUrl => false

/-- Whether another attempt may succeed. -/
def isRetryable : Error → Bool
  | network .. => true
  | httpStatus status => 500 ≤ status || status == 429
  | _ => false

end Error

end SearchGateway
