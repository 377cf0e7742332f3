import SearchGateway.Error
import SearchGateway.Json.Reader

/-!
# Query envelopes

A bridge query whose text starts and ends with curly braces is an envelope: a JSON object that
declares a query style and holds the nested query and its options. A key with a value of another
type than the expected one counts as absent.
-/

namespace SearchGateway

/-- The text of an operator that joins clauses, `AND` unless one is given. -/
def operatorOr (given : Option Text) : Text :=
  match given.map Text.trim with
  | none => "AND".toList
  | some [] => "AND".toList
  | some operator => operator

/-- A query envelope, which is a JSON object. -/
structure Envelope where
  fields : Entries Json

namespace Envelope

/-- The text under a key. -/
def string? (envelope : Envelope) (key : String) : Option Text :=
  (envelope.fields.get? key.toList).bind Json.asString?

/-- The name of the declared style, as written. -/
def declaredType (envelope : Envelope) : Option Text :=
  envelope.string? "type"

/-- The declared style. -/
def style (envelope : Envelope) : Except Error QueryStyle :=
  let declared := envelope.declaredType.getD []
  match QueryStyle.ofName? declared with
  | some style => .ok style
  | none => .error (.unknownQueryType declared)

/-- The text of the nested query; a nested object gives its compact text. -/
def query (envelope : Envelope) : Option Text :=
  match envelope.fields.get? "query".toList with
  | some (.string s) => some s
  | some (.object members) => some (Json.object members).text
  | _ => none

/-- The operator that joins the clauses of a structured query. -/
def operator (envelope : Envelope) : Text :=
  operatorOr (envelope.string? "concatenatingOperator")

/-- The text in front of the clauses of a structured query. -/
def lead (envelope : Envelope) : Option Text :=
  envelope.string? "queryPrefix"

/-- The fields that may take part in a structured query, unless all may. -/
def whitelist (envelope : Envelope) : Option (List Text) :=
  ((envelope.fields.get? "whitelistedFields".toList).bind Json.asArray?).map
    (List.filterMap Json.asString?)

/-- The path to the part of each document that holds the records. -/
def rootPath (envelope : Envelope) : Option Text :=
  (envelope.string? "jsonRootPath").filter fun path => !path.isBlank

/-- Whether a query has the shape of an envelope. -/
def hasShape (query : Text) : Bool :=
  query.trim.head? == some '{' && query.trim.getLast? == some '}'

/-- Reads an envelope. -/
def read (query : Text) : Except Error Envelope :=
  match Json.parseObject query.trim with
  | .ok fields => .ok ⟨fields⟩
  | .error cause => .error (.malformedEnvelope query cause)

end Envelope

end SearchGateway
