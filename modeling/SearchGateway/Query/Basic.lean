import SearchGateway.Query.Kinetic

/-!
# Bridge queries

A bridge query is a template for a Lucene query, or an envelope. Which of the two it is shows once
its tags are in their canonical form; text in the shape of an envelope has to read as one. From
there, parameters turn the query into Lucene syntax.
-/

namespace SearchGateway

namespace Fragment

/-- Puts parameters into a query fragment that is passed on as it is. In a fragment of JSON, values
are escaped for the inside of its strings as well. -/
def build (isJson : Bool) (fragment : Text) (parameters : Option Parameters) : Except Error Text :=
  Template.substitute fragment parameters (if isJson then .luceneInJson else .lucene)

/-- The Lucene query of an envelope that declares a query fragment. -/
def interpret (envelope : Envelope) (parameters : Option Parameters) : Except Error Text :=
  match envelope.query.filter fun query => !query.isBlank with
  | none => .error (.malformedQuery [] (.blank .solr))
  | some fragment => build true fragment parameters

end Fragment

/-- The Lucene query of an envelope under a given style. -/
def QueryStyle.interpret (style : QueryStyle) (envelope : Envelope)
    (parameters : Option Parameters) : Except Error Text :=
  match style with
  | .kinetic => Kinetic.interpret envelope parameters
  | .solr => Fragment.interpret envelope parameters

/-- A Lucene query. -/
structure LuceneQuery where
  text : Text
  deriving DecidableEq, Repr

/-- Whether a Lucene query holds nothing but white space. -/
def LuceneQuery.isBlank (query : LuceneQuery) : Bool :=
  query.text.isBlank

/-- A bridge query whose kind is known. -/
inductive BridgeQuery where
  /-- A template for a Lucene query. -/
  | plain (template : Text)
  /-- An envelope. -/
  | envelope (envelope : Envelope)

namespace BridgeQuery

/-- Tells the kind of a query whose tags are in their canonical form. -/
def detect (normalized : Text) : Except Error BridgeQuery :=
  if Envelope.hasShape normalized then (Envelope.read normalized).map .envelope
  else .ok (.plain normalized)

/-- Reads a bridge query. -/
def read (raw : Text) : Except Error BridgeQuery :=
  detect (Template.normalize raw)

/-- The Lucene query that a bridge query gives with the given parameters. -/
def toLucene (query : BridgeQuery) (parameters : Option Parameters) : Except Error LuceneQuery :=
  match query with
  | .plain template => do
    let text ← Fragment.build false template parameters
    return ⟨text⟩
  | .envelope e => do
    let style ← e.style
    let text ← style.interpret e parameters
    return ⟨text⟩

/-- The path to the part of each document that holds the records. -/
def rootPath : BridgeQuery → Option Text
  | .plain _ => none
  | .envelope e => e.rootPath

end BridgeQuery

/-- The Lucene query of the text of a bridge query. -/
def parse (raw : Text) (parameters : Option Parameters) : Except Error LuceneQuery := do
  let query ← BridgeQuery.read raw
  query.toLucene parameters

/-- The root path that the text of a bridge query declares. -/
def rootPath (raw : Text) : Except Error (Option Text) := do
  let query ← BridgeQuery.read raw
  return query.rootPath

end SearchGateway
