import SearchGateway.Query.Envelope
import SearchGateway.Template.Basic

/-!
# Structured queries

A structured query is a JSON object from field names to the values they are to match. Each field
gives a clause `field:value`, with wildcards as its matcher asks for, and an operator joins the
clauses. Parameters are put in before the object is read, and each value is escaped once its field
is known, so no value reaches beyond its own clause.
-/

namespace SearchGateway

/-- How a field matches its value. -/
inductive Matcher where
  | exact
  | startsWith
  | endsWith
  | like
  deriving DecidableEq, Repr

namespace Matcher

/-- The matcher with a given name. -/
def ofName? (name : Text) : Option Matcher :=
  if name = "exact".toList then some .exact
  else if name = "startsWith".toList then some .startsWith
  else if name = "endsWith".toList then some .endsWith
  else if name = "like".toList then some .like
  else none

/-- The wildcard before the value. -/
def wildcardBefore : Matcher → Text
  | .endsWith | .like => ['*']
  | .exact | .startsWith => []

/-- The wildcard behind the value. -/
def wildcardBehind : Matcher → Text
  | .startsWith | .like => ['*']
  | .exact | .endsWith => []

/-- The clause of a field and a value; an empty value has none. -/
def clause (matcher : Matcher) (field value : Text) : Option Text :=
  (Lucene.escape? value).map fun escaped =>
    field ++ ':' :: (matcher.wildcardBefore ++ escaped ++ matcher.wildcardBehind)

end Matcher

/-- A field of a structured query with the value it is to match. -/
structure FieldMatch where
  field : Text
  matcher : Matcher
  value : Text
  deriving DecidableEq, Repr

namespace FieldMatch

/-- The text of a scalar value; null has none. -/
def scalarText? : Json → Option Text
  | .string s => some s
  | .number n => some n.text
  | .bool b => some (boolText b)
  | _ => none

/-- Reads what a field is to match. An unknown matcher counts as an exact one. -/
def read (fragment field : Text) (spec : Json) : Except Error FieldMatch :=
  match (spec.asObject?.bind (Entries.get? "value".toList)) with
  | none | some .null => .error (.missingFieldValue field fragment)
  | some json =>
    match scalarText? json with
    | none => .error (.malformedQuery fragment (.notScalar field))
    | some value =>
      let matcher := ((spec.get? "matcher".toList).bind Json.asString?).bind Matcher.ofName?
      .ok ⟨field, matcher.getD .exact, value⟩

/-- The clause of a field and its value. -/
def clause (m : FieldMatch) : Option Text :=
  m.matcher.clause m.field m.value

end FieldMatch

namespace Kinetic

/-- The options of a structured query. -/
structure Options where
  /-- The text in front of the clauses. -/
  lead : Option Text := none
  /-- The fields that may take part, unless all may. -/
  whitelist : Option (List Text) := none
  /-- The operator between the clauses. -/
  operator : Option Text := none

namespace Options

/-- The options that an envelope gives. -/
def ofEnvelope (envelope : Envelope) : Options :=
  ⟨envelope.lead, envelope.whitelist, some envelope.operator⟩

/-- Whether a field may take part. -/
def allows (options : Options) (field : Text) : Bool :=
  match options.whitelist with
  | none => true
  | some fields => fields.contains field

end Options

/-- The clauses of the allowed fields, in their order. -/
def clauses (options : Options) (fragment : Text) : Entries Json → Except Error (List Text)
  | [] => .ok []
  | (field, spec) :: rest =>
    if options.allows field then do
      let m ← FieldMatch.read fragment field spec
      let tail ← clauses options fragment rest
      return m.clause.toList ++ tail
    else clauses options fragment rest

/-- The Lucene query of a structured query whose parameters are in place. -/
def ofFields (options : Options) (fragment : Text) (fields : Entries Json) : Except Error Text := do
  match ← clauses options fragment fields with
  | [] => throw (.emptyQuery fragment)
  | c :: cs =>
    let separator := ' ' :: (operatorOr options.operator ++ [' '])
    return options.lead.getD [] ++ Text.join separator (c :: cs)

/-- The Lucene query of a structured query. -/
def build (query : Text) (options : Options) (parameters : Option Parameters) :
    Except Error Text := do
  if query.isBlank then throw (.malformedQuery query (.blank .kinetic))
  let fragment ← Template.substitute (Template.normalize query) parameters .verbatim
  match Json.parseObject fragment with
  | .error cause => throw (.malformedQuery fragment (.unreadable cause))
  | .ok fields => ofFields options fragment fields

/-- The Lucene query of an envelope that declares a structured query. -/
def interpret (envelope : Envelope) (parameters : Option Parameters) : Except Error Text :=
  build (envelope.query.getD []) (.ofEnvelope envelope) parameters

end Kinetic

end SearchGateway
