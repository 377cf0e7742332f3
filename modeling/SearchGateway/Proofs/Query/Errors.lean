import SearchGateway.Proofs.Error
import SearchGateway.Query.Basic

/-!
# Errors of the translation

Wherever the translation of a bridge query fails, from its tags over its envelope to its clauses, it
fails with a query error (`BridgeQuery.failsBy_read`, `BridgeQuery.failsBy_toLucene`).
-/

namespace SearchGateway

/-- Whether a computation fails with query errors only. -/
abbrev FailsByQuery {α : Type} (x : Except Error α) : Prop :=
  FailsBy (fun e => e.isQueryError = true) x

namespace Template

/-- A parameter that is not there is a query error. -/
lemma failsBy_valueOf (parameters : Option Parameters) (name : Text) :
    FailsByQuery (valueOf parameters name) := by
  unfold valueOf
  split
  · exact .error rfl
  · split
    · exact .error rfl
    · exact .ok _

/-- Pieces fail like the texts for their references. -/
lemma failsBy_expand {value : Text → Except Error Text} (h : ∀ name, FailsByQuery (value name))
    (ps : List Piece) : FailsByQuery (expand value ps) := by
  induction ps with
  | nil => exact .ok _
  | cons p ps ih =>
    cases p with
    | literal c =>
      unfold expand
      exact ih.bind fun tail _ => .ok _
    | reference name =>
      unfold expand
      exact (h name).bind fun head _ => ih.bind fun tail _ => .ok _

/-- Substitution fails with query errors. -/
lemma failsBy_substitute (s : Text) (parameters : Option Parameters) (mode : Mode) :
    FailsByQuery (substitute s parameters mode) := by
  unfold substitute
  exact failsBy_expand (fun name => (failsBy_valueOf parameters name).map _) _

end Template

/-- Whether an error tells of the text of a structured query whose parameters are in place. -/
def Error.TellsOf (fragment : Text) : Error → Prop
  | malformedQuery text _ | missingFieldValue _ text | emptyQuery text => text = fragment
  | _ => False

/-- An error that tells of a structured query is a query error. -/
lemma Error.TellsOf.isQueryError {fragment : Text} {e : Error} (h : e.TellsOf fragment) :
    e.isQueryError = true := by
  cases e with
  | malformedQuery | missingFieldValue | emptyQuery => rfl
  | _ => cases h

/-- What a field is to match fails to be read with an error that tells of the query. -/
lemma FieldMatch.failsBy_read (fragment field : Text) (spec : Json) :
    FailsBy (Error.TellsOf fragment) (FieldMatch.read fragment field spec) := by
  unfold FieldMatch.read
  split
  · exact .error rfl
  · exact .error rfl
  · split
    · exact .error rfl
    · exact .ok _

namespace Kinetic

/-- Clauses fail with errors that tell of the query. -/
lemma failsBy_clauses (options : Options) (fragment : Text) (fields : Entries Json) :
    FailsBy (Error.TellsOf fragment) (clauses options fragment fields) := by
  induction fields with
  | nil => exact .ok _
  | cons entry fields ih =>
    obtain ⟨field, spec⟩ := entry
    unfold clauses
    split
    · exact (FieldMatch.failsBy_read fragment field spec).bind fun m _ =>
        ih.bind fun tail _ => .ok _
    · exact ih

/-- A structured query fails with errors that tell of it once its parameters are in place. -/
lemma failsBy_ofFields (options : Options) (fragment : Text) (fields : Entries Json) :
    FailsBy (Error.TellsOf fragment) (ofFields options fragment fields) := by
  unfold ofFields
  refine (failsBy_clauses options fragment fields).bind fun cs _ => ?_
  cases cs with
  | nil => exact .error rfl
  | cons c cs => exact .ok _

/-- A structured query fails with query errors. -/
lemma failsBy_build (query : Text) (options : Options) (parameters : Option Parameters) :
    FailsByQuery (build query options parameters) := by
  unfold build
  split
  · exact .error rfl
  · refine (Template.failsBy_substitute _ parameters .verbatim).bind fun fragment _ => ?_
    cases Json.parseObject fragment with
    | error cause => exact .error rfl
    | ok fields =>
      exact (failsBy_ofFields options fragment fields).mono fun _ => Error.TellsOf.isQueryError

end Kinetic

/-- A query fragment fails with query errors. -/
lemma Fragment.failsBy_interpret (envelope : Envelope) (parameters : Option Parameters) :
    FailsByQuery (Fragment.interpret envelope parameters) := by
  unfold Fragment.interpret
  split
  · exact .error rfl
  · exact Template.failsBy_substitute _ parameters _

/-- Every style fails with query errors. -/
lemma QueryStyle.failsBy_interpret (style : QueryStyle) (envelope : Envelope)
    (parameters : Option Parameters) : FailsByQuery (style.interpret envelope parameters) := by
  cases style with
  | kinetic => exact Kinetic.failsBy_build _ _ parameters
  | solr => exact Fragment.failsBy_interpret envelope parameters

/-- An envelope without a style that exists is a query error. -/
lemma Envelope.failsBy_style (envelope : Envelope) : FailsByQuery envelope.style := by
  unfold Envelope.style
  simp only
  split
  · exact .ok _
  · exact .error rfl

namespace BridgeQuery

/-- A bridge query fails to be read with query errors. -/
lemma failsBy_read (raw : Text) : FailsByQuery (read raw) := by
  unfold read detect Envelope.read
  split
  · split
    · exact .ok _
    · exact .error rfl
  · exact .ok _

/-- A bridge query fails to become a Lucene query with query errors. -/
lemma failsBy_toLucene (query : BridgeQuery) (parameters : Option Parameters) :
    FailsByQuery (query.toLucene parameters) := by
  cases query with
  | plain template =>
    exact (Template.failsBy_substitute template parameters _).bind fun text _ => .ok _
  | envelope e =>
    exact e.failsBy_style.bind fun style _ =>
      (style.failsBy_interpret e parameters).bind fun text _ => .ok _

end BridgeQuery

end SearchGateway
