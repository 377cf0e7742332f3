import SearchGateway.Proofs.Adapter.Exchange
import SearchGateway.Proofs.Template.Demand

/-!
# What is read of the parameters

A translation looks parameters up by their names and asks for nothing else. So parameters that give
every name the same value, or the same error, make the same request of a query, and each operation
of the adapter is the same with them (`Adapter.search_lookup` and its siblings).
-/

namespace SearchGateway

/-- Whether two sets of parameters answer every name alike, also where there are none. -/
def SameLookup (parameters parameters' : Option Parameters) : Prop :=
  ∀ name, Template.valueOf parameters name = Template.valueOf parameters' name

namespace SameLookup

variable {parameters parameters' : Option Parameters}

/-- Substitution reads the values of names only. -/
lemma substitute_eq (h : SameLookup parameters parameters') (s : Text) (mode : Template.Mode) :
    Template.substitute s parameters mode = Template.substitute s parameters' mode :=
  Template.expand_congr fun name _ => congrArg (Except.map mode.apply) (h name)

/-- A structured query reads the values of names only. -/
lemma build_eq (h : SameLookup parameters parameters') (query : Text) (options : Kinetic.Options) :
    Kinetic.build query options parameters = Kinetic.build query options parameters' := by
  unfold Kinetic.build
  rw [h.substitute_eq]

/-- Every style reads the values of names only. -/
lemma interpret_eq (h : SameLookup parameters parameters') (style : QueryStyle) (e : Envelope) :
    style.interpret e parameters = style.interpret e parameters' := by
  cases style with
  | kinetic => exact h.build_eq _ _
  | solr =>
    unfold QueryStyle.interpret Fragment.interpret Fragment.build
    simp only [h.substitute_eq]

/-- The translation of a query reads the values of names only. -/
lemma toLucene_eq (h : SameLookup parameters parameters') (query : BridgeQuery) :
    query.toLucene parameters = query.toLucene parameters' := by
  cases query with
  | plain template =>
    unfold BridgeQuery.toLucene Fragment.build
    simp only [h.substitute_eq]
  | envelope e =>
    unfold BridgeQuery.toLucene
    simp only [h.interpret_eq]

end SameLookup

namespace Adapter

section Lookup

variable (adapter : Adapter) {request : BridgeRequest} {parameters : Option Parameters}

/-- A request is put together of the values of names only. -/
lemma prepare_lookup (h : SameLookup request.parameters parameters) (method : Method) :
    adapter.prepare method { request with parameters } = adapter.prepare method request := by
  unfold prepare
  simp only [h.toLucene_eq]

/-- The select URL is made of the values of names only. -/
lemma selectUrl_lookup (h : SameLookup request.parameters parameters) (method : Method) :
    adapter.selectUrl method { request with parameters } = adapter.selectUrl method request := by
  rw [selectUrl_eq, selectUrl_eq, adapter.prepare_lookup h]

/-- A count asks for the values of names only. -/
lemma count_lookup (h : SameLookup request.parameters parameters) :
    adapter.count { request with parameters } = adapter.count request := by
  rw [count_eq, count_eq, adapter.prepare_lookup h]

/-- A retrieval asks for the values of names only. -/
lemma retrieve_lookup (h : SameLookup request.parameters parameters) :
    adapter.retrieve { request with parameters } = adapter.retrieve request := by
  rw [retrieve_eq, retrieve_eq, adapter.prepare_lookup h]

/-- A search asks for the values of names only. -/
lemma search_lookup (h : SameLookup request.parameters parameters) :
    adapter.search { request with parameters } = adapter.search request := by
  rw [search_eq, search_eq, adapter.prepare_lookup h]

end Lookup

end Adapter

/-- Parameters that are set in another order answer alike, as long as the values of each name keep
their order; and there are none exactly where none are set. -/
lemma sameLookup_ofList {entries entries' : List (Text × Text)}
    (h : Entries.SameByKey entries entries') :
    SameLookup (if entries.isEmpty then none else some (.ofList entries))
      (if entries'.isEmpty then none else some (.ofList entries')) := by
  intro name
  rw [h.isEmpty_eq]
  split
  · rfl
  · unfold Template.valueOf
    simp only [h.get?_ofList_eq]

end SearchGateway
