import SearchGateway.Proofs.Query.Fragment
import SearchGateway.Proofs.Query.Kinetic
import SearchGateway.Proofs.Text.Pieces
import SearchGateway.Request.Select

/-!
# Queries that vanish

A blank query is sent as the one that matches everything. A structured query is never blank, since
each of its clauses has a colon. A query fragment is looked at before its parameters are put in, so
it becomes blank where all that it has is white space and tags of empty values, and nowhere else
(`isBlank_parse_envelope_iff`).
-/

namespace SearchGateway

/-- What is white space once it is escaped was white space before. -/
lemma Json.isBlank_of_isBlank_escape {s : Text} (h : (Json.escape s).isBlank = true) :
    s.isBlank = true := by
  refine List.all_eq_true.2 fun c hc => ?_
  have hblank : ∀ d ∈ Json.escapeChar c, SearchGateway.isBlank d = true := fun d hd =>
    List.all_eq_true.1 h d (List.mem_flatMap.2 ⟨c, hc, hd⟩)
  obtain ⟨l, he, _⟩ | ⟨_, he⟩ | ⟨_, he⟩ := Json.escapeChar_cases c
  · exact absurd (hblank '\\' (by simp [he])) (by decide)
  · exact absurd (hblank '\\' (by simp [he])) (by decide)
  · exact hblank c (by simp [he])

/-- Only the empty value is white space once it is escaped. -/
lemma Lucene.eq_nil_of_isBlank_escape {v : Text} (h : (Lucene.escape v).isBlank = true) :
    v = [] := by
  have hblank := List.all_eq_true.1 h
  have hbackslash : '\\' ∉ Lucene.escape v := fun hm => absurd (hblank _ hm) (by decide)
  -- All characters of the escaped value are bare, and no bare one is white space.
  have hskeleton := Lucene.skeleton_escape v
  have hfilter : (Lucene.escape v).filter Lucene.needsEscape = Lucene.escape v :=
    List.filter_eq_self.2 fun c hc => by simp [Lucene.needsEscape, hblank c hc]
  rw [Lucene.skeleton_of_no_backslash hbackslash, hfilter] at hskeleton
  have hunescape := Lucene.unescape_escape v
  rw [hskeleton] at hunescape
  exact hunescape.symm

namespace Template

/-- Whether a piece leaves nothing but white space, once a value has taken its place. -/
def Piece.Vanishes (parameters : Option Parameters) : Piece → Prop
  | .literal c => isBlank c = true
  | .reference name => valueOf parameters name = .ok []

/-- A value that is escaped twice is white space exactly where there is none. -/
lemma isBlank_apply_iff {v : Text} : (Mode.luceneInJson.apply v).isBlank = true ↔ v = [] := by
  constructor
  · intro h
    exact Lucene.eq_nil_of_isBlank_escape (Json.isBlank_of_isBlank_escape h)
  · rintro rfl
    rfl

/-- The escaped value of a parameter is white space exactly where the value is empty. -/
lemma isBlank_iff_of_map_valueOf {parameters : Option Parameters} {name head : Text}
    (h : (valueOf parameters name).map Mode.luceneInJson.apply = .ok head) :
    head.isBlank = true ↔ valueOf parameters name = .ok [] := by
  cases hv : valueOf parameters name with
  | error e =>
    rw [hv] at h
    cases h
  | ok v =>
    rw [hv] at h
    cases h
    rw [isBlank_apply_iff, Except.ok.injEq]

/-- Substitution gives white space exactly where all pieces vanish. -/
lemma isBlank_substitute_iff {s t : Text} {parameters : Option Parameters}
    (h : substitute s parameters .luceneInJson = .ok t) :
    t.isBlank = true ↔ ∀ p ∈ pieces s, p.Vanishes parameters := by
  unfold substitute at h
  generalize pieces s = ps at h ⊢
  induction ps generalizing t with
  | nil =>
    cases h
    exact iff_of_true rfl nofun
  | cons p ps ih =>
    rw [List.forall_mem_cons]
    cases p with
    | literal c =>
      unfold expand at h
      obtain ⟨tail, htail, h⟩ := bind_eq_ok.1 h
      cases h
      rw [← ih htail]
      exact Bool.and_eq_true_iff
    | reference name =>
      unfold expand at h
      obtain ⟨head, hhead, h⟩ := bind_eq_ok.1 h
      obtain ⟨tail, htail, h⟩ := bind_eq_ok.1 h
      cases h
      have hvanishes : head.isBlank = true ↔ (Piece.reference name).Vanishes parameters :=
        isBlank_iff_of_map_valueOf hhead
      rw [← ih htail, ← hvanishes, ← Bool.and_eq_true_iff]
      exact iff_of_eq (congrArg (· = true) List.all_append)

end Template

namespace Kinetic

variable {options : Options} {fragment : Text}

/-- Every clause has a colon. -/
lemma colon_mem_of_clauses {fields : Entries Json} {cs : List Text}
    (h : clauses options fragment fields = .ok cs) : ∀ c ∈ cs, ':' ∈ c := by
  obtain ⟨-, rfl⟩ := clauses_eq_ok_iff.1 h
  intro c hc
  obtain ⟨entry, _, hclause⟩ := List.mem_filterMap.1 hc
  obtain ⟨v, _, hclause⟩ := Option.bind_eq_some_iff.1 hclause
  obtain ⟨escaped, _, rfl⟩ := Option.map_eq_some_iff.1 hclause
  exact List.mem_append_right _ (.head _)

/-- A structured query is not blank. -/
lemma isBlank_of_build {query r : Text} {parameters : Option Parameters}
    (h : build query options parameters = .ok r) : r.isBlank = false := by
  obtain ⟨_, fragment, fields, _, _, hfields⟩ := build_eq_ok.1 h
  obtain ⟨cs, hcs, hne, rfl⟩ := ofFields_eq_ok.1 hfields
  obtain ⟨c, cs, rfl⟩ := List.exists_cons_of_ne_nil hne
  have hcolon := colon_mem_of_clauses hcs c (.head _)
  exact Text.isBlank_eq_false_of_mem
    (List.mem_append_right _ (Text.subset_join (.head _) hcolon)) (by decide)

end Kinetic

/-- Whether an envelope gives nothing but white space: it carries a query fragment all of whose
pieces vanish. -/
def Envelope.Vanishes (envelope : Envelope) (parameters : Option Parameters) : Prop :=
  envelope.style = .ok .solr ∧ ∃ fragment, envelope.query = some fragment ∧
    ∀ p ∈ Template.pieces fragment, p.Vanishes parameters

/-- An envelope becomes the query that its style makes of it. -/
lemma BridgeQuery.toLucene_envelope_eq_ok {e : Envelope} {parameters : Option Parameters}
    {query : LuceneQuery} :
    (BridgeQuery.envelope e).toLucene parameters = .ok query ↔
      ∃ style, e.style = .ok style ∧ style.interpret e parameters = .ok query.text := by
  unfold toLucene
  simp only [bind_eq_ok]
  constructor
  · rintro ⟨style, hstyle, text, htext, ⟨⟩⟩
    exact ⟨style, hstyle, htext⟩
  · rintro ⟨style, hstyle, htext⟩
    exact ⟨style, hstyle, query.text, htext, rfl⟩

/-- A fragment that is not blank gives the text that its parameters make of it. -/
lemma Fragment.interpret_eq_ok {e : Envelope} {parameters : Option Parameters} {text : Text} :
    Fragment.interpret e parameters = .ok text ↔
      ∃ fragment, e.query = some fragment ∧ fragment.isBlank = false ∧
        Template.substitute fragment parameters .luceneInJson = .ok text := by
  unfold Fragment.interpret
  cases e.query with
  | none => simp
  | some fragment => cases hblank : fragment.isBlank <;> simp [Option.filter_some, hblank, build]

/-- The Lucene query of an envelope is blank exactly where the envelope vanishes. -/
lemma BridgeQuery.isBlank_toLucene_iff {e : Envelope} {parameters : Option Parameters}
    {query : LuceneQuery} (h : (BridgeQuery.envelope e).toLucene parameters = .ok query) :
    query.isBlank = true ↔ e.Vanishes parameters := by
  obtain ⟨style, hstyle, htext⟩ := toLucene_envelope_eq_ok.1 h
  unfold Envelope.Vanishes
  rw [hstyle]
  cases style with
  | kinetic =>
    have hblank : query.text.isBlank = false := Kinetic.isBlank_of_build htext
    unfold LuceneQuery.isBlank
    simp [hblank]
  | solr =>
    obtain ⟨fragment, hquery, _, hsubstitute⟩ := Fragment.interpret_eq_ok.1 htext
    have hvanishes := Template.isBlank_substitute_iff hsubstitute
    unfold LuceneQuery.isBlank
    simp [hquery, hvanishes]

/-- A request sends its query as it is unless the query is blank. -/
lemma SelectRequest.get?_query_build_iff {method : Method} {query : LuceneQuery}
    {metadata : Metadata} :
    (build method query metadata).get? "q".toList = some query.text ↔ query.isBlank = false := by
  have hget : (build method query metadata).get? "q".toList = some (queryText query) := by
    unfold get? build
    exact if_pos rfl
  rw [hget, Option.some.injEq]
  unfold queryText
  cases hblank : query.isBlank with
  | false => simp
  | true =>
    refine iff_of_false (fun heq => ?_) (by simp)
    unfold LuceneQuery.isBlank at hblank
    rw [if_pos rfl] at heq
    rw [← heq] at hblank
    revert hblank
    decide

/-- The Lucene query of an envelope is blank exactly where the envelope carries a fragment that has
nothing but white space and tags of empty values. Any other one is sent as it is. -/
theorem isBlank_parse_envelope_iff {raw : Text} {e : Envelope} {parameters : Option Parameters}
    {query : LuceneQuery} (hread : BridgeQuery.read raw = .ok (.envelope e))
    (hparse : parse raw parameters = .ok query) :
    (query.isBlank = true ↔ e.Vanishes parameters) ∧
      ∀ method metadata,
        (SelectRequest.build method query metadata).get? "q".toList = some query.text ↔
          ¬ e.Vanishes parameters := by
  have hquery : (BridgeQuery.envelope e).toLucene parameters = .ok query := by
    unfold parse at hparse
    rwa [hread] at hparse
  have hiff := BridgeQuery.isBlank_toLucene_iff hquery
  refine ⟨hiff, fun method metadata => ?_⟩
  rw [SelectRequest.get?_query_build_iff, ← hiff, Bool.not_eq_true]

/-- An envelope whose query fragment is the tag of one parameter. -/
def tagEnvelope : Text :=
  "\x7b\"type\":\"Solr DSL\",\"query\":\"<%= parameter['x'] %>\"\x7d".toList

/-- The envelope reads as one, and its Lucene query is the escaped value. -/
lemma parse_tagEnvelope (v : Text) :
    ∃ e, BridgeQuery.read tagEnvelope = .ok (.envelope e) ∧
      parse tagEnvelope (some [("x".toList, v)]) = .ok ⟨Json.escape (Lucene.escape v)⟩ := by
  let chunk : Template.Chunk := ⟨[], Template.tagFree_nil⟩
  have hquote : '\'' ∉ "x".toList := by decide
  have hline : '\n' ∉ "x".toList := by decide
  have hread := Fragment.read_envelopeText chunk hquote hline
  have hgiven : ∀ name ∈ (Fragment.outline chunk hquote hline).names,
      (Entries.get? name [("x".toList, v)]).isSome := by
    intro name hn
    obtain rfl := List.mem_singleton.1 hn
    rfl
  have hbuild : Fragment.build true (Fragment.single chunk "x".toList) (some [("x".toList, v)]) =
      .ok (Json.escape (Lucene.escape v)) := by
    have h := Template.substitute_text _ .luceneInJson hgiven
    rwa [Fragment.fill_outline, Fragment.text_outline] at h
  exact ⟨_, hread, Fragment.parse_of_read hread rfl rfl (Fragment.isBlank_single chunk) hbuild⟩

/-- A blank is a value that does not vanish. -/
theorem isBlank_parse_envelope_iff_blank :
    parse tagEnvelope (some [("x".toList, " ".toList)]) = .ok ⟨"\\\\ ".toList⟩ ∧
      (SelectRequest.build .count ⟨"\\\\ ".toList⟩ {}).get? "q".toList =
        some "\\\\ ".toList := by
  obtain ⟨e, hread, hparse⟩ := parse_tagEnvelope " ".toList
  obtain ⟨hblank, hsent⟩ := isBlank_parse_envelope_iff hread hparse
  refine ⟨hparse, (hsent .count {}).2 fun hvanishes => ?_⟩
  exact absurd (hblank.2 hvanishes) (by decide)

/-- The empty value leaves a blank query, and the one that matches everything is sent instead. -/
theorem parse_envelope_vanished :
    (∃ e, BridgeQuery.read tagEnvelope = .ok (.envelope e)) ∧
      parse tagEnvelope (some [("x".toList, [])]) = .ok ⟨[]⟩ ∧
      ∀ method metadata,
        (SelectRequest.build method ⟨[]⟩ metadata).get? "q".toList = some "*:*".toList := by
  obtain ⟨e, hread, hparse⟩ := parse_tagEnvelope []
  exact ⟨⟨e, hread⟩, hparse, fun _ _ => rfl⟩

end SearchGateway
