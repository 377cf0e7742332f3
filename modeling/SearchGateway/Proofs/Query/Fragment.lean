import SearchGateway.Proofs.Lucene.Twice
import SearchGateway.Proofs.Query.Plain
import SearchGateway.Proofs.Template.Quoted

/-!
# Fragments in envelopes

An envelope may carry a template for a Lucene query as a JSON string, which is decoded when the
envelope is read. The values that go into it are escaped for Lucene and again for a JSON string
that is no longer there, so they stand in the query with one level of escaping too many
(`parse_envelope_fragment`). The same template on its own takes them with the level it needs.
-/

namespace SearchGateway

namespace Fragment

/-- The members of an envelope that carries a fragment. -/
def members (fragment : Text) : Entries Json :=
  [("type".toList, .string QueryStyle.solr.name), ("query".toList, .string fragment)]

/-- The compact text of an envelope that carries a fragment. -/
def envelopeText (fragment : Text) : Text :=
  (Json.object (members fragment)).text

/-- The text of such an envelope in front of its fragment. -/
def opening : Text :=
  '{' :: (Json.quote "type".toList ++ ':' :: (Json.quote QueryStyle.solr.name ++
    ',' :: (Json.quote "query".toList ++ [':', '"'])))

/-- The fragment stands escaped between the opening of the envelope and its end. -/
lemma envelopeText_eq (fragment : Text) :
    envelopeText fragment = opening ++ (Json.escape fragment ++ ['"', '}']) := by
  unfold envelopeText members opening
  simp only [Json.text, Json.membersText, Json.quote, List.append_assoc, List.cons_append,
    List.nil_append]

/-- Escaping the tag for a name is writing the tag for the escaped name. -/
lemma escape_reference (name : Text) :
    Json.escape (Template.Piece.reference name).text =
      (Template.Piece.reference (Json.escape name)).text := by
  unfold Template.Piece.text
  rw [Json.escape_append, Json.escape_append, Json.escape_of_isPlain (by decide),
    Json.escape_of_isPlain (s := "'] %>".toList) (by decide)]

variable (chunk : Template.Chunk) {name : Text}

/-- A fragment with one tag behind a chunk. -/
def single (chunk : Template.Chunk) (name : Text) : Text :=
  chunk.text ++ (Template.Piece.reference name).text

/-- The envelope around a fragment is in its canonical form where the fragment is. -/
lemma normalize_envelopeText (hquote : '\'' ∉ name) (hline : '\n' ∉ name) :
    Template.normalize (envelopeText (single chunk name)) =
      envelopeText (single chunk name) := by
  have hquote' : '\'' ∉ Json.escape name := fun h => by
    obtain h | ⟨_, h⟩ := Json.mem_escape h
    · revert h
      decide
    · exact hquote h
  have hline' : '\n' ∉ Json.escape name := fun h => by
    obtain h | ⟨_, h⟩ := Json.mem_escape h
    · revert h
      decide
    · exact hline h
  let o : Template.Outline := .single
    ⟨opening ++ Json.escape chunk.text, (Template.tagFree_escape chunk.tagFree).append (by decide)⟩
    (.ofName (Json.escape name) hquote' hline') ⟨['"', '}'], by decide⟩
  have htext : envelopeText (single chunk name) = o.text := by
    unfold Template.Outline.text single
    rw [envelopeText_eq, Json.escape_append, escape_reference, Template.Outline.fillBy_single,
      Template.Slot.text_ofName, List.append_assoc, List.append_assoc]
  have hcanonical : o.canonical = o := by
    have hslot := Template.Slot.canonical_ofName hquote' hline'
    simp only [o, Template.Outline.canonical, Template.Outline.single, List.map_cons, hslot,
      List.map_nil]
  have hnames : ∀ n ∈ o.names, '\'' ∉ n := by
    intro n hn
    obtain rfl := List.mem_singleton.1 hn
    exact hquote'
  rw [htext, Template.normalize_text o hnames, hcanonical]

/-- The text of an envelope around a fragment reads as the envelope with the fragment. -/
lemma read_envelopeText (hquote : '\'' ∉ name) (hline : '\n' ∉ name) :
    BridgeQuery.read (envelopeText (single chunk name)) =
      .ok (.envelope ⟨members (single chunk name)⟩) := by
  have hregular : (Json.object (members (single chunk name))).Regular := by
    have hkeys : (Entries.keys (members (single chunk name))).Nodup := by
      have h : ["type".toList, "query".toList].Nodup := by decide
      exact h
    exact ⟨hkeys, trivial, trivial, trivial⟩
  have hnesting : Json.membersNesting (members (single chunk name)) = 0 := rfl
  have ⟨hshape, hread⟩ := Envelope.read_text hregular (by rw [hnesting]; decide)
  unfold BridgeQuery.read BridgeQuery.detect
  rw [normalize_envelopeText chunk hquote hline]
  unfold envelopeText
  rw [if_pos hshape, hread]
  rfl

/-- A fragment with a tag is not blank. -/
lemma isBlank_single : Text.isBlank (single chunk name) = false :=
  Text.isBlank_eq_false_of_mem (List.mem_append_right chunk.text (.head _)) (c := '<') (by decide)

/-- A fragment that ends with a tag is no envelope. -/
lemma hasShape_single : Envelope.hasShape (single chunk name) = false := by
  unfold single
  rw [Envelope.hasShape_eq, Text.lastInk_append, Template.lastInk_text_reference]
  exact Bool.and_false _

/-- The template of a fragment with one tag. -/
def outline (chunk : Template.Chunk) (hquote : '\'' ∉ name) (hline : '\n' ∉ name) :
    Template.Outline :=
  .single chunk (.ofName name hquote hline) ⟨[], by decide⟩

/-- Filling a fragment with one tag puts the text behind its chunk. -/
lemma fill_outline (hquote : '\'' ∉ name) (hline : '\n' ∉ name) (value : Text → Text) :
    (outline chunk hquote hline).fill value = chunk.text ++ value name := by
  unfold Template.Outline.fill outline
  rw [Template.Outline.fillBy_single, List.append_nil]
  rfl

/-- The text of a fragment with one tag. -/
lemma text_outline (hquote : '\'' ∉ name) (hline : '\n' ∉ name) :
    (outline chunk hquote hline).text = single chunk name := by
  unfold Template.Outline.text outline
  rw [Template.Outline.fillBy_single, List.append_nil, Template.Slot.text_ofName]
  rfl

/-- An envelope that declares a fragment gives what the fragment gives inside of JSON. -/
lemma parse_of_read {raw fragment : Text} {e : Envelope} {parameters : Option Parameters}
    {text : Text} (hread : BridgeQuery.read raw = .ok (.envelope e)) (hstyle : e.style = .ok .solr)
    (hquery : e.query = some fragment) (hblank : fragment.isBlank = false)
    (hbuild : build true fragment parameters = .ok text) :
    parse raw parameters = .ok ⟨text⟩ := by
  have hinterpret : QueryStyle.solr.interpret e parameters = .ok text := by
    unfold QueryStyle.interpret interpret
    simp only [hquery, Option.filter_some, hblank, Bool.not_false, if_true]
    exact hbuild
  unfold parse
  simp only [hread, bind, Except.bind, BridgeQuery.toLucene, hstyle, hinterpret]
  rfl

end Fragment

/-- A value that goes into a fragment with one tag stands behind the chunk escaped twice where an
envelope carries the fragment: its reserved and blank characters are bare, up to quotes,
backslashes and control characters, and it reads back exactly where escaping does not change it and
it has no control character. On its own the fragment takes every value as one literal term. -/
theorem parse_envelope_fragment (chunk : Template.Chunk) {name v : Text} (hquote : '\'' ∉ name)
    (hline : '\n' ∉ name) {parameters : Parameters} (hgiven : parameters.get? name = some v) :
    (∃ e, BridgeQuery.read (Fragment.envelopeText (Fragment.single chunk name)) =
        .ok (.envelope e) ∧ e.style = .ok .solr ∧ e.query = some (Fragment.single chunk name)) ∧
    (∀ raw e, BridgeQuery.read raw = .ok (.envelope e) → e.style = .ok .solr →
      e.query = some (Fragment.single chunk name) →
      ∃ region, parse raw (some parameters) = .ok ⟨chunk.text ++ region⟩ ∧
        Lucene.skeleton region = v.filter (fun c => Json.isPlain c && Lucene.needsEscape c) ∧
        (Lucene.skeleton region = [] ∧ Lucene.unescape region = v ↔
          Lucene.escape v = v ∧ ∀ c ∈ v, 32 ≤ c.toNat)) ∧
    ∃ region, parse (Fragment.single chunk name) (some parameters) = .ok ⟨chunk.text ++ region⟩ ∧
      Lucene.skeleton region = [] ∧ Lucene.unescape region = v := by
  have hnames : ∀ n ∈ (Fragment.outline chunk hquote hline).names, n = name := fun n hn =>
    List.mem_singleton.1 hn
  have hsome : ∀ n ∈ (Fragment.outline chunk hquote hline).names, (parameters.get? n).isSome := by
    intro n hn
    rw [hnames n hn, hgiven]
    rfl
  have hvalue : Template.given parameters name = v := by
    unfold Template.given
    rw [hgiven]
    rfl
  refine ⟨?_, ?_, ?_⟩
  · exact ⟨_, Fragment.read_envelopeText chunk hquote hline, rfl, rfl⟩
  · intro raw e hread hstyle hquery
    -- The fragment has been decoded already, but its values are escaped as if it had not been.
    have hbuild : Fragment.build true (Fragment.single chunk name) (some parameters) =
        .ok (chunk.text ++ Json.escape (Lucene.escape v)) := by
      have h := Template.substitute_text _ .luceneInJson hsome
      rwa [Fragment.fill_outline, Fragment.text_outline, hvalue] at h
    exact ⟨_, Fragment.parse_of_read hread hstyle hquery (Fragment.isBlank_single chunk) hbuild,
      Lucene.skeleton_escape_escape v, Lucene.reads_back_iff v⟩
  · have hshape : Envelope.hasShape (Fragment.outline chunk hquote hline).text = false := by
      rw [Fragment.text_outline]
      exact Fragment.hasShape_single chunk
    have hparse := parse_text (Fragment.outline chunk hquote hline)
      (fun n hn => by rw [hnames n hn]; exact hquote) hshape hsome
    rw [Fragment.fill_outline, Fragment.text_outline, hvalue] at hparse
    exact ⟨_, hparse, Lucene.skeleton_escape v, Lucene.unescape_escape v⟩

/-- A blank in a value is bare where an envelope carries the fragment. -/
theorem parse_envelope_fragment_blank :
    ∃ region, parse
        "\x7b\"type\":\"Solr DSL\",\"query\":\"field:<%= parameter['name'] %>\"\x7d".toList
        (some [("name".toList, "a b".toList)]) = .ok ⟨"field:".toList ++ region⟩ ∧
      Lucene.skeleton region = [' '] ∧
      ¬ (Lucene.skeleton region = [] ∧ Lucene.unescape region = "a b".toList) := by
  let chunk : Template.Chunk := ⟨"field:".toList, by decide⟩
  have hgiven : Entries.get? "name".toList [("name".toList, "a b".toList)] =
      some "a b".toList := rfl
  have h := parse_envelope_fragment chunk (by decide) (by decide) hgiven
  obtain ⟨⟨e, hread, hstyle, hquery⟩, hregion, _⟩ := h
  obtain ⟨region, hparse, hskeleton, hiff⟩ := hregion _ e hread hstyle hquery
  refine ⟨region, hparse, hskeleton, fun hback => ?_⟩
  have hescape := (hiff.1 hback).1
  revert hescape
  decide

end SearchGateway
