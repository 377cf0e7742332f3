import SearchGateway.Proofs.Template.Outline
import SearchGateway.Query.Basic

/-!
# Spellings of one template

Two templates with the same chunks and the same names differ in the spelling of their tags only: in
the quotes, and in the white space inside of the tags. Normalization takes both to one text, which
it then keeps, so a query reads and translates alike in all its spellings, errors included
(`parse_respelled`).
-/

namespace SearchGateway

/-- The spelling of the tags of a template does not matter. Normalization keeps the chunks, writes
each tag canonically, and changes nothing when it is done again; in every spelling the query is
read as the same bridge query, with the same root path and the same Lucene query. -/
theorem parse_respelled {o o' : Template.Outline} (hchunks : o.chunks = o'.chunks)
    (hnames : o.names = o'.names) (hquote : ∀ name ∈ o.names, '\'' ∉ name) :
    Template.normalize o.text =
        o.fill (fun name => "<%= parameter['".toList ++ name ++ "'] %>".toList) ∧
      Template.normalize o'.text = Template.normalize o.text ∧
      Template.normalize (Template.normalize o.text) = Template.normalize o.text ∧
      BridgeQuery.read o'.text = BridgeQuery.read o.text ∧
      rootPath o'.text = rootPath o.text ∧
      ∀ parameters, parse o'.text parameters = parse o.text parameters := by
  have hnormal : Template.normalize o'.text = Template.normalize o.text := by
    rw [Template.normalize_eq_fill, Template.normalize_eq_fill]
    exact (Template.Outline.fill_eq_of_chunks_of_names hchunks hnames _).symm
  have hagain : Template.normalize (Template.normalize o.text) = Template.normalize o.text := by
    have hpieces := congrArg (List.flatMap Template.Piece.text) (Template.pieces_normalize o hquote)
    exact hpieces
  -- A bridge query is read off the normalized text, and all else off the bridge query.
  have hread : BridgeQuery.read o'.text = BridgeQuery.read o.text :=
    congrArg BridgeQuery.detect hnormal
  refine ⟨Template.normalize_eq_fill o, hnormal, hagain, hread, ?_, ?_⟩
  · unfold rootPath
    rw [hread]
  · intro parameters
    unfold parse
    rw [hread]

/-- An envelope with a tag in double quotes inside of its string, and the same one with the tag in
single quotes and with white space. -/
theorem parse_respelled_envelope :
    Template.normalize
        "\x7b\"type\":\"Solr DSL\",\"query\":\"a:<%=parameter[\"x\"]%>\"\x7d".toList =
      "\x7b\"type\":\"Solr DSL\",\"query\":\"a:<%= parameter['x'] %>\"\x7d".toList ∧
    rootPath "\x7b\"type\":\"Solr DSL\",\"query\":\"a:<%=parameter[\"x\"]%>\"\x7d".toList =
      rootPath "\x7b\"type\":\"Solr DSL\",\"query\":\"a:<%=\tparameter[ 'x' ]\n%>\"\x7d".toList ∧
    ∀ parameters,
      parse "\x7b\"type\":\"Solr DSL\",\"query\":\"a:<%=parameter[\"x\"]%>\"\x7d".toList parameters =
        parse "\x7b\"type\":\"Solr DSL\",\"query\":\"a:<%=\tparameter[ 'x' ]\n%>\"\x7d".toList
          parameters := by
  let head : Template.Chunk :=
    ⟨"\x7b\"type\":\"Solr DSL\",\"query\":\"a:".toList, Template.tagFree_of_no_angle (by decide)⟩
  let last : Template.Chunk := ⟨"\"\x7d".toList, Template.tagFree_of_no_angle (by decide)⟩
  let double : Template.Slot :=
    ⟨⟨'"', [], [], [], [], .inl rfl, rfl, rfl, rfl, rfl⟩, ['x'], by decide, by decide⟩
  let single : Template.Slot :=
    ⟨⟨'\'', ['\t'], [' '], [' '], ['\n'], .inr rfl, by decide, by decide, by decide, by decide⟩,
      ['x'], by decide, by decide⟩
  have hchunks : (Template.Outline.single head double last).chunks =
      (Template.Outline.single head single last).chunks := rfl
  have h := parse_respelled hchunks rfl (by decide)
  exact ⟨h.1, h.2.2.2.2.1.symm, fun parameters => (h.2.2.2.2.2 parameters).symm⟩

end SearchGateway
