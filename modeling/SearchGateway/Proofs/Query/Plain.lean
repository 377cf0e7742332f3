import SearchGateway.Proofs.Lucene.Reading
import SearchGateway.Proofs.Query.Shape

/-!
# Plain templates

A plain template gives its chunks with the escaped values between them (`parse_text`). No value adds
a character with a meaning of its own to the query, whatever stands in the chunks around it: the
skeleton of the query is that of the chunks, and each value reads back where it was put in
(`skeleton_parse_plain`).
-/

namespace SearchGateway

namespace Lucene

variable (tail : List (Template.Slot × Template.Chunk)) (region : Text → Text)

/-- Chunks and regions that leave no backslash open are read one by one. -/
lemma glyphs_tail (hregion : ∀ p ∈ tail, isPending (region p.1.name) = false)
    (hchunk : ∀ p ∈ tail, isPending p.2.text = false) :
    glyphs (tail.flatMap fun p => region p.1.name ++ p.2.text) =
      tail.flatMap fun p => glyphs (region p.1.name) ++ glyphs p.2.text := by
  induction tail with
  | nil => rfl
  | cons p tail ih =>
    have hr := hregion p (.head _)
    have hc := hchunk p (.head _)
    have ih := ih (fun q hq => hregion q (.tail _ hq)) (fun q hq => hchunk q (.tail _ hq))
    rw [List.flatMap_cons, List.flatMap_cons, glyphs_append (isPending_append hr hc),
      glyphs_append hr, ih]

/-- Regions without a meaning leave the skeleton of the chunks. -/
lemma skeleton_tail (hregion : ∀ p ∈ tail, isPending (region p.1.name) = false)
    (hchunk : ∀ p ∈ tail, isPending p.2.text = false)
    (hskeleton : ∀ p ∈ tail, skeleton (region p.1.name) = []) :
    skeleton (tail.flatMap fun p => region p.1.name ++ p.2.text) =
      tail.flatMap fun p => skeleton p.2.text := by
  induction tail with
  | nil => rfl
  | cons p tail ih =>
    have hr := hregion p (.head _)
    have hc := hchunk p (.head _)
    have ih := ih (fun q hq => hregion q (.tail _ hq)) (fun q hq => hchunk q (.tail _ hq))
      (fun q hq => hskeleton q (.tail _ hq))
    rw [List.flatMap_cons, List.flatMap_cons, skeleton_append (isPending_append hr hc),
      skeleton_append hr, hskeleton p (.head _), ih, List.nil_append]

end Lucene

namespace Template

/-- The canonical text of an outline takes the same values as the outline. -/
lemma substitute_normalize_text (o : Outline) (h : ∀ name ∈ o.names, '\'' ∉ name)
    (parameters : Option Parameters) (mode : Mode) :
    substitute (normalize o.text) parameters mode = substitute o.text parameters mode := by
  unfold substitute
  rw [pieces_normalize o h]

end Template

/-- A plain template gives its chunks with the escaped values between them. -/
lemma parse_text (o : Template.Outline) (hquote : ∀ name ∈ o.names, '\'' ∉ name)
    (hplain : Envelope.hasShape o.text = false) {parameters : Parameters}
    (hgiven : ∀ name ∈ o.names, (parameters.get? name).isSome) :
    parse o.text (some parameters) =
      .ok ⟨o.fill fun name => Lucene.escape (Template.given parameters name)⟩ := by
  have hread : BridgeQuery.read o.text = .ok (.plain (Template.normalize o.text)) := by
    unfold BridgeQuery.read BridgeQuery.detect
    rw [Envelope.hasShape_normalize, hplain]
    rfl
  have hbuild : Fragment.build false (Template.normalize o.text) (some parameters) =
      .ok (o.fill fun name => Lucene.escape (Template.given parameters name)) := by
    unfold Fragment.build
    rw [Template.substitute_normalize_text o hquote]
    exact Template.substitute_text o .lucene hgiven
  unfold parse
  rw [hread]
  simp only [bind, Except.bind, BridgeQuery.toLucene, hbuild]
  rfl

/-- Whatever the values are, a plain template gives a query with exactly the syntax of its chunks:
each tag gives way to a region that reads back as its value and has no syntax of its own, so two
runs of one template have the same skeleton. -/
theorem skeleton_parse_plain (o : Template.Outline)
    (hquote : ∀ name ∈ o.names, '"' ∉ name ∧ '\'' ∉ name)
    (hclosed : ∀ chunk ∈ o.chunks, Lucene.isPending chunk = false)
    (hplain : Envelope.hasShape o.text = false) :
    (∀ parameters : Parameters, (∀ name ∈ o.names, (parameters.get? name).isSome) →
      ∃ query, parse o.text (some parameters) = .ok query ∧
        Lucene.skeleton query.text = o.chunks.flatMap Lucene.skeleton ∧
        ∃ region : Text → Text, query.text = o.fill region ∧
          Lucene.glyphs query.text = Lucene.glyphs o.head.text ++
            (o.tail.flatMap fun p =>
              Lucene.glyphs (region p.1.name) ++ Lucene.glyphs p.2.text) ∧
          ∀ name ∈ o.names, parameters.get? name = some (Lucene.unescape (region name)) ∧
            Lucene.skeleton (region name) = [] ∧ Lucene.isPending (region name) = false) ∧
    (∀ parameters parameters' : Parameters,
      (∀ name ∈ o.names, (parameters.get? name).isSome) →
      (∀ name ∈ o.names, (parameters'.get? name).isSome) →
      ∃ query query', parse o.text (some parameters) = .ok query ∧
        parse o.text (some parameters') = .ok query' ∧
        Lucene.skeleton query.text = Lucene.skeleton query'.text) := by
  have hsingle : ∀ name ∈ o.names, '\'' ∉ name := fun name hn => (hquote name hn).2
  have hhead : Lucene.isPending o.head.text = false := hclosed _ (.head _)
  have htail : ∀ p ∈ o.tail, Lucene.isPending p.2.text = false := fun p hp =>
    hclosed _ (.tail _ (List.mem_map.2 ⟨p, hp, rfl⟩))
  -- Both parts rest on this: whatever the values are, they leave the skeleton of the chunks.
  have hskeleton (v : Text → Text) :
      Lucene.skeleton (o.fill fun name => Lucene.escape (v name)) =
        o.chunks.flatMap Lucene.skeleton := by
    have ht := Lucene.skeleton_tail o.tail (fun name => Lucene.escape (v name))
      (fun p _ => Lucene.isPending_escape _) htail (fun p _ => Lucene.skeleton_escape _)
    unfold Template.Outline.fill Template.Outline.fillBy Template.Outline.chunks
    rw [Lucene.skeleton_append hhead, ht, List.flatMap_cons, List.flatMap_map]
  refine ⟨?_, ?_⟩
  · intro parameters hgiven
    refine ⟨_, parse_text o hsingle hplain hgiven, hskeleton _,
      fun name => Lucene.escape (Template.given parameters name), rfl, ?_, ?_⟩
    · have ht := Lucene.glyphs_tail o.tail
        (fun name => Lucene.escape (Template.given parameters name))
        (fun p _ => Lucene.isPending_escape _) htail
      unfold Template.Outline.fill Template.Outline.fillBy
      rw [Lucene.glyphs_append hhead, ht]
    · intro name hn
      obtain ⟨v, hv⟩ := Option.isSome_iff_exists.1 (hgiven name hn)
      refine ⟨?_, Lucene.skeleton_escape _, Lucene.isPending_escape _⟩
      rw [Lucene.unescape_escape, Template.given, hv]
      rfl
  · intro parameters parameters' hgiven hgiven'
    refine ⟨_, _, parse_text o hsingle hplain hgiven, parse_text o hsingle hplain hgiven', ?_⟩
    rw [hskeleton, hskeleton]

/-- A value that looks like further clauses adds nothing to the one colon of its template. -/
theorem skeleton_parse_plain_clause :
    ∃ query, parse "field:<%=parameter[ \"v\"] %>".toList
        (some [("v".toList, "x OR other:(y)\\".toList)]) = .ok query ∧
      Lucene.skeleton query.text = [':'] := by
  let tag : Template.Slot :=
    ⟨⟨'"', [], [' '], [], [' '], .inl rfl, rfl, by decide, rfl, by decide⟩, ['v'], by decide,
      by decide⟩
  let o : Template.Outline := ⟨⟨"field:".toList, by decide⟩, [(tag, ⟨[], by decide⟩)]⟩
  have h := skeleton_parse_plain o (by decide) (by decide) (by decide)
  obtain ⟨query, hq, hs, _⟩ := h.1 [("v".toList, "x OR other:(y)\\".toList)] (by decide)
  exact ⟨query, hq, hs⟩

end SearchGateway
