import SearchGateway.Proofs.Json.Exchange
import SearchGateway.Proofs.Query.Shape
import SearchGateway.Proofs.Template.Values

/-!
# Nested queries as objects and as strings

The nested query of an envelope may be an object or a string. An object stands for its compact text,
so the envelope with the string that holds this text is the same query, wherever the object stands
in the text of the envelope and however it is written there (`parse_embedded`). Without tags in the
text and in the strings of the object, the new string makes none.
-/

namespace SearchGateway

namespace Json

/-- White space between lexemes is white space. -/
lemma isBlank_of_all_isSpace {b : Text} (h : b.all isSpace = true) : b.isBlank = true := by
  refine List.all_eq_true.2 fun c hc => ?_
  have hc := List.all_eq_true.1 h c hc
  simp only [isSpace, Bool.or_eq_true, beq_iff_eq] at hc
  rcases hc with ((rfl | rfl) | rfl) | rfl <;> decide

end Json

namespace Envelope

/-- The text of an envelope around its nested query. -/
structure Frame where
  lead : Text
  hole : Json.Hole (Json.maxDepth - 1)
  trail : Text
  lead_isBlank : lead.isBlank = true
  trail_isBlank : trail.isBlank = true
  isQuery : hole.key.key = "query".toList

namespace Frame

/-- The text of the envelope with a text in the place of its nested query. -/
def text (frame : Frame) (raw : Text) : Text :=
  frame.lead ++ (frame.hole.front ++ (raw ++ (frame.hole.back ++ frame.trail)))

/-- The envelope with a value in the place of its nested query. -/
def envelope (frame : Frame) (j : Json) : Envelope :=
  ⟨frame.hole.members j⟩

variable (frame : Frame) {raw : Text} {j : Json}

/-- Inside of the white space around it an envelope stands in curly braces. -/
lemma exists_text_eq (raw : Text) : ∃ t, frame.text raw = frame.lead ++ ('{' :: (t ++ ['}']) ++
    frame.trail) ∧ frame.hole.front ++ (raw ++ frame.hole.back) = '{' :: (t ++ ['}']) := by
  obtain ⟨front, hfront⟩ : ∃ front, frame.hole.front = '{' :: front := ⟨_, rfl⟩
  obtain ⟨back, hback⟩ : ∃ back, frame.hole.back = back ++ ['}'] := by
    refine ⟨frame.hole.behindValue ++ frame.hole.after.flatMap fun m => ',' :: m.text, ?_⟩
    simp [Json.Hole.back]
  refine ⟨front ++ (raw ++ back), ?_, ?_⟩
  · simp [text, hfront, hback]
  · simp [hfront, hback]

/-- Without tags an envelope is read with the value in its place. -/
lemma read_text (h : Json.Reads (Json.maxDepth - 1) raw j)
    (hfree : Template.TagFree (frame.text raw)) :
    BridgeQuery.read (frame.text raw) = .ok (.envelope (frame.envelope j)) := by
  obtain ⟨t, ht, hinner⟩ := frame.exists_text_eq raw
  have hobject : Json.parseObject ([] ++ (frame.hole.front ++ (raw ++ (frame.hole.back ++ [])))) =
      .ok (frame.hole.members j) := frame.hole.parseObject_text h rfl rfl
  rw [List.nil_append, List.append_nil, hinner] at hobject
  unfold BridgeQuery.read
  rw [Template.normalize_of_tagFree hfree, ht]
  exact BridgeQuery.detect_braces frame.lead_isBlank frame.trail_isBlank hobject

/-- A text without tags in the place of another one makes no tag. -/
lemma tagFree_text_quote {s : Text} (hfree : Template.TagFree (frame.text raw))
    (hs : Template.TagFree s) : Template.TagFree (frame.text (Json.quote s)) := by
  have hfront : Template.TagFree (frame.lead ++ frame.hole.front) :=
    fun h => hfree (h.trans ⟨[], raw ++ (frame.hole.back ++ frame.trail), by simp [text]⟩)
  have hback : Template.TagFree (frame.hole.back ++ frame.trail) :=
    fun h => hfree (h.trans ⟨frame.lead ++ (frame.hole.front ++ raw), [], by simp [text]⟩)
  have hbody := (Template.tagFree_escape hs).append_cons hback (c := '"') (by decide)
  have htext := hfront.append_cons hbody (c := '"') (by decide)
  unfold text Json.quote
  simpa using htext

end Frame

/-- A text whose trimmed form reads as an object is written as its members between curly braces,
with white space around them. -/
lemma exists_members {raw : Text} {fields : Entries Json}
    (h : Json.parseObject raw.trim = .ok fields) :
    ∃ (lead first trail : Text) (ms : List (Json.Member (Json.maxDepth - 1))),
      lead.isBlank = true ∧ first.all Json.isSpace = true ∧ trail.isBlank = true ∧
      raw = lead ++ '{' :: (first ++ (Json.Member.listText ms ++ '}' :: trail)) ∧
      fields = Json.Member.entriesFrom [] ms := by
  obtain ⟨lead, trail, hlead, htrail, hraw⟩ := raw.exists_eq_trim
  obtain ⟨b, first, b', ms, hb, hfirst, hb', htrim, hfields⟩ := Json.exists_of_parseObject h
  refine ⟨lead ++ b, first, b' ++ trail, ms, ?_, hfirst, ?_, ?_, hfields⟩
  · rw [Text.isBlank_append, hlead, Json.isBlank_of_all_isSpace hb, Bool.and_self]
  · rw [Text.isBlank_append, htrail, Json.isBlank_of_all_isSpace hb', Bool.and_self]
  · rw [hraw, htrim]
    simp

/-- An envelope without tags is written around its nested query. -/
lemma exists_frame {raw : Text} {e : Envelope} {j : Json}
    (hread : BridgeQuery.read raw = .ok (.envelope e)) (hfree : Template.TagFree raw)
    (hquery : e.fields.get? "query".toList = some j) :
    ∃ (frame : Frame) (o : Text), raw = frame.text o ∧ Json.Reads (Json.maxDepth - 1) o j := by
  have hparse := BridgeQuery.parseObject_of_read hread
  rw [Template.normalize_of_tagFree hfree] at hparse
  obtain ⟨lead, first, trail, ms, hlead, hfirst, htrail, rfl, hfields⟩ := exists_members hparse
  rw [hfields] at hquery
  obtain ⟨before, m, after, rfl, hkey, rfl, hlast⟩ := Json.Member.exists_last hquery
  let hole : Json.Hole (Json.maxDepth - 1) :=
    ⟨first, before, m.toKey, [], m.behind, after, hfirst, rfl, m.behind_spaces, hkey ▸ hlast⟩
  refine ⟨⟨lead, hole, trail, hlead, htrail, hkey⟩, m.rawValue, ?_, m.rawValue_reads⟩
  have htext := congrArg (fun t => lead ++ (t ++ trail)) (hole.front_append_back m.rawValue_reads)
  simpa [Frame.text, Json.Hole.member, hole] using htext.symm

end Envelope

/-- Envelopes with the same nested query that differ in nothing else give the same Lucene query and
have the same root path. -/
lemma BridgeQuery.toLucene_congr {e e' : Envelope} (hquery : e'.query = e.query)
    (hother : ∀ key, key ≠ "query".toList → e'.fields.get? key = e.fields.get? key) :
    (∀ parameters, toLucene (.envelope e') parameters = toLucene (.envelope e) parameters) ∧
      e'.rootPath = e.rootPath := by
  have hstring (key : String) (h : key.toList ≠ "query".toList) : e'.string? key = e.string? key :=
    congrArg (Option.bind · Json.asString?) (hother _ h)
  have hstyle : e'.style = e.style := by
    unfold Envelope.style Envelope.declaredType
    rw [hstring "type" (by decide)]
  have hoptions : Kinetic.Options.ofEnvelope e' = .ofEnvelope e := by
    unfold Kinetic.Options.ofEnvelope Envelope.lead Envelope.whitelist Envelope.operator
    rw [hstring "queryPrefix" (by decide), hstring "concatenatingOperator" (by decide),
      hother "whitelistedFields".toList (by decide)]
  refine ⟨fun parameters => ?_, ?_⟩
  · have hinterpret (style : QueryStyle) :
        style.interpret e' parameters = style.interpret e parameters := by
      cases style with
      | kinetic =>
        unfold QueryStyle.interpret Kinetic.interpret
        rw [hquery, hoptions]
      | solr =>
        unfold QueryStyle.interpret Fragment.interpret
        rw [hquery]
    unfold toLucene
    simp only [hstyle, hinterpret]
  · unfold Envelope.rootPath
    rw [hstring "jsonRootPath" (by decide)]

/-- The object form and the string form of a nested query agree. An envelope without tags in its
text and in the strings of its nested object is written around that object; with the string of the
object's compact text in the place of the object it is accepted as the same envelope with this
string for its query, and for all parameters it gives the same Lucene query or the same error, and
the same root path. -/
theorem parse_embedded {raw : Text} {e : Envelope} {members : Entries Json}
    (hread : BridgeQuery.read raw = .ok (.envelope e))
    (hquery : e.fields.get? "query".toList = some (.object members))
    (hfree : Template.TagFree raw)
    (hstrings : ∀ s ∈ (Json.object members).strings, Template.TagFree s) :
    (∃ (frame : Envelope.Frame) (o : Text), raw = frame.text o ∧
      Json.Reads (Json.maxDepth - 1) o (.object members)) ∧
    ∀ (frame : Envelope.Frame) (o : Text), raw = frame.text o →
      Json.Reads (Json.maxDepth - 1) o (.object members) →
      BridgeQuery.read (frame.text (Json.quote (Json.object members).text)) =
          .ok (.envelope ⟨e.fields.put "query".toList (.string (Json.object members).text)⟩) ∧
        rootPath (frame.text (Json.quote (Json.object members).text)) = rootPath raw ∧
        ∀ parameters, parse (frame.text (Json.quote (Json.object members).text)) parameters =
          parse raw parameters := by
  refine ⟨Envelope.exists_frame hread hfree hquery, fun frame o hraw ho => ?_⟩
  subst hraw
  have he : frame.envelope (.object members) = e := by
    have hframe := (frame.read_text ho hfree).symm.trans hread
    cases hframe
    rfl
  subst he
  have hfree' := frame.tagFree_text_quote hfree (Template.tagFree_text hstrings)
  have hread' : BridgeQuery.read (frame.text (Json.quote (Json.object members).text)) =
      .ok (.envelope (frame.envelope (.string (Json.object members).text))) :=
    frame.read_text (Json.reads_quote _ _) hfree'
  have hput : (frame.envelope (.object members)).fields.put "query".toList
      (.string (Json.object members).text) =
        (frame.envelope (.string (Json.object members).text)).fields := by
    unfold Envelope.Frame.envelope
    rw [← frame.isQuery, frame.hole.put_members]
  -- Both envelopes have the same text for their nested query, and the other keys stay.
  have hsame : (frame.envelope (.string (Json.object members).text)).query =
      (frame.envelope (.object members)).query := by
    have hget (j : Json) : (frame.envelope j).fields.get? "query".toList = some j := by
      rw [← frame.isQuery]
      exact frame.hole.get?_members_key j
    unfold Envelope.query
    rw [hget, hget]
  obtain ⟨hlucene, hpath⟩ := BridgeQuery.toLucene_congr hsame fun key hkey =>
    frame.hole.get?_members_of_ne (frame.isQuery ▸ hkey) _ _
  refine ⟨?_, ?_, fun parameters => ?_⟩
  · rw [hput]
    exact hread'
  · unfold rootPath
    rw [hread', hread]
    exact congrArg Except.ok hpath
  · unfold parse
    rw [hread', hread]
    exact hlucene parameters

/-- A structured query whose value has quotes and a backslash. -/
def quotedMembers : Entries Json :=
  [("f".toList, .object [("value".toList, .string "say \"a\\b\"".toList)])]

/-- A spacious envelope around its nested query. -/
def spaciousFrame : Envelope.Frame where
  lead := "\n ".toList
  hole :=
    { first := " ".toList
      before := [.compact "type".toList
        ((Json.reads_quote _ "Kinetic DSL".toList).append (b := " ".toList) rfl)]
      key := ⟨" ".toList, "query".toList, "query".toList, " ".toList, rfl,
        Json.readString_escape "query".toList, rfl⟩
      beforeValue := "\t".toList
      behindValue := " ".toList
      after := []
      first_spaces := rfl
      beforeValue_spaces := rfl
      behindValue_spaces := rfl
      isLast := nofun }
  trail := "\n".toList
  lead_isBlank := rfl
  trail_isBlank := rfl
  isQuery := rfl

/-- Quotes and backslashes in the nested query come back out of the string that holds it. -/
theorem parse_embedded_quotes :
    spaciousFrame.text (Json.object quotedMembers).text =
      ("\n \x7b \"type\": \"Kinetic DSL\", \"query\" :\t".toList ++
        "\x7b\"f\":\x7b\"value\":\"say \\\"a\\\\b\\\"\"\x7d\x7d \x7d\n".toList) ∧
    ∀ parameters,
      parse (spaciousFrame.text (Json.quote (Json.object quotedMembers).text)) parameters =
        parse (spaciousFrame.text (Json.object quotedMembers).text) parameters := by
  have hreads : Json.Reads (Json.maxDepth - 1) (Json.object quotedMembers).text
      (.object quotedMembers) := by
    have hregular : (Json.object quotedMembers).Regular :=
      ⟨by decide, ⟨⟨by decide, trivial, trivial⟩, trivial⟩⟩
    exact Json.reads_text _ hregular (by decide)
  have hfree : Template.TagFree (spaciousFrame.text (Json.object quotedMembers).text) :=
    Template.tagFree_of_no_angle (by decide)
  have hstrings : ∀ s ∈ (Json.object quotedMembers).strings, '<' ∉ s := by
    decide
  have hembedded := parse_embedded (spaciousFrame.read_text hreads hfree) rfl hfree
    fun s hs => Template.tagFree_of_no_angle (hstrings s hs)
  exact ⟨rfl, (hembedded.2 spaciousFrame _ rfl hreads).2.2⟩

end SearchGateway
