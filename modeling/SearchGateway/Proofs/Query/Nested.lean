import SearchGateway.Proofs.Query.Errors
import SearchGateway.Proofs.Query.Kinetic
import SearchGateway.Proofs.Query.Shape
import SearchGateway.Proofs.Template.Demand

/-!
# Tags in nested objects

An envelope may carry its structured query as an object. The object is written as compact text
before its tags are looked for, so a value shows those of its tags that need no escaping, and these
are missed where there are no parameters. A tag in double quotes, or with a control character for
white space, comes out escaped: it is no tag any more, and parameters make no difference to it
(`parse_nested_iff`).
-/

namespace SearchGateway

/-- The text of an object holds the text of each of its values. -/
lemma Json.exists_text_eq_of_mem {key : Text} {j : Json} {members : Entries Json}
    (h : (key, j) ∈ members) :
    ∃ front back, (Json.object members).text = front ++ (j.text ++ back) := by
  have htail {ms : List (Text × Json)} (hmem : (key, j) ∈ ms) :
      ∃ front back, membersText ms = front ++ (j.text ++ back) := by
    induction ms with
    | nil => cases hmem
    | cons m ms ih =>
      obtain ⟨k, j'⟩ := m
      cases hmem with
      | head => exact ⟨',' :: (quote key ++ [':']), membersText ms, by simp [membersText]⟩
      | tail _ hmem =>
        obtain ⟨front, back, heq⟩ := ih hmem
        exact ⟨',' :: (quote k ++ ':' :: j'.text ++ front), back, by simp [membersText, heq]⟩
  cases members with
  | nil => cases h
  | cons m ms =>
    obtain ⟨k, j'⟩ := m
    cases h with
    | head => exact ⟨'{' :: (quote key ++ [':']), membersText ms ++ ['}'], by simp [text]⟩
    | tail _ hmem =>
      obtain ⟨front, back, heq⟩ := htail hmem
      exact ⟨'{' :: (quote k ++ ':' :: j'.text ++ front), back ++ ['}'], by simp [text, heq]⟩

/-- The text of a nested object is the query of its envelope, and it is not blank. -/
lemma Envelope.query_of_object {e : Envelope} {members : Entries Json}
    (h : e.fields.get? "query".toList = some (.object members)) :
    e.query = some (Json.object members).text ∧ (Json.object members).text.isBlank = false := by
  obtain ⟨s, hs⟩ := Json.exists_text_object members
  refine ⟨?_, Text.isBlank_eq_false_of_mem (c := '{') (by rw [hs]; exact .head _) (by decide)⟩
  unfold Envelope.query
  rw [h]

/-- An envelope gives what its style makes of it. -/
lemma parse_envelope {raw : Text} {e : Envelope} {style : QueryStyle}
    (hread : BridgeQuery.read raw = .ok (.envelope e)) (hstyle : e.style = .ok style)
    (parameters : Option Parameters) :
    parse raw parameters = (style.interpret e parameters).map LuceneQuery.mk := by
  unfold parse
  simp only [hread, bind, Except.bind, BridgeQuery.toLucene, hstyle]
  cases style.interpret e parameters <;> rfl

namespace Kinetic

variable {query : Text} (options : Options)

/-- Without parameters a structured query with references is missing one. -/
lemma exists_build_none (hblank : query.isBlank = false)
    (h : Template.hasReferences query = true) :
    ∃ name, build query options none = .error (.missingParameter name true) := by
  rw [← Template.hasReferences_normalize] at h
  obtain ⟨name, hn⟩ := Template.exists_substitute_none .verbatim h
  refine ⟨name, ?_⟩
  unfold build
  rw [hblank, hn]
  rfl

/-- A structured query without references does not depend on parameters, and its errors tell of its
own text. -/
lemma build_of_not_hasReferences (hblank : query.isBlank = false)
    (h : Template.hasReferences query = false) (parameters : Option Parameters) :
    build query options parameters = build query options none ∧
      FailsBy (Error.TellsOf query) (build query options parameters) := by
  have hsubstitute (parameters : Option Parameters) :
      Template.substitute (Template.normalize query) parameters .verbatim = .ok query := by
    rw [Template.normalize_of_literal (Template.pieces_of_not_hasReferences h),
      Template.substitute_of_not_hasReferences h]
  unfold build
  rw [hblank, hsubstitute, hsubstitute]
  refine ⟨rfl, ?_⟩
  simp only [Bool.false_eq_true, if_false, bind, Except.bind]
  cases Json.parseObject query with
  | error cause => exact .error rfl
  | ok fields => exact failsBy_ofFields options query fields

end Kinetic

/-- A plain tag in the value of a field is a reference in the text of the object. -/
lemma Template.hasReferences_text_of_holdsPlainTag {members spec : Entries Json} {field s : Text}
    (hfield : (field, .object spec) ∈ members)
    (hvalue : spec.get? "value".toList = some (.string s)) (htag : HoldsPlainTag s) :
    hasReferences (Json.object members).text = true := by
  obtain ⟨front, back, hobject⟩ := Json.exists_text_eq_of_mem hfield
  obtain ⟨front', back', hspec⟩ := Json.exists_text_eq_of_mem (Entries.mem_of_get? hvalue)
  have htext : (Json.object members).text = (front ++ front' ++ ['"']) ++
      (Json.escape s ++ ('"' :: (back' ++ back))) := by
    rw [hobject, hspec]
    simp [Json.text, Json.quote]
  rw [htext]
  exact hasReferences_append (hasReferences_escape_iff.2 htag) _ _

/-- Where an object has nothing but the value of one field, a reference in its text is a plain tag
in the value. -/
lemma Template.holdsPlainTag_of_hasReferences_text {field s : Text} (hangle : '<' ∉ field)
    (h : hasReferences (Json.object [(field, .object [("value".toList, .string s)])]).text = true) :
    HoldsPlainTag s := by
  let key := '"' :: ':' :: '{' :: (Json.quote "value".toList ++ [':', '"'])
  have htext : (Json.object [(field, .object [("value".toList, .string s)])]).text =
      '{' :: '"' :: (Json.escape field ++ key) ++ (Json.escape s ++ ['"', '}', '}']) := by
    have hquote (s : Text) : Json.quote s = '"' :: (Json.escape s ++ ['"']) := rfl
    simp [key, Json.text, Json.membersText, hquote]
  have hfront : '<' ∉ '{' :: '"' :: (Json.escape field ++ key) := by
    have hescape : '<' ∉ Json.escape field := fun hmem => by
      obtain hletter | ⟨_, hmem⟩ := Json.mem_escape hmem
      · revert hletter
        decide
      · exact hangle hmem
    have hkey : '<' ∉ key := by decide
    simp [hescape, hkey]
  rw [htext, hasReferences_append_iff hfront (by decide)] at h
  exact hasReferences_escape_iff.1 h

/-- A structured query that is an object is missing a parameter, where there are none, exactly if
its compact text references one; otherwise parameters make no difference to it. A value takes part
in this by the plain tags in it, and if there is nothing else in the object, by these alone. -/
theorem parse_nested_iff {raw : Text} {e : Envelope} {members : Entries Json}
    (hread : BridgeQuery.read raw = .ok (.envelope e)) (hstyle : e.style = .ok .kinetic)
    (hquery : e.fields.get? "query".toList = some (.object members)) :
    ((∃ name, parse raw none = .error (.missingParameter name true)) ↔
      Template.hasReferences (Json.object members).text = true) ∧
    (Template.hasReferences (Json.object members).text = false →
      ∀ parameters, parse raw parameters = parse raw none) ∧
    ∀ (field : Text) (spec : Entries Json) (s : Text), (field, .object spec) ∈ members →
      spec.get? "value".toList = some (.string s) →
      (Template.HoldsPlainTag s → ∃ name, parse raw none = .error (.missingParameter name true)) ∧
      (members = [(field, .object [("value".toList, .string s)])] → '<' ∉ field →
        (∃ name, parse raw none = .error (.missingParameter name true)) →
          Template.HoldsPlainTag s) := by
  obtain ⟨hsome, hblank⟩ := Envelope.query_of_object hquery
  have hparse (parameters : Option Parameters) : parse raw parameters =
      (Kinetic.build (Json.object members).text (.ofEnvelope e) parameters).map LuceneQuery.mk := by
    rw [parse_envelope hread hstyle]
    unfold QueryStyle.interpret Kinetic.interpret
    rw [hsome]
    rfl
  have hmissing : (∃ name, parse raw none = .error (.missingParameter name true)) ↔
      Template.hasReferences (Json.object members).text = true := by
    constructor
    · rintro ⟨name, herror⟩
      by_contra hno
      have hfails := (Kinetic.build_of_not_hasReferences (.ofEnvelope e) hblank
        (Bool.eq_false_iff.2 hno) none).2.map LuceneQuery.mk
      rw [← hparse] at hfails
      exact hfails _ herror
    · intro h
      obtain ⟨name, hbuild⟩ := Kinetic.exists_build_none (.ofEnvelope e) hblank h
      exact ⟨name, by rw [hparse, hbuild]; rfl⟩
  refine ⟨hmissing, fun hno parameters => ?_, fun field spec s hfield hvalue =>
    ⟨fun htag => ?_, ?_⟩⟩
  · rw [hparse, hparse, (Kinetic.build_of_not_hasReferences _ hblank hno parameters).1]
  · exact hmissing.2 (Template.hasReferences_text_of_holdsPlainTag hfield hvalue htag)
  · rintro rfl hangle herror
    exact Template.holdsPlainTag_of_hasReferences_text hangle (hmissing.1 herror)

/-- The text of an envelope with a given text in the place of the value of the one field of its
object. -/
def nestedText (value : Text) : Text :=
  "\x7b\"type\":\"Kinetic DSL\",\"query\":\x7b\"f\":\x7b\"value\":\"".toList ++
    (value ++ "\"\x7d\x7d\x7d".toList)

/-- The envelope with a given value for its field. -/
def nestedEnvelope (value : Text) : Envelope :=
  ⟨[("type".toList, .string "Kinetic DSL".toList),
    ("query".toList, .object [("f".toList, .object [("value".toList, .string value)])])]⟩

/-- Double quotes that stand raw in the envelope have become single ones when it is read as JSON, so
the tag is found. -/
theorem parse_nested_iff_raw :
    BridgeQuery.read (nestedText "<%=parameter[\"p\"]%>".toList) =
        .ok (.envelope (nestedEnvelope "<%= parameter['p'] %>".toList)) ∧
      ∃ name, parse (nestedText "<%=parameter[\"p\"]%>".toList) none =
        .error (.missingParameter name true) := by
  let slot : Template.Slot :=
    ⟨⟨'"', [], [], [], [], .inl rfl, rfl, rfl, rfl, rfl⟩, ['p'], by decide, by decide⟩
  let o : Template.Outline := .single
    ⟨"\x7b\"type\":\"Kinetic DSL\",\"query\":\x7b\"f\":\x7b\"value\":\"".toList,
      Template.tagFree_of_no_angle (by decide)⟩ slot
    ⟨"\"\x7d\x7d\x7d".toList, Template.tagFree_of_no_angle (by decide)⟩
  have hnormal : Template.normalize (nestedText "<%=parameter[\"p\"]%>".toList) =
      nestedText "<%= parameter['p'] %>".toList := Template.normalize_eq_fill o
  have hread : BridgeQuery.read (nestedText "<%=parameter[\"p\"]%>".toList) =
      .ok (.envelope (nestedEnvelope "<%= parameter['p'] %>".toList)) := by
    unfold BridgeQuery.read
    rw [hnormal]
    rfl
  have htag : Template.HoldsPlainTag "<%= parameter['p'] %>".toList :=
    ⟨[], .canonical, ['p'], [], ⟨rfl, by decide⟩, rfl⟩
  refine ⟨hread, ?_⟩
  obtain ⟨-, -, hvalue⟩ := parse_nested_iff hread rfl rfl
  exact (hvalue "f".toList _ _ (.head _) rfl).1 htag

/-- A value that is a tag in double quotes. -/
def quotedTag : Text :=
  "<%= parameter[\"p\"] %>".toList

/-- Double quotes that are escaped in the envelope come out escaped again, and the tag is searched
for as it stands. -/
theorem parse_nested_escaped :
    Template.hasReferences quotedTag = true ∧
      BridgeQuery.read (nestedText (Json.escape quotedTag)) =
        .ok (.envelope (nestedEnvelope quotedTag)) ∧
      parse (nestedText (Json.escape quotedTag)) none =
        .ok ⟨'f' :: ':' :: Lucene.escape quotedTag⟩ := by
  have hno {front back : Text} (hfront : '<' ∉ front) (hback : '>' ∉ back) :
      Template.hasReferences (front ++ (Json.escape quotedTag ++ back)) = false := by
    rw [Bool.eq_false_iff]
    intro h
    rw [Template.hasReferences_append_iff hfront hback, Template.hasReferences_escape_iff] at h
    exact Template.not_holdsPlainTag (by decide) h
  have hnormal {front back : Text} (hfront : '<' ∉ front) (hback : '>' ∉ back) :
      Template.normalize (front ++ (Json.escape quotedTag ++ back)) =
        front ++ (Json.escape quotedTag ++ back) :=
    Template.normalize_of_literal (Template.pieces_of_not_hasReferences (hno hfront hback))
  have hread : BridgeQuery.read (nestedText (Json.escape quotedTag)) =
      .ok (.envelope (nestedEnvelope quotedTag)) :=
    BridgeQuery.read_of_normalize (hnormal (by decide) (by decide)) rfl rfl
  let fragment := "\x7b\"f\":\x7b\"value\":\"".toList ++
    (Json.escape quotedTag ++ "\"\x7d\x7d".toList)
  have hfragment :
      Template.substitute (Template.normalize fragment) none .verbatim = .ok fragment := by
    rw [hnormal (by decide) (by decide),
      Template.substitute_of_not_hasReferences (hno (by decide) (by decide))]
  refine ⟨?_, hread, ?_⟩
  · let double : Tag.Spelling := { Tag.Spelling.canonical with quote := '"', isQuote := .inl rfl }
    exact Template.hasReferences_iff.2 ⟨[], double, ['p'], [], by decide, rfl⟩
  · have hbuild : Kinetic.interpret (nestedEnvelope quotedTag) none =
        .ok ('f' :: ':' :: Lucene.escape quotedTag) :=
      Kinetic.build_eq_ok.2 ⟨rfl, fragment, _, hfragment, rfl, rfl⟩
    have hstyle : (nestedEnvelope quotedTag).style = .ok .kinetic := rfl
    rw [parse_envelope hread hstyle]
    unfold QueryStyle.interpret
    simp only [hbuild]
    rfl

end SearchGateway
