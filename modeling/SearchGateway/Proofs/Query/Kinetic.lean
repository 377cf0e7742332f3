import SearchGateway.Proofs.Json.Hole
import SearchGateway.Proofs.Json.RoundTrip
import SearchGateway.Proofs.Query.Clauses
import SearchGateway.Proofs.Template.Demand
import SearchGateway.Proofs.Template.Normal

/-!
# Values in structured queries

A structured query takes its parameters before it is read as JSON. A value without quotes,
backslashes and control characters stays inside of its string, so where it is the value of a field,
it changes the clause of the field and nothing else (`build_value`). Any other value can end its
string or change what its string stands for (`build_value_outside`).
-/

namespace SearchGateway.Kinetic

/-- A place for the value of a field: the text of a structured query around the string under the key
`value` of the object of the field, in any layout. -/
structure Place where
  start : Text
  fields : Json.Hole (Json.maxDepth - 1)
  spec : Json.Hole (Json.maxDepth - 2)
  finish : Text
  start_spaces : start.all Json.isSpace = true
  finish_spaces : finish.all Json.isSpace = true
  isValue : spec.key.key = "value".toList

namespace Place

variable (place : Place) {v : Text}

/-- The field whose value the place is. -/
def field : Text :=
  place.fields.key.key

/-- What the field is to match, with a given value. -/
def specWith (v : Text) : Json :=
  .object (place.spec.members (.string v))

/-- The fields with a given value in the place. -/
def fieldsWith (v : Text) : Entries Json :=
  place.fields.members (place.specWith v)

/-- The matcher that the field declares. -/
def matcher : Matcher :=
  (((((place.specWith []).get? "matcher".toList)).bind Json.asString?).bind
    Matcher.ofName?).getD .exact

/-- The text in front of the place. -/
def front : Text :=
  place.start ++ (place.fields.front ++ (place.spec.front ++ ['"']))

/-- The text behind the place. -/
def back : Text :=
  '"' :: (place.spec.back ++ (place.fields.back ++ place.finish))

/-- A plain value in the place is the value of the field. -/
lemma parseObject_text (h : v.all Json.isPlain = true) :
    Json.parseObject (place.front ++ (v ++ place.back)) = .ok (place.fieldsWith v) := by
  have hstring : Json.Reads (Json.maxDepth - 2) ('"' :: (v ++ ['"'])) (.string v) := by
    have hquote := Json.reads_quote (Json.maxDepth - 2) v
    rwa [Json.quote, Json.escape_of_isPlain h] at hquote
  have hobject := place.fields.parseObject_text (place.spec.reads hstring) place.start_spaces
    place.finish_spaces
  have htext : place.front ++ (v ++ place.back) = place.start ++ (place.fields.front ++
      ((place.spec.front ++ ('"' :: (v ++ ['"']) ++ place.spec.back)) ++
        (place.fields.back ++ place.finish))) := by
    unfold front back
    simp
  rw [htext]
  exact hobject

/-- The field reads as its matcher with the value. -/
lemma read_specWith (fragment field v : Text) :
    FieldMatch.read fragment field (place.specWith v) = .ok ⟨field, place.matcher, v⟩ := by
  have hvalue : Entries.get? "value".toList (place.spec.members (.string v)) =
      some (.string v) := by
    rw [← place.isValue]
    exact place.spec.get?_members_key _
  have hmatcher : (place.specWith v).get? "matcher".toList =
      (place.specWith []).get? "matcher".toList := by
    apply place.spec.get?_members_of_ne
    rw [place.isValue]
    decide
  unfold FieldMatch.read matcher
  rw [hmatcher]
  simp only [specWith, Json.asObject?, Option.bind_some, hvalue]
  rfl

end Place

section Splice

variable {query p : Text} {before behind : List Template.Piece} {parameters : Parameters}
  {front back : Text}

/-- Pieces that do not ask for a parameter expand as without it. -/
lemma expand_put {ps : List Template.Piece} (h : .reference p ∉ ps) (v : Text) :
    Template.expand (Template.valueOf (some (parameters.put p v))) ps =
      Template.expand (Template.valueOf (some parameters)) ps := by
  refine Template.expand_congr fun name hname => ?_
  have hne : name ≠ p := by
    rintro rfl
    exact h (Template.mem_names_iff.1 hname)
  unfold Template.valueOf
  simp only [Entries.get?_put_of_ne hne]

/-- The value of the one tag for a parameter stands between what the text around the tag gives. -/
lemma substitute_put
    (hpieces : Template.pieces (Template.normalize query) = before ++ .reference p :: behind)
    (honce : .reference p ∉ before ∧ .reference p ∉ behind)
    (hfront : Template.expand (Template.valueOf (some parameters)) before = .ok front)
    (hback : Template.expand (Template.valueOf (some parameters)) behind = .ok back) (v : Text) :
    Template.substitute (Template.normalize query) (some (parameters.put p v)) .verbatim =
      .ok (front ++ (v ++ back)) := by
  have hvalue (name : Text) : (Template.valueOf (some (parameters.put p v)) name).map
      Template.Mode.verbatim.apply = Template.valueOf (some (parameters.put p v)) name := by
    cases Template.valueOf (some (parameters.put p v)) name <;> rfl
  have hself : Template.valueOf (some (parameters.put p v)) p = .ok v := by
    simp only [Template.valueOf, Entries.get?_put_self]
  unfold Template.substitute
  simp only [hvalue]
  rw [hpieces, Template.expand_append_of_ok ((expand_put honce.1 v).trans hfront),
    Template.expand_reference hself, expand_put honce.2, hback]
  rfl

end Splice

/-- Where a tag is the value of a field, once the other parameters are in place, and its parameter
stands nowhere else, a query that succeeds with some plain value succeeds with every plain value
that is not empty, and the values make no difference but to the clause of the field. -/
theorem build_value (place : Place) {query p : Text} {before behind : List Template.Piece}
    (parameters : Parameters) (options : Options)
    (hpieces : Template.pieces (Template.normalize query) = before ++ .reference p :: behind)
    (honce : .reference p ∉ before ∧ .reference p ∉ behind)
    (hfront : Template.expand (Template.valueOf (some parameters)) before = .ok place.front)
    (hback : Template.expand (Template.valueOf (some parameters)) behind = .ok place.back)
    (hallowed : options.allows place.field = true) {r : Text}
    (hx : build query options (some (parameters.put p "x".toList)) = .ok r) :
    ∃ cs₁ cs₂ : List Text, ∀ v : Text, v ≠ [] → v.all Json.isPlain = true →
      ∃ c, place.matcher.clause place.field v = some c ∧
        build query options (some (parameters.put p v)) =
          .ok (joined options (cs₁ ++ c :: cs₂)) := by
  obtain ⟨hblank, fragment, fields, hsub, hparse, hof⟩ := build_eq_ok.1 hx
  have hsubstitute := substitute_put hpieces honce hfront hback
  -- The fields around the place and their clauses are those of the query with the value `x`.
  obtain ⟨es₁, es₂, hes⟩ := place.fields.members_eq
  have hfields (v : Text) : place.fieldsWith v = es₁ ++ (place.field, place.specWith v) :: es₂ :=
    hes _
  rw [hsubstitute, Except.ok.injEq] at hsub
  rw [← hsub, place.parseObject_text (by decide), Except.ok.injEq] at hparse
  obtain ⟨cs, hcs, _, _⟩ := ofFields_eq_ok.1 hof
  rw [← hparse, hfields] at hcs
  obtain ⟨cs₁, _, h₁, hrest, _⟩ := clauses_append.1 hcs
  obtain ⟨_, cs₂, _, h₂, _⟩ := (clauses_cons hallowed).1 hrest
  -- With another value only the clause between them is a different one.
  refine ⟨cs₁, cs₂, fun v hv hplain => ?_⟩
  obtain ⟨c, hc⟩ := exists_clause place.matcher place.field hv
  have hclause : (FieldMatch.mk place.field place.matcher v).clause.toList = [c] := by
    unfold FieldMatch.clause
    rw [hc]
    rfl
  have hclauses (fragment : Text) :
      clauses options fragment (place.fieldsWith v) = .ok (cs₁ ++ c :: cs₂) := by
    rw [hfields]
    refine clauses_append.2 ⟨cs₁, _, clauses_of_ok h₁, (clauses_cons hallowed).2
      ⟨_, cs₂, place.read_specWith _ _ v, clauses_of_ok h₂, rfl⟩, ?_⟩
    rw [hclause]
    rfl
  exact ⟨c, hc, build_eq_ok.2 ⟨hblank, _, _, hsubstitute v, place.parseObject_text hplain,
    ofFields_eq_ok.2 ⟨_, hclauses _, by simp, rfl⟩⟩⟩

/-- What is read in front of the value of the second of two fields. The first one has a tag behind
the beginning of a tag. -/
def beforeSecond : List Template.Piece :=
  "\x7b\"g\":\x7b\"value\":\"<%= ".toList.map .literal ++ .reference "it's".toList ::
    "\"\x7d,\"f\":\x7b\"matcher\":\"like\",\"value\": \"".toList.map .literal

/-- What is read behind this value. -/
def behindSecond : List Template.Piece :=
  "\" \x7d\x7d".toList.map .literal

/-- The structured query with the two fields. -/
def secondField : Text :=
  "\x7b\"g\":\x7b\"value\":\"<%= <%= parameter['it's'] %>\"\x7d,".toList ++
    "\"f\":\x7b\"matcher\":\"like\",\"value\": \"<%= parameter['p'] %>\" \x7d\x7d".toList

/-- The value of the second of two fields, which is written with white space around it. -/
theorem build_value_second :
    ∃ cs₁ cs₂ : List Text, ∀ v : Text, v ≠ [] → v.all Json.isPlain = true →
      ∃ c, Matcher.like.clause "f".toList v = some c ∧
        build secondField {} (some [("it's".toList, "b".toList), ("p".toList, v)]) =
          .ok (joined {} (cs₁ ++ c :: cs₂)) := by
  let other : Json := .object [("value".toList, .string "<%= b".toList)]
  have hother : Json.Reads (Json.maxDepth - 1) other.text other :=
    Json.reads_text other ⟨by decide, trivial, trivial⟩ (by decide)
  let place : Place :=
    { start := []
      fields := ⟨[], [.compact "g".toList hother], .compact "f".toList, [], [], [], rfl, rfl, rfl,
        nofun⟩
      spec := ⟨[], [.compact "matcher".toList (Json.reads_quote _ "like".toList)],
        .compact "value".toList, [' '], [' '], [], rfl, rfl, rfl, nofun⟩
      finish := []
      start_spaces := rfl
      finish_spaces := rfl
      isValue := rfl }
  let parameters : Parameters := [("it's".toList, "b".toList)]
  have hpieces : Template.pieces (Template.normalize secondField) =
      beforeSecond ++ .reference "p".toList :: behindSecond :=
    Template.pieces_normalize_of_settled rfl (by decide) (by decide)
  have honce : .reference "p".toList ∉ beforeSecond ∧ .reference "p".toList ∉ behindSecond := by
    decide
  have hfront : Template.expand (Template.valueOf (some parameters)) beforeSecond =
    .ok place.front := rfl
  have hback : Template.expand (Template.valueOf (some parameters)) behindSecond =
    .ok place.back := rfl
  exact build_value place parameters {} hpieces honce hfront hback rfl
    (build_eq_ok.2 ⟨rfl, _, _, substitute_put hpieces honce hfront hback _, rfl, rfl⟩)

/-- A structured query with one field, whose value is a parameter. -/
def oneField : Text :=
  "\x7b\"f\":\x7b\"value\":\"<%= parameter['p'] %>\"\x7d\x7d".toList

/-- A structured query with two fields, whose values are one parameter. -/
def twoFields : Text :=
  "\x7b\"f\":\x7b\"value\":\"<%= parameter['p'] %>\"\x7d,\"g\":\x7b\"value\":\"".toList ++
    "<%= parameter['p'] %>\"\x7d\x7d".toList

/-- The name in a tag that is left open in one field and closed by the tag of another one. -/
def openName : Text :=
  "q\"\x7d,\"f\":\x7b\"value\":\"<%= parameter['p".toList

/-- A structured query with two fields, whose values are parameters, the first of them in a tag that
is left open. -/
def openTag : Text :=
  "\x7b\"g\":\x7b\"value\":\"<%= parameter['q\"\x7d,\"f\":\x7b\"value\":\"".toList ++
    "<%= parameter['p'] %>\"\x7d\x7d".toList

/-- A structured query with two fields, whose values are two parameters. -/
def twoParameters : Text :=
  "\x7b\"f\":\x7b\"value\":\"<%= parameter['p'] %>\"\x7d,\"g\":\x7b\"value\":\"".toList ++
    "<%= parameter['q'] %>\"\x7d\x7d".toList

/-- Substitution into a structured query that is written as settled pieces. -/
lemma substitute_of_settled {query : Text} {ps : List Template.Piece}
    (htext : ps.flatMap Template.Piece.text = query) (h : Template.Settled ps)
    (hline : ∀ name ∈ ps.filterMap Template.Piece.name?, '\n' ∉ name) (parameters : Parameters) :
    Template.substitute (Template.normalize query) (some parameters) .verbatim =
      Template.expand (fun name => (Template.valueOf (some parameters) name).map
        Template.Mode.verbatim.apply) ps := by
  unfold Template.substitute
  rw [Template.pieces_normalize_of_settled htext h hline]

/-- The query with one field, with a value in its place. -/
lemma substitute_oneField (v : Text) :
    Template.substitute (Template.normalize oneField) (some [("p".toList, v)]) .verbatim =
      .ok ("\x7b\"f\":\x7b\"value\":\"".toList ++ (v ++ "\"\x7d\x7d".toList)) := by
  let ps : List Template.Piece := "\x7b\"f\":\x7b\"value\":\"".toList.map .literal ++
    .reference "p".toList :: "\"\x7d\x7d".toList.map .literal
  have htext : ps.flatMap Template.Piece.text = oneField := rfl
  exact (substitute_of_settled htext (by decide) (by decide) _).trans rfl

/-- The query with two fields, with a value in both places. -/
lemma substitute_twoFields (v : Text) :
    Template.substitute (Template.normalize twoFields) (some [("p".toList, v)]) .verbatim =
      .ok ("\x7b\"f\":\x7b\"value\":\"".toList ++ (v ++
        ("\"\x7d,\"g\":\x7b\"value\":\"".toList ++ (v ++ "\"\x7d\x7d".toList)))) := by
  let ps : List Template.Piece := "\x7b\"f\":\x7b\"value\":\"".toList.map .literal ++
    .reference "p".toList :: ("\"\x7d,\"g\":\x7b\"value\":\"".toList.map .literal ++
      .reference "p".toList :: "\"\x7d\x7d".toList.map .literal)
  have htext : ps.flatMap Template.Piece.text = twoFields := rfl
  exact (substitute_of_settled htext (by decide) (by decide) _).trans rfl

/-- The query with the open tag takes the value of the one tag that is read. -/
lemma substitute_openTag (v : Text) :
    Template.substitute (Template.normalize openTag)
        (some [(openName, "z".toList), ("p".toList, v)]) .verbatim =
      .ok "\x7b\"g\":\x7b\"value\":\"z\"\x7d\x7d".toList := by
  let ps : List Template.Piece := "\x7b\"g\":\x7b\"value\":\"".toList.map .literal ++
    .reference openName :: "\"\x7d\x7d".toList.map .literal
  have htext : ps.flatMap Template.Piece.text = openTag := rfl
  exact (substitute_of_settled htext (by decide) (by decide) _).trans rfl

/-- The query with two parameters, the second of which sets the first field again. -/
lemma substitute_twoParameters :
    Template.substitute (Template.normalize twoParameters)
        (some [("q".toList, "a\"\x7d,\"f\":\x7b\"value\":\"b".toList), ("p".toList, "x".toList)])
        .verbatim =
      .ok ("\x7b\"f\":\x7b\"value\":\"x\"\x7d,\"g\":\x7b\"value\":\"".toList ++
        "a\"\x7d,\"f\":\x7b\"value\":\"b\"\x7d\x7d".toList) := by
  let ps : List Template.Piece := "\x7b\"f\":\x7b\"value\":\"".toList.map .literal ++
    .reference "p".toList :: ("\"\x7d,\"g\":\x7b\"value\":\"".toList.map .literal ++
      .reference "q".toList :: "\"\x7d\x7d".toList.map .literal)
  have htext : ps.flatMap Template.Piece.text = twoParameters := rfl
  exact (substitute_of_settled htext (by decide) (by decide) _).trans rfl

/-- A value with a quote can add clauses of its own, one with a backslash stands for another value,
and one with a control character leaves no query. A parameter that stands at two places changes two
clauses. A tag that is part of another one takes no value, and the value of another parameter can
set the field again. -/
theorem build_value_outside :
    build oneField {} (some [("p".toList, "x".toList)]) = .ok "f:x".toList ∧
      build oneField {} (some [("p".toList, "a\"\x7d,\"g\":\x7b\"value\":\"b".toList)]) =
        .ok "f:a AND g:b".toList ∧
      (∀ v ∈ ["a\"\x7d,\"g\":\x7b\"value\":\"b".toList, "\\/".toList, "\n".toList], ∀ c,
        Matcher.exact.clause "f".toList v = some c →
          build oneField {} (some [("p".toList, v)]) ≠ .ok c) ∧
      build twoFields {} (some [("p".toList, "x".toList)]) = .ok "f:x AND g:x".toList ∧
      build twoFields {} (some [("p".toList, "y".toList)]) = .ok "f:y AND g:y".toList ∧
      (∀ v, build openTag {} (some [(openName, "z".toList), ("p".toList, v)]) =
        .ok "g:z".toList) ∧
      build twoParameters {} (some [("q".toList, "a\"\x7d,\"f\":\x7b\"value\":\"b".toList),
        ("p".toList, "x".toList)]) = .ok "f:b AND g:a".toList := by
  refine ⟨?_, ?_, ?_, ?_, ?_, ?_, ?_⟩
  · exact build_eq_ok.2 ⟨rfl, _, _, substitute_oneField _, rfl, rfl⟩
  · exact build_eq_ok.2 ⟨rfl, _, _, substitute_oneField _, rfl, rfl⟩
  · intro v hv c hc hbuild
    obtain ⟨_, fragment, fields, hsub, hparse, hof⟩ := build_eq_ok.1 hbuild
    rw [substitute_oneField, Except.ok.injEq] at hsub
    subst hsub
    simp only [List.mem_cons, List.not_mem_nil, or_false] at hv
    obtain rfl | rfl | rfl := hv
    · cases hparse
      cases hof
      cases hc
    · cases hparse
      cases hof
      cases hc
    · cases hparse
  · exact build_eq_ok.2 ⟨rfl, _, _, substitute_twoFields _, rfl, rfl⟩
  · exact build_eq_ok.2 ⟨rfl, _, _, substitute_twoFields _, rfl, rfl⟩
  · exact fun v => build_eq_ok.2 ⟨rfl, _, _, substitute_openTag v, rfl, rfl⟩
  · exact build_eq_ok.2 ⟨rfl, _, _, substitute_twoParameters, rfl, rfl⟩

end SearchGateway.Kinetic
