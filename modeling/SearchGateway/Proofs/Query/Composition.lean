import SearchGateway.Proofs.Json.Exchange
import SearchGateway.Proofs.Query.Vanishing
import SearchGateway.Proofs.Template.Demand

/-!
# Composition of structured queries

A structured query gives an object once its parameters are in place, and the object alone decides
what comes out: the first field at fault, or the clauses of the fields that may take part, joined in
their order (`build_meets_spec`). So two objects without a common key give the clauses of the first
and then those of the second, and fields that may not take part make no difference, whatever they
hold (`build_congr_of_listed`).
-/

namespace SearchGateway

namespace Json

/-- A text is written as members between curly braces, with white space around these. -/
def IsWritten (s : Text) (ms : List (Member (maxDepth - 1))) : Prop :=
  ∃ lead first trail : Text, lead.all isSpace = true ∧ first.all isSpace = true ∧
    trail.all isSpace = true ∧ s = lead ++ '{' :: (first ++ (Member.listText ms ++ '}' :: trail))

/-- A text that reads as an object holds its members, of which a later one replaces the value of an
earlier one with its key. -/
lemma exists_isWritten {s : Text} {fields : Entries Json} (h : parseObject s = .ok fields) :
    ∃ ms, IsWritten s ms ∧ fields = .ofList (ms.map fun m => (m.key, m.value)) := by
  obtain ⟨lead, first, trail, ms, hlead, hfirst, htrail, hs, rfl⟩ := exists_of_parseObject h
  refine ⟨ms, ⟨lead, first, trail, hlead, hfirst, htrail, hs⟩, ?_⟩
  unfold Member.entriesFrom Entries.ofList
  rw [List.foldl_map]

/-- A text that reads as an object is not blank. -/
lemma isBlank_eq_false_of_parseObject {s : Text} {fields : Entries Json}
    (h : parseObject s = .ok fields) : s.isBlank = false := by
  obtain ⟨lead, first, trail, ms, _, _, _, rfl, _⟩ := exists_of_parseObject h
  exact Text.isBlank_eq_false_of_mem (List.mem_append_right lead (.head _)) (by decide)

end Json

/-- An error that repeats another fragment. -/
def Error.inFragment (fragment : Text) : Error → Error
  | .malformedQuery _ cause => .malformedQuery fragment cause
  | .missingFieldValue field _ => .missingFieldValue field fragment
  | .emptyQuery _ => .emptyQuery fragment
  | e => e

/-- A fault of a field in one fragment is the same fault in another one. -/
lemma FieldMatch.inFragment_fault {fragment fragment' : Text} (field : Text) (spec : Json) :
    (fault fragment field spec).inFragment fragment' = fault fragment' field spec := by
  unfold fault
  split <;> rfl

namespace Kinetic

/-- A structured query gives a text and the fields that it holds, once its parameters are in
place. -/
structure Gives (query : Text) (parameters : Option Parameters) (fragment : Text)
    (fields : Entries Json) : Prop where
  expands : Template.substitute (Template.normalize query) parameters .verbatim = .ok fragment
  reads : Json.parseObject fragment = .ok fields

variable {options : Options} {query fragment : Text} {parameters : Option Parameters}
  {fields : Entries Json}

/-- A field gives a clause exactly where it has a scalar value that is not empty. -/
lemma isSome_clauseOf?_iff {entry : Text × Json} : (clauseOf? entry).isSome = true ↔
    ∃ v, FieldMatch.givenValue? entry.2 = some v ∧ v ≠ [] := by
  unfold clauseOf?
  cases FieldMatch.givenValue? entry.2 with
  | none => simp
  | some v =>
    cases v with
    | nil => simp [Matcher.clause, Lucene.escape?]
    | cons c v => simp [Matcher.clause, Lucene.escape?]

/-- Fields give the clauses of those that may take part, unless one of these is at fault or there
is no clause. -/
lemma ofFields_eq (options : Options) (fragment : Text) (fields : Entries Json) :
    ofFields options fragment fields =
      match options.faulty? fields, (options.allowed fields).filterMap clauseOf? with
      | some entry, _ => .error (FieldMatch.fault fragment entry.1 entry.2)
      | none, [] => .error (.emptyQuery fragment)
      | none, c :: cs => .ok (joined options (c :: cs)) := by
  unfold ofFields
  rw [clauses_eq]
  cases options.faulty? fields with
  | some entry => rfl
  | none => cases (options.allowed fields).filterMap clauseOf? <;> rfl

/-- Fields succeed exactly where those that may take part all have a scalar value, of which one is
not empty. -/
lemma exists_ofFields_iff : (∃ r, ofFields options fragment fields = .ok r) ↔
    (∀ entry ∈ options.allowed fields, (FieldMatch.givenValue? entry.2).isSome = true) ∧
      ∃ entry ∈ options.allowed fields, ∃ v, FieldMatch.givenValue? entry.2 = some v ∧ v ≠ [] := by
  have hfaulty : options.faulty? fields = none ↔
      ∀ entry ∈ options.allowed fields, (FieldMatch.givenValue? entry.2).isSome = true := by
    unfold Options.faulty?
    simp [List.find?_eq_none, Option.isSome_iff_ne_none]
  have hclauses : (options.allowed fields).filterMap clauseOf? ≠ [] ↔
      ∃ entry ∈ options.allowed fields,
        ∃ v, FieldMatch.givenValue? entry.2 = some v ∧ v ≠ [] := by
    simp only [← isSome_clauseOf?_iff, ne_eq, List.filterMap_eq_nil_iff, not_forall,
      Option.isSome_iff_ne_none, exists_prop]
  rw [← hfaulty, ← hclauses, ofFields_eq]
  cases options.faulty? fields with
  | some entry => simp
  | none => cases (options.allowed fields).filterMap clauseOf? <;> simp

/-- Fields that give an empty query have no clauses. -/
lemma clauses_of_emptyQuery {g : Text}
    (h : ofFields options fragment fields = .error (.emptyQuery g)) :
    clauses options fragment fields = .ok [] := by
  unfold ofFields at h
  obtain h | ⟨cs, hcs, h⟩ := bind_eq_error.1 h
  · rw [clauses_eq] at h
    cases hf : options.faulty? fields with
    | none =>
      rw [hf] at h
      cases h
    | some entry =>
      rw [hf] at h
      simp only [Except.error.injEq] at h
      unfold FieldMatch.fault at h
      split at h <;> cases h
  · cases cs with
    | nil => exact hcs
    | cons c cs => cases h

/-- The fields of two objects, one after the other, give the queries of both with the operator
between them, and one of them alone where the other one is empty. -/
lemma ofFields_append {fields' : Entries Json} {fragment' fragment'' : Text}
    (hlead : options.lead = none) :
    (∀ a b, ofFields options fragment fields = .ok a →
      ofFields options fragment' fields' = .ok b →
        ofFields options fragment'' (fields ++ fields') =
          .ok (a ++ ' ' :: (operatorOr options.operator ++ ' ' :: b))) ∧
    (∀ b, ofFields options fragment fields = .error (.emptyQuery fragment) →
      ofFields options fragment' fields' = .ok b →
        ofFields options fragment'' (fields ++ fields') = .ok b) ∧
    ∀ a, ofFields options fragment fields = .ok a →
      ofFields options fragment' fields' = .error (.emptyQuery fragment') →
        ofFields options fragment'' (fields ++ fields') = .ok a := by
  -- An object without a query has no clauses, so one list of clauses answers all three cases.
  have hboth {cs cs' : List Text} (h : clauses options fragment fields = .ok cs)
      (h' : clauses options fragment' fields' = .ok cs') :
      clauses options fragment'' (fields ++ fields') = .ok (cs ++ cs') :=
    clauses_append.2 ⟨cs, cs', clauses_of_ok h, clauses_of_ok h', rfl⟩
  refine ⟨fun a b ha hb => ?_, fun b ha hb => ?_, fun a ha hb => ?_⟩
  · obtain ⟨cs, hcs, hne, rfl⟩ := ofFields_eq_ok.1 ha
    obtain ⟨cs', hcs', hne', rfl⟩ := ofFields_eq_ok.1 hb
    refine ofFields_eq_ok.2 ⟨_, hboth hcs hcs', by simp [hne], ?_⟩
    unfold joined
    rw [hlead, Text.join_append _ hne hne']
    simp
  · obtain ⟨cs', hcs', hne', rfl⟩ := ofFields_eq_ok.1 hb
    exact ofFields_eq_ok.2 ⟨cs', hboth (clauses_of_emptyQuery ha) hcs', hne', rfl⟩
  · obtain ⟨cs, hcs, hne, rfl⟩ := ofFields_eq_ok.1 ha
    have happend := hboth hcs (clauses_of_emptyQuery hb)
    rw [List.append_nil] at happend
    exact ofFields_eq_ok.2 ⟨cs, happend, hne, rfl⟩

namespace Gives

/-- A query without references gives its own text. -/
lemma of_not_hasReferences (hfree : Template.hasReferences query = false)
    (hfields : Json.parseObject query = .ok fields) : Gives query parameters query fields := by
  refine ⟨?_, hfields⟩
  rw [Template.normalize_of_literal (Template.pieces_of_not_hasReferences hfree)]
  exact Template.substitute_of_not_hasReferences hfree parameters .verbatim

variable (h : Gives query parameters fragment fields)
include h

/-- A query that gives an object is not blank. -/
lemma isBlank_eq_false : query.isBlank = false := by
  by_contra hblank
  -- A blank query has no tags, so the object would have to stand in it as it is.
  have hangle : '<' ∉ query := fun hmem => hblank (Text.isBlank_eq_false_of_mem hmem (by decide))
  have hfree := Template.tagFree_of_no_angle hangle
  have hexpands := h.expands
  rw [Template.normalize_of_tagFree hfree, Template.substitute_of_tagFree hfree] at hexpands
  cases hexpands
  exact hblank (Json.isBlank_eq_false_of_parseObject h.reads)

/-- A query becomes what its fields give. -/
lemma build_eq (options : Options) :
    build query options parameters = ofFields options fragment fields := by
  unfold build
  rw [h.isBlank_eq_false, h.expands]
  simp only [Bool.false_eq_true, if_false, bind, Except.bind, h.reads]

end Gives

/-- A structured query succeeds exactly where it is not blank, the parameters that its canonical text
references are supplied, and it gives an object whose fields, as far as they may take part, all have
a scalar value, of which one is not empty. It references these parameters itself unless its canonical
form means something else. It becomes the clauses of the fields, in their order, and fails with the
first one at fault. Two objects without a common key give, one after the other, the queries of both
with the operator between them. -/
theorem build_meets_spec (query : Text) (options : Options) (parameters : Option Parameters) :
    ((∃ r, build query options parameters = .ok r) ↔
      query.isBlank = false ∧
      (∀ name ∈ Template.names (Template.normalize query), Template.Supplied parameters name) ∧
      ∃ fragment fields, Gives query parameters fragment fields ∧
        (∀ entry ∈ options.allowed fields, (FieldMatch.givenValue? entry.2).isSome = true) ∧
        ∃ entry ∈ options.allowed fields,
          ∃ v, FieldMatch.givenValue? entry.2 = some v ∧ v ≠ []) ∧
    (Template.Settled (Template.pieces query) →
      Template.names (Template.normalize query) = Template.names query) ∧
    ∀ fragment fields, Gives query parameters fragment fields →
      (∃ ms, Json.IsWritten fragment ms ∧ fields = .ofList (ms.map fun m => (m.key, m.value))) ∧
      (∀ r, build query options parameters = .ok r →
        r = joined options ((options.allowed fields).filterMap clauseOf?) ∧ r.isBlank = false) ∧
      (∀ entry, options.faulty? fields = some entry →
        build query options parameters = .error (FieldMatch.fault fragment entry.1 entry.2)) ∧
      ∀ other parameters' fragment' fields' whole parameters'' fragment'',
        options.lead = none → Gives other parameters' fragment' fields' →
        Gives whole parameters'' fragment'' (.ofList (fields ++ fields')) →
        fields.keys.Disjoint fields'.keys →
          (∀ a b, build query options parameters = .ok a → build other options parameters' = .ok b →
            build whole options parameters'' =
              .ok (a ++ ' ' :: (operatorOr options.operator ++ ' ' :: b))) ∧
          (∀ b, build query options parameters = .error (.emptyQuery fragment) →
            build other options parameters' = .ok b →
              build whole options parameters'' = .ok b) ∧
          ∀ a, build query options parameters = .ok a →
            build other options parameters' = .error (.emptyQuery fragment') →
              build whole options parameters'' = .ok a := by
  refine ⟨⟨?_, ?_⟩, fun hsettled => ?_,
    fun fragment fields h => ⟨Json.exists_isWritten h.reads, ?_, ?_, ?_⟩⟩
  · rintro ⟨r, hr⟩
    obtain ⟨hblank, fragment, fields, hexpands, hreads, hof⟩ := build_eq_ok.1 hr
    exact ⟨hblank, (Template.exists_substitute_iff .verbatim).1 ⟨fragment, hexpands⟩, fragment,
      fields, ⟨hexpands, hreads⟩, exists_ofFields_iff.1 ⟨r, hof⟩⟩
  · rintro ⟨_, _, fragment, fields, h, hfields⟩
    rw [h.build_eq]
    exact exists_ofFields_iff.2 hfields
  · exact congrArg (List.filterMap Template.Piece.name?)
      ((Template.pieces_normalize_iff query).2 hsettled)
  · intro r hr
    refine ⟨?_, isBlank_of_build hr⟩
    rw [h.build_eq] at hr
    obtain ⟨cs, hcs, _, rfl⟩ := ofFields_eq_ok.1 hr
    rw [(clauses_eq_ok_iff.1 hcs).2]
  · intro entry hentry
    rw [h.build_eq, ofFields_eq, hentry]
  · intro other parameters' fragment' fields' whole parameters'' fragment'' hlead h' h'' hdisjoint
    -- No key of the second object is there already, so all of its fields go to the end.
    have hnodup : (fields ++ fields').keys.Nodup := by
      unfold Entries.keys
      rw [List.map_append]
      refine List.nodup_append.2 ⟨Json.nodup_keys_of_parseObject h.reads,
        Json.nodup_keys_of_parseObject h'.reads, ?_⟩
      rintro k hk _ hk' rfl
      exact hdisjoint hk hk'
    rw [Entries.ofList_eq_self hnodup] at h''
    rw [h.build_eq, h'.build_eq, h''.build_eq]
    exact ofFields_append hlead

/-- A query for one field, beside an empty value. -/
def levelQuery : Text :=
  "\x7b\"level\":\x7b\"value\":\"3\"\x7d,\"empty\":\x7b\"value\":\"\"\x7d\x7d".toList

/-- A query for another field. -/
def messageQuery : Text :=
  "\x7b\"message\":\x7b\"value\":\"a b\",\"matcher\":\"like\"\x7d\x7d".toList

/-- Both queries in one. -/
def levelAndMessageQuery : Text :=
  "\x7b\"level\":\x7b\"value\":\"3\"\x7d,\"empty\":\x7b\"value\":\"\"\x7d,".toList ++
    "\"message\":\x7b\"value\":\"a b\",\"matcher\":\"like\"\x7d\x7d".toList

/-- What the query for the level reads as. -/
def levelFields : Entries Json :=
  [("level".toList, .object [("value".toList, .string "3".toList)]),
    ("empty".toList, .object [("value".toList, .string [])])]

/-- What the query for the message reads as. -/
def messageFields : Entries Json :=
  [("message".toList, .object [("value".toList, .string "a b".toList),
    ("matcher".toList, .string "like".toList)])]

/-- The queries of two objects come out side by side, without a clause for the empty value. -/
theorem build_meets_spec_append :
    build levelQuery ⟨none, none, some " OR ".toList⟩ none = .ok "level:3".toList ∧
      build messageQuery ⟨none, none, some " OR ".toList⟩ none = .ok "message:*a\\ b*".toList ∧
      build levelAndMessageQuery ⟨none, none, some " OR ".toList⟩ none =
        .ok "level:3 OR message:*a\\ b*".toList := by
  have hlevel : Gives levelQuery none levelQuery levelFields :=
    .of_not_hasReferences (Template.hasReferences_of_no_angle (by decide)) rfl
  have hmessage : Gives messageQuery none messageQuery messageFields :=
    .of_not_hasReferences (Template.hasReferences_of_no_angle (by decide)) rfl
  have hboth : Gives levelAndMessageQuery none levelAndMessageQuery
      (.ofList (levelFields ++ messageFields)) :=
    .of_not_hasReferences (Template.hasReferences_of_no_angle (by decide)) rfl
  have hdisjoint : levelFields.keys.Disjoint messageFields.keys := by
    simp [Entries.keys, levelFields, messageFields]
  have hlevelBuild := hlevel.build_eq ⟨none, none, some " OR ".toList⟩
  have hmessageBuild := hmessage.build_eq ⟨none, none, some " OR ".toList⟩
  obtain ⟨_, _, hspec⟩ := build_meets_spec levelQuery ⟨none, none, some " OR ".toList⟩ none
  obtain ⟨_, _, _, happend⟩ := hspec _ _ hlevel
  exact ⟨hlevelBuild, hmessageBuild,
    (happend _ _ _ _ _ _ _ rfl hmessage hboth hdisjoint).1 _ _ hlevelBuild hmessageBuild⟩

/-- Fields that may not take part do not matter, apart from the fragment in an error. -/
lemma ofFields_congr {fields' : Entries Json} {fragment' : Text}
    (h : options.allowed fields = options.allowed fields') :
    ofFields options fragment' fields' =
      (ofFields options fragment fields).mapError (Error.inFragment fragment') := by
  rw [ofFields_eq, ofFields_eq]
  unfold Options.faulty?
  rw [h]
  cases (options.allowed fields').find? fun entry => (FieldMatch.givenValue? entry.2).isNone with
  | some entry => exact congrArg Except.error (FieldMatch.inFragment_fault entry.1 entry.2).symm
  | none => cases (options.allowed fields').filterMap clauseOf? <;> rfl

/-- Fields outside a whitelist are inert: two queries without references whose listed fields are the
same, in the same order, become the same query or fail with the same error, up to the fragment that
the error repeats. -/
theorem build_congr_of_listed {query' : Text} {fields' : Entries Json}
    (hfree : Template.hasReferences query = false)
    (hfree' : Template.hasReferences query' = false)
    (hreads : Json.parseObject query = .ok fields) (hreads' : Json.parseObject query' = .ok fields')
    {listed : List Text}
    (hlisted : fields.filter (fun entry => entry.1 ∈ listed) =
      fields'.filter (fun entry => entry.1 ∈ listed))
    (lead operator : Option Text) (parameters parameters' : Option Parameters) :
    build query' ⟨lead, some listed, operator⟩ parameters' =
      (build query ⟨lead, some listed, operator⟩ parameters).mapError (Error.inFragment query') := by
  have hallowed (fields : Entries Json) : Options.allowed ⟨lead, some listed, operator⟩ fields =
      fields.filter (fun entry => entry.1 ∈ listed) :=
    List.filter_congr fun entry _ => List.contains_eq_mem entry.1 listed
  rw [(Gives.of_not_hasReferences hfree hreads).build_eq,
    (Gives.of_not_hasReferences hfree' hreads').build_eq]
  exact ofFields_congr (by rw [hallowed, hallowed, hlisted])

/-- The same field between others, none of which could take part. -/
def levelAmongOthersQuery : Text :=
  "\x7b\"a\":null,\"level\":\x7b\"value\":\"3\"\x7d,\"b\":[1],\"c\":\x7b\x7d\x7d".toList

/-- What this query reads as. -/
def levelAmongOthersFields : Entries Json :=
  [("a".toList, .null), ("level".toList, .object [("value".toList, .string "3".toList)]),
    ("b".toList, .array [.number (.integer 1)]), ("c".toList, .object [])]

/-- A listed field gives its clause among any others, and a listed field that is in neither object
leaves both queries empty. -/
theorem build_congr_of_listed_level :
    build levelAmongOthersQuery ⟨none, some ["level".toList], none⟩ none =
        .ok "level:3".toList ∧
      build levelAmongOthersQuery ⟨none, some ["x".toList], none⟩ none =
        .error (.emptyQuery levelAmongOthersQuery) := by
  have hfree := Template.hasReferences_of_no_angle (s := levelQuery) (by decide)
  have hfree' := Template.hasReferences_of_no_angle (s := levelAmongOthersQuery) (by decide)
  have hreads : Json.parseObject levelQuery = .ok levelFields := rfl
  have hreads' : Json.parseObject levelAmongOthersQuery = .ok levelAmongOthersFields := rfl
  have hlevel : Gives levelQuery none levelQuery levelFields := .of_not_hasReferences hfree hreads
  constructor
  · rw [build_congr_of_listed hfree hfree' hreads hreads' rfl none none none none, hlevel.build_eq]
    rfl
  · rw [build_congr_of_listed hfree hfree' hreads hreads' rfl none none none none, hlevel.build_eq]
    rfl

end Kinetic

end SearchGateway
