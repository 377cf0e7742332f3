import SearchGateway.Proofs.Query.Vanishing

/-!
# Whitelists

An envelope may list the fields that can take part in its structured query. An array is enforced:
only fields whose names stand in it contribute clauses, and one without texts lets no query through.
Any other value counts as if it were absent and lets every field take part, so a query that succeeds
keeps to its whitelist exactly where the whitelist is an array (`mem_listed_iff`).
-/

namespace SearchGateway.Kinetic

/-- The names that the value of a whitelist lists. -/
def listed : Json → List Text
  | .array items => items.filterMap Json.asString?
  | _ => []

/-- The matches that fields contribute to a query: those with a value that is not empty. -/
def contributions (fields : Entries Json) : List FieldMatch :=
  fields.filterMap fun entry =>
    match FieldMatch.read [] entry.1 entry.2 with
    | .ok m => if m.value = [] then none else some m
    | .error _ => none

variable {options : Options} {fragment : Text}

/-- A field contributes the match of its value, unless it has none or an empty one. -/
lemma contributions_eq (fields : Entries Json) :
    contributions fields = fields.filterMap fun entry =>
      ((FieldMatch.givenValue? entry.2).filter (· ≠ [])).map
        (FieldMatch.mk entry.1 (FieldMatch.givenMatcher entry.2)) := by
  unfold contributions
  congr 1
  funext entry
  rw [FieldMatch.read_eq]
  cases FieldMatch.givenValue? entry.2 with
  | none => rfl
  | some v =>
    by_cases hv : v = []
    · simp [hv]
    · simp [hv]

/-- A field that contributes is one of the given fields. -/
lemma exists_of_mem_contributions {fields : Entries Json} {m : FieldMatch}
    (h : m ∈ contributions fields) : ∃ entry ∈ fields, m.field = entry.1 := by
  rw [contributions_eq] at h
  obtain ⟨entry, hentry, hm⟩ := List.mem_filterMap.1 h
  obtain ⟨v, _, rfl⟩ := Option.map_eq_some_iff.1 hm
  exact ⟨entry, hentry, rfl⟩

/-- The clause of a field is that of the match that it contributes. -/
lemma map_clause_contribution (entry : Text × Json) :
    (((FieldMatch.givenValue? entry.2).filter (· ≠ [])).map
        (FieldMatch.mk entry.1 (FieldMatch.givenMatcher entry.2))).map FieldMatch.clause =
      (clauseOf? entry).map some := by
  unfold clauseOf?
  cases FieldMatch.givenValue? entry.2 with
  | none => rfl
  | some v =>
    by_cases hv : v = []
    · rw [hv]
      rfl
    · obtain ⟨c, hc⟩ := exists_clause (FieldMatch.givenMatcher entry.2) entry.1 hv
      simp [hv, FieldMatch.clause, hc]

/-- The clauses of a query are those of the contributions of the allowed fields, one for each. -/
lemma map_clause_contributions {fields : Entries Json} {cs : List Text}
    (h : clauses options fragment fields = .ok cs) :
    (contributions (options.allowed fields)).map FieldMatch.clause = cs.map some := by
  obtain ⟨-, rfl⟩ := clauses_eq_ok_iff.1 h
  rw [contributions_eq, List.map_filterMap, List.map_filterMap]
  exact congrArg (List.filterMap · _) (funext map_clause_contribution)

/-- The fields that the value of a whitelist lets take part: those that an array lists, and all of
them where it is no array. -/
def admitted (v : Json) (fields : Entries Json) : Entries Json :=
  match v with
  | .array _ => fields.filter fun entry => (listed v).contains entry.1
  | _ => fields

/-- A whitelist is read as the fields that its value lets take part. -/
lemma allowed_ofEnvelope {e : Envelope} {v : Json}
    (hv : e.fields.get? "whitelistedFields".toList = some v) (fields : Entries Json) :
    (Options.ofEnvelope e).allowed fields = admitted v fields := by
  have hwhitelist : e.whitelist = v.asArray?.map (List.filterMap Json.asString?) := by
    unfold Envelope.whitelist
    rw [hv]
    rfl
  unfold Options.allowed Options.allows Options.ofEnvelope
  simp only [hwhitelist]
  cases v with
  | array items => rfl
  | _ => exact List.filter_eq_self.2 fun _ _ => rfl

/-- What is behind an envelope whose structured query succeeds: the fields of its object, and a
clause for each contribution of those that its whitelist lets take part. -/
lemma exists_contributions {raw : Text} {e : Envelope} {v : Json}
    (hread : BridgeQuery.read raw = .ok (.envelope e)) (hstyle : e.style = .ok .kinetic)
    (hv : e.fields.get? "whitelistedFields".toList = some v) {parameters : Option Parameters}
    {query : LuceneQuery} (hparse : parse raw parameters = .ok query) :
    ∃ fragment fields cs,
      Template.substitute (Template.normalize (e.query.getD [])) parameters .verbatim =
        .ok fragment ∧
      Json.parseObject fragment = .ok fields ∧
      (contributions (admitted v fields)).map FieldMatch.clause = cs.map some ∧ cs ≠ [] ∧
      query.text = joined (.ofEnvelope e) cs := by
  unfold parse at hparse
  rw [hread] at hparse
  obtain ⟨style, hstyle', htext⟩ := BridgeQuery.toLucene_envelope_eq_ok.1 hparse
  rw [hstyle, Except.ok.injEq] at hstyle'
  subst hstyle'
  obtain ⟨_, fragment, fields, hsub, hobject, hof⟩ := build_eq_ok.1 htext
  obtain ⟨cs, hcs, hne, hquery⟩ := ofFields_eq_ok.1 hof
  have hmap := map_clause_contributions hcs
  rw [allowed_ofEnvelope hv] at hmap
  exact ⟨fragment, fields, cs, hsub, hobject, hmap, hne, hquery⟩

/-- The contributions keep to a whitelist that is an array. -/
lemma mem_listed_of_isSome {v : Json} (hv : v.asArray?.isSome) {fields : Entries Json}
    {m : FieldMatch} (hm : m ∈ contributions (admitted v fields)) : m.field ∈ listed v := by
  cases v with
  | array items =>
    obtain ⟨entry, hentry, hfield⟩ := exists_of_mem_contributions hm
    rw [hfield]
    exact List.contains_iff_mem.1 (List.mem_filter.1 hentry).2
  | _ => cases hv

/-- Only an array lists names. -/
lemma isSome_of_mem_listed {v : Json} {field : Text} (h : field ∈ listed v) :
    v.asArray?.isSome := by
  cases v with
  | array items => rfl
  | _ => cases h

/-- A structured query keeps to the whitelist of its envelope exactly where the whitelist is an
array. Its clauses are then those of the listed fields, and without a listed name there is no query
at all; any other whitelist lets all fields take part. -/
theorem mem_listed_iff {raw : Text} {e : Envelope} {v : Json}
    (hread : BridgeQuery.read raw = .ok (.envelope e)) (hstyle : e.style = .ok .kinetic)
    (hv : e.fields.get? "whitelistedFields".toList = some v) :
    (∀ parameters query, parse raw parameters = .ok query → ∃ fragment fields cs,
      Template.substitute (Template.normalize (e.query.getD [])) parameters .verbatim =
        .ok fragment ∧
      Json.parseObject fragment = .ok fields ∧
      (contributions (admitted v fields)).map FieldMatch.clause = cs.map some ∧
      query.text = joined (.ofEnvelope e) cs ∧
      ((∀ m ∈ contributions (admitted v fields), m.field ∈ listed v) ↔ v.asArray?.isSome)) ∧
    (v.asArray?.isSome → listed v = [] → ∀ parameters query, parse raw parameters ≠ .ok query) := by
  have exists_mem {fields : Entries Json} {cs : List Text}
      (hmap : (contributions (admitted v fields)).map FieldMatch.clause = cs.map some)
      (hne : cs ≠ []) : ∃ m, m ∈ contributions (admitted v fields) := by
    apply List.exists_mem_of_ne_nil
    intro hnil
    rw [hnil] at hmap
    exact hne (List.map_eq_nil_iff.1 hmap.symm)
  refine ⟨fun parameters query hparse => ?_, fun harray hnil parameters query hparse => ?_⟩
  · obtain ⟨fragment, fields, cs, hsub, hobject, hmap, hne, hquery⟩ :=
      exists_contributions hread hstyle hv hparse
    refine ⟨fragment, fields, cs, hsub, hobject, hmap, hquery, fun hall => ?_, fun harray m hm =>
      mem_listed_of_isSome harray hm⟩
    obtain ⟨m, hm⟩ := exists_mem hmap hne
    exact isSome_of_mem_listed (hall m hm)
  · obtain ⟨_, _, _, _, _, hmap, hne, _⟩ := exists_contributions hread hstyle hv hparse
    obtain ⟨m, hm⟩ := exists_mem hmap hne
    have hlisted := mem_listed_of_isSome harray hm
    rw [hnil] at hlisted
    cases hlisted

/-- The text of an envelope with a given whitelist around the object of one field. -/
def whitelistText (whitelist : Text) : Text :=
  "\x7b\"type\":\"Kinetic DSL\",\"whitelistedFields\":".toList ++ whitelist ++
    ",\"query\":\x7b\"message\":\x7b\"value\":\"x\"\x7d\x7d\x7d".toList

/-- The members of such an envelope. -/
def whitelistMembers (v : Json) : Entries Json :=
  [("type".toList, .string "Kinetic DSL".toList), ("whitelistedFields".toList, v),
    ("query".toList,
      .object [("message".toList, .object [("value".toList, .string "x".toList)])])]

/-- Where the whitelist lets the field take part, its clause is the query. -/
lemma parse_of_read_whitelistText {whitelist : Text} {v : Json}
    (hread : BridgeQuery.read (whitelistText whitelist) = .ok (.envelope ⟨whitelistMembers v⟩))
    (hallowed : (Options.ofEnvelope ⟨whitelistMembers v⟩).allows "message".toList = true)
    (parameters : Option Parameters) :
    parse (whitelistText whitelist) parameters = .ok ⟨"message:x".toList⟩ := by
  let query : Text := "\x7b\"message\":\x7b\"value\":\"x\"\x7d\x7d".toList
  have hfree : Template.TagFree query := Template.tagFree_of_no_angle (by decide)
  have hfragment :
      Template.substitute (Template.normalize query) parameters .verbatim = .ok query := by
    rw [Template.normalize_of_tagFree hfree, Template.substitute_of_tagFree hfree]
  have hfields : Json.parseObject query =
      .ok [("message".toList, .object [("value".toList, .string "x".toList)])] := rfl
  have hclauses : clauses (.ofEnvelope ⟨whitelistMembers v⟩) query
      [("message".toList, .object [("value".toList, .string "x".toList)])] =
        .ok ["message:x".toList] :=
    (clauses_cons hallowed).2 ⟨_, [], rfl, rfl, rfl⟩
  have hbuild : interpret ⟨whitelistMembers v⟩ parameters = .ok "message:x".toList :=
    build_eq_ok.2 ⟨rfl, query, _, hfragment, hfields,
      ofFields_eq_ok.2 ⟨_, hclauses, by simp, rfl⟩⟩
  unfold parse
  rw [hread]
  exact BridgeQuery.toLucene_envelope_eq_ok.2 ⟨.kinetic, rfl, hbuild⟩

/-- An array that lists the field lets it take part, and only it. -/
theorem mem_listed_iff_array :
    parse (whitelistText "[0,\"message\"]".toList) none = .ok ⟨"message:x".toList⟩ ∧
      ∃ fragment fields cs, Json.parseObject fragment = .ok fields ∧
        (contributions (fields.filter fun entry => ["message".toList].contains entry.1)).map
          FieldMatch.clause = cs.map some ∧ "message:x".toList = Text.join " AND ".toList cs := by
  let v : Json := .array [.number (.integer 0), .string "message".toList]
  have hread : BridgeQuery.read (whitelistText "[0,\"message\"]".toList) =
      .ok (.envelope ⟨whitelistMembers v⟩) :=
    BridgeQuery.read_of_normalize
      (Template.normalize_of_tagFree (Template.tagFree_of_no_angle (by decide))) rfl rfl
  have hparse := parse_of_read_whitelistText hread rfl none
  obtain ⟨fragment, fields, cs, _, hfields, hclauses, hquery, _⟩ :=
    (mem_listed_iff hread rfl rfl).1 none _ hparse
  exact ⟨hparse, fragment, fields, cs, hfields, hclauses, hquery⟩

/-- A text in the place of the array lists nothing, not even itself, and still lets every field take
part. -/
theorem parse_whitelist_text :
    BridgeQuery.read (whitelistText "\"level\"".toList) =
        .ok (.envelope ⟨whitelistMembers (.string "level".toList)⟩) ∧
      listed (.string "level".toList) = [] ∧
      parse (whitelistText "\"level\"".toList) none = .ok ⟨"message:x".toList⟩ := by
  have hread : BridgeQuery.read (whitelistText "\"level\"".toList) =
      .ok (.envelope ⟨whitelistMembers (.string "level".toList)⟩) :=
    BridgeQuery.read_of_normalize
      (Template.normalize_of_tagFree (Template.tagFree_of_no_angle (by decide))) rfl rfl
  exact ⟨hread, rfl, parse_of_read_whitelistText hread rfl none⟩

end SearchGateway.Kinetic
