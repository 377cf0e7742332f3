import SearchGateway.Proofs.Error
import SearchGateway.Query.Kinetic

/-!
# Clauses of structured queries

What the loop over the fields of a structured query makes of them. It looks at the fields that may
take part and at no others: the first one of these without a scalar value is an error, and without
such a field each one gives its clause unless its value is empty (`clauses_eq`).
-/

namespace SearchGateway

namespace FieldMatch

/-- The text that a field is to match, that of a scalar under the key `value`. -/
def givenValue? (spec : Json) : Option Text :=
  (spec.get? "value".toList).bind scalarText?

/-- The matcher that a field declares, which is the exact one unless it names another one. -/
def givenMatcher (spec : Json) : Matcher :=
  (((spec.get? "matcher".toList).bind Json.asString?).bind Matcher.ofName?).getD .exact

/-- The error for a field without a scalar value. -/
def fault (fragment field : Text) (spec : Json) : Error :=
  match spec.get? "value".toList with
  | none | some .null => .missingFieldValue field fragment
  | some _ => .malformedQuery fragment (.notScalar field)

/-- A field with a scalar value reads as a match, and one without it is an error. -/
lemma read_eq (fragment field : Text) (spec : Json) :
    read fragment field spec =
      match givenValue? spec with
      | some v => .ok ⟨field, givenMatcher spec, v⟩
      | none => .error (fault fragment field spec) := by
  unfold read givenValue? fault
  change (match spec.get? "value".toList with
    | none | some .null => _
    | some json => _) = _
  cases spec.get? "value".toList with
  | none => rfl
  | some json => cases json <;> rfl

end FieldMatch

namespace Kinetic

/-- The fields that may take part. -/
def Options.allowed (options : Options) (fields : Entries Json) : Entries Json :=
  fields.filter fun entry => options.allows entry.1

/-- The first field that may take part and has no scalar value. -/
def Options.faulty? (options : Options) (fields : Entries Json) : Option (Text × Json) :=
  (options.allowed fields).find? fun entry => (FieldMatch.givenValue? entry.2).isNone

/-- The clause that a field gives, of which there is none for an empty value. -/
def clauseOf? (entry : Text × Json) : Option Text :=
  (FieldMatch.givenValue? entry.2).bind ((FieldMatch.givenMatcher entry.2).clause entry.1)

/-- The query that clauses make up. -/
def joined (options : Options) (cs : List Text) : Text :=
  options.lead.getD [] ++ Text.join (' ' :: (operatorOr options.operator ++ [' '])) cs

variable {options : Options} {fragment fragment' : Text}

/-- An allowed field in front is kept. -/
lemma allowed_cons {field : Text} (ha : options.allows field = true) (spec : Json)
    (fields : Entries Json) :
    options.allowed ((field, spec) :: fields) = (field, spec) :: options.allowed fields :=
  List.filter_cons_of_pos (p := fun entry : Text × Json => options.allows entry.1) ha

/-- A field in front that is not allowed is left out. -/
lemma allowed_cons_of_not {field : Text} (ha : options.allows field = false) (spec : Json)
    (fields : Entries Json) : options.allowed ((field, spec) :: fields) = options.allowed fields :=
  List.filter_cons_of_neg (p := fun entry : Text × Json => options.allows entry.1) (by simp [ha])

/-- The fields are filtered part by part. -/
lemma allowed_append (fields fields' : Entries Json) :
    options.allowed (fields ++ fields') = options.allowed fields ++ options.allowed fields' :=
  List.filter_append fields fields'

/-- A fault among the fields of two objects is the one of the first before that of the second. -/
lemma faulty?_append (fields fields' : Entries Json) :
    options.faulty? (fields ++ fields') =
      (options.faulty? fields).or (options.faulty? fields') := by
  unfold Options.faulty?
  rw [allowed_append, List.find?_append]

/-- The clauses of fields are those of the fields that may take part, in their order, unless one of
these is at fault. -/
lemma clauses_eq (options : Options) (fragment : Text) (fields : Entries Json) :
    clauses options fragment fields =
      match options.faulty? fields with
      | some entry => .error (FieldMatch.fault fragment entry.1 entry.2)
      | none => .ok ((options.allowed fields).filterMap clauseOf?) := by
  unfold Options.faulty?
  induction fields with
  | nil => rfl
  | cons entry fields ih =>
    obtain ⟨field, spec⟩ := entry
    rw [clauses]
    cases ha : options.allows field with
    | false =>
      rw [allowed_cons_of_not ha]
      exact ih
    | true =>
      -- The field is read before those behind it, so its own fault is the one that counts.
      rw [allowed_cons ha, List.find?_cons, List.filterMap_cons, FieldMatch.read_eq, ih]
      unfold clauseOf?
      cases FieldMatch.givenValue? spec with
      | none => rfl
      | some v =>
        have hfind : (some v).isNone = false := rfl
        simp only [hfind, Option.bind_some]
        cases (options.allowed fields).find? fun entry =>
            (FieldMatch.givenValue? entry.2).isNone with
        | some entry => rfl
        | none =>
          cases hc : (FieldMatch.givenMatcher spec).clause field v with
          | none => simp [bind, Except.bind, FieldMatch.clause, hc, pure, Except.pure]
          | some c => simp [bind, Except.bind, FieldMatch.clause, hc, pure, Except.pure]

/-- Fields have clauses where none of those that may take part is at fault. -/
lemma clauses_eq_ok_iff {fields : Entries Json} {cs : List Text} :
    clauses options fragment fields = .ok cs ↔
      options.faulty? fields = none ∧ (options.allowed fields).filterMap clauseOf? = cs := by
  rw [clauses_eq]
  cases options.faulty? fields with
  | some entry => simp
  | none => simp

/-- The clauses of fields do not depend on the fragment. -/
lemma clauses_of_ok {fields : Entries Json} {cs : List Text}
    (h : clauses options fragment fields = .ok cs) : clauses options fragment' fields = .ok cs :=
  clauses_eq_ok_iff.2 (clauses_eq_ok_iff.1 h)

/-- The clauses of fields that begin with an allowed one. -/
lemma clauses_cons {fields : Entries Json} {field : Text} {spec : Json}
    (ha : options.allows field = true) {cs : List Text} :
    clauses options fragment ((field, spec) :: fields) = .ok cs ↔
      ∃ m cs', FieldMatch.read fragment field spec = .ok m ∧
        clauses options fragment fields = .ok cs' ∧ cs = m.clause.toList ++ cs' := by
  rw [clauses, if_pos ha]
  simp only [bind_eq_ok]
  constructor
  · rintro ⟨m, hm, cs', h, ⟨⟩⟩
    exact ⟨m, cs', hm, h, rfl⟩
  · rintro ⟨m, cs', hm, h, rfl⟩
    exact ⟨m, hm, cs', h, rfl⟩

/-- The clauses of fields are those of the first ones and then those of the others. -/
lemma clauses_append {fields fields' : Entries Json} {cs : List Text} :
    clauses options fragment (fields ++ fields') = .ok cs ↔
      ∃ cs₁ cs₂, clauses options fragment fields = .ok cs₁ ∧
        clauses options fragment fields' = .ok cs₂ ∧ cs = cs₁ ++ cs₂ := by
  simp only [clauses_eq_ok_iff, faulty?_append, allowed_append, List.filterMap_append,
    Option.or_eq_none_iff]
  constructor
  · rintro ⟨⟨h₁, h₂⟩, rfl⟩
    exact ⟨_, _, ⟨h₁, rfl⟩, ⟨h₂, rfl⟩, rfl⟩
  · rintro ⟨_, _, ⟨h₁, rfl⟩, ⟨h₂, rfl⟩, rfl⟩
    exact ⟨⟨h₁, h₂⟩, rfl⟩

/-- The query of fields is made up of their clauses, of which there is at least one. -/
lemma ofFields_eq_ok {fields : Entries Json} {r : Text} :
    ofFields options fragment fields = .ok r ↔
      ∃ cs, clauses options fragment fields = .ok cs ∧ cs ≠ [] ∧ r = joined options cs := by
  unfold ofFields
  rw [bind_eq_ok]
  constructor
  · rintro ⟨cs, hcs, h⟩
    cases cs with
    | nil => cases h
    | cons c cs =>
      cases h
      exact ⟨_, hcs, by simp, rfl⟩
  · rintro ⟨cs, hcs, hne, rfl⟩
    obtain ⟨c, cs, rfl⟩ := List.exists_cons_of_ne_nil hne
    exact ⟨_, hcs, rfl⟩

/-- What makes a structured query succeed: it is not blank, its parameters are there, and what they
give is an object of fields. -/
lemma build_eq_ok {query : Text} {parameters : Option Parameters} {r : Text} :
    build query options parameters = .ok r ↔
      query.isBlank = false ∧ ∃ fragment fields,
        Template.substitute (Template.normalize query) parameters .verbatim = .ok fragment ∧
        Json.parseObject fragment = .ok fields ∧ ofFields options fragment fields = .ok r := by
  unfold build
  cases hb : query.isBlank with
  | true => simp [bind, Except.bind, throw, throwThe, MonadExceptOf.throw]
  | false =>
    simp only [Bool.false_eq_true, if_false, bind_eq_ok, true_and]
    constructor
    · rintro ⟨fragment, hf, h⟩
      cases hp : Json.parseObject fragment with
      | error cause =>
        simp [hp, throw, throwThe, MonadExceptOf.throw] at h
      | ok fields =>
        simp only [hp] at h
        exact ⟨fragment, fields, hf, hp, h⟩
    · rintro ⟨fragment, fields, hf, hp, h⟩
      refine ⟨fragment, hf, ?_⟩
      rw [hp]
      exact h

/-- A value that is not empty has a clause. -/
lemma exists_clause (matcher : Matcher) (field : Text) {v : Text} (h : v ≠ []) :
    ∃ c, matcher.clause field v = some c := by
  obtain ⟨d, v, rfl⟩ := List.exists_cons_of_ne_nil h
  exact ⟨_, rfl⟩

end Kinetic

end SearchGateway
