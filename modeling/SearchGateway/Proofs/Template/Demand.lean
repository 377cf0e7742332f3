import Mathlib.Tactic.Choose
import SearchGateway.Proofs.Error
import SearchGateway.Proofs.Template.Occurrence

/-!
# What substitution demands

Substitution looks up the names that a text references, in their order, and nothing else. So it
succeeds exactly where all of them are given, it fails with the first one that is not, and it does
not tell parameters apart that agree on these names (`substitute_demands_names`).
-/

namespace SearchGateway.Template

/-- The names of pieces are those of their references. -/
lemma mem_names_iff {ps : List Piece} {name : Text} :
    name ∈ ps.filterMap Piece.name? ↔ .reference name ∈ ps := by
  rw [List.mem_filterMap]
  constructor
  · rintro ⟨p, hp, hname⟩
    cases p with
    | literal c => cases hname
    | reference n =>
      cases hname
      exact hp
  · intro hp
    exact ⟨_, hp, rfl⟩

/-- A text references parameters exactly where it has names. -/
lemma hasReferences_iff_names {s : Text} : hasReferences s = true ↔ names s ≠ [] := by
  unfold hasReferences names
  rw [List.any_eq_true]
  constructor
  · rintro ⟨p, hp, hsome⟩
    obtain ⟨name, hname⟩ := Option.isSome_iff_exists.1 hsome
    exact List.ne_nil_of_mem (List.mem_filterMap.2 ⟨p, hp, hname⟩)
  · intro hne
    obtain ⟨name, hname⟩ := List.exists_mem_of_ne_nil _ hne
    exact ⟨_, mem_names_iff.1 hname, rfl⟩

section Expand

variable {value value' : Text → Except Error Text} {ps : List Piece}

/-- Pieces expand exactly where there is a text for each of their names. -/
lemma exists_expand_iff : (∃ t, expand value ps = .ok t) ↔
    ∀ name ∈ ps.filterMap Piece.name?, ∃ v, value name = .ok v := by
  constructor
  · rintro ⟨t, ht⟩ name hname
    exact exists_of_expand ht (mem_names_iff.1 hname)
  · intro h
    choose! text htext using h
    exact ⟨_, expand_eq_fill fun name hname => htext name (mem_names_iff.2 hname)⟩

/-- A character in front does not make pieces fail. -/
lemma expand_literal_eq_error_iff {c : Char} {e : Error} :
    expand value (.literal c :: ps) = .error e ↔ expand value ps = .error e := by
  rw [expand, bind_eq_error]
  constructor
  · rintro (h | ⟨t, _, h⟩)
    · exact h
    · cases h
  · exact .inl

/-- A reference in front makes pieces fail where it has no text, and lets them fail where it has one. -/
lemma expand_reference_eq_error_iff {name : Text} {e : Error} :
    expand value (.reference name :: ps) = .error e ↔
      value name = .error e ∨ (∃ v, value name = .ok v) ∧ expand value ps = .error e := by
  rw [expand, bind_eq_error]
  constructor
  · rintro (h | ⟨v, hv, h⟩)
    · exact .inl h
    · obtain h | ⟨t, _, h⟩ := bind_eq_error.1 h
      · exact .inr ⟨⟨v, hv⟩, h⟩
      · cases h
  · rintro (h | ⟨⟨v, hv⟩, h⟩)
    · exact .inl h
    · exact .inr ⟨v, hv, bind_eq_error.2 (.inl h)⟩

/-- Pieces fail to expand with the error of the first of their names that has no text. -/
lemma expand_eq_error_iff {e : Error} : expand value ps = .error e ↔
    ∃ before name behind, ps.filterMap Piece.name? = before ++ name :: behind ∧
      (∀ n ∈ before, ∃ v, value n = .ok v) ∧ value name = .error e := by
  induction ps with
  | nil => simp [expand]
  | cons p ps ih =>
    cases p with
    | literal c => exact expand_literal_eq_error_iff.trans ih
    | reference name =>
      have hnames : (Piece.reference name :: ps).filterMap Piece.name? =
        name :: ps.filterMap Piece.name? := rfl
      rw [expand_reference_eq_error_iff, ih, hnames]
      constructor
      · rintro (h | ⟨hv, before, n, behind, hps, hbefore, hn⟩)
        · exact ⟨[], name, _, rfl, List.forall_mem_nil _, h⟩
        · exact ⟨name :: before, n, behind, by rw [hps]; rfl,
            List.forall_mem_cons.2 ⟨hv, hbefore⟩, hn⟩
      · rintro ⟨before, n, behind, hps, hbefore, hn⟩
        cases before with
        | nil =>
          cases hps
          exact .inl hn
        | cons m before =>
          obtain ⟨rfl, hrest⟩ := List.cons.inj hps
          obtain ⟨hv, hbefore⟩ := List.forall_mem_cons.1 hbefore
          exact .inr ⟨hv, before, n, behind, hrest, hbefore, hn⟩

/-- Pieces expand alike with texts that agree on their names. -/
lemma expand_congr (h : ∀ name ∈ ps.filterMap Piece.name?, value name = value' name) :
    expand value ps = expand value' ps := by
  induction ps with
  | nil => rfl
  | cons p ps ih =>
    cases p with
    | literal c =>
      rw [expand, expand, ih h]
    | reference name =>
      rw [expand, expand, h name (.head _), ih fun n hn => h n (.tail _ hn)]

end Expand

/-- Whether a parameter is supplied. -/
def Supplied (parameters : Option Parameters) (name : Text) : Prop :=
  ∃ given, parameters = some given ∧ name ∈ given.keys

/-- A parameter is supplied exactly where its name is a key. -/
lemma supplied_some_iff {parameters : Parameters} {name : Text} :
    Supplied (some parameters) name ↔ name ∈ parameters.keys := by
  simp [Supplied]

/-- Without parameters none is supplied. -/
lemma not_supplied_none (name : Text) : ¬ Supplied none name := by
  rintro ⟨_, h, _⟩
  cases h

section Substitute

variable {parameters : Option Parameters} {given : Parameters} {s name : Text} {e : Error}
  (mode : Mode)

/-- A parameter has a value exactly where it is supplied. -/
lemma exists_map_valueOf_iff :
    (∃ v, (valueOf parameters name).map mode.apply = .ok v) ↔ Supplied parameters name := by
  cases parameters with
  | none => simp [valueOf, Except.map, not_supplied_none]
  | some given =>
    rw [supplied_some_iff, ← Entries.isSome_get?_iff]
    unfold valueOf
    cases hget : given.get? name <;> simp [Except.map, hget]

/-- A parameter whose name is no key is missing. -/
lemma map_valueOf_eq_error_iff :
    (valueOf (some given) name).map mode.apply = .error e ↔
      name ∉ given.keys ∧ e = .missingParameter name false := by
  rw [← Entries.isSome_get?_iff]
  unfold valueOf
  cases hget : given.get? name <;> simp [Except.map, hget, eq_comm]

/-- Substitution succeeds exactly where all referenced parameters are supplied. -/
lemma exists_substitute_iff :
    (∃ t, substitute s parameters mode = .ok t) ↔ ∀ name ∈ names s, Supplied parameters name := by
  unfold substitute
  simp only [exists_expand_iff, exists_map_valueOf_iff]
  rfl

/-- With parameters, substitution fails with the first referenced name that is no key. -/
lemma substitute_some_eq_error_iff :
    substitute s (some given) mode = .error e ↔
      ∃ name, (names s).find? (fun name => name ∉ given.keys) = some name ∧
        e = .missingParameter name false := by
  unfold substitute
  simp only [expand_eq_error_iff, exists_map_valueOf_iff, supplied_some_iff,
    map_valueOf_eq_error_iff, List.find?_eq_some_iff_append]
  constructor
  · rintro ⟨before, name, behind, hnames, hbefore, hname, rfl⟩
    exact ⟨name, ⟨by simpa using hname, before, behind, hnames, by simpa using hbefore⟩, rfl⟩
  · rintro ⟨name, ⟨hname, before, behind, hnames, hbefore⟩, rfl⟩
    exact ⟨before, name, behind, hnames, by simpa using hbefore, by simpa using hname, rfl⟩

/-- Without parameters, substitution fails with the first referenced name. -/
lemma substitute_none_eq_error_iff :
    substitute s none mode = .error e ↔
      ∃ name, (names s).head? = some name ∧ e = .missingParameter name true := by
  unfold substitute
  rw [expand_eq_error_iff]
  constructor
  · rintro ⟨before, name, behind, hnames, hbefore, herror⟩
    cases before with
    | nil =>
      cases herror
      exact ⟨name, by unfold names; rw [hnames]; rfl, rfl⟩
    | cons n before =>
      obtain ⟨v, hv⟩ := hbefore n (.head _)
      cases hv
  · rintro ⟨name, hname, rfl⟩
    obtain ⟨behind, hnames⟩ := List.head?_eq_some_iff.1 hname
    exact ⟨[], name, behind, hnames, List.forall_mem_nil _, rfl⟩

/-- Without parameters the first reference is missing its value. -/
lemma exists_substitute_none (h : hasReferences s = true) :
    ∃ name, substitute s none mode = .error (.missingParameter name true) := by
  obtain ⟨name, names, hnames⟩ := List.exists_cons_of_ne_nil (hasReferences_iff_names.1 h)
  exact ⟨name, (substitute_none_eq_error_iff mode).2 ⟨name, by rw [hnames]; rfl, rfl⟩⟩

end Substitute

/-- Substitution depends on the names that a text references, and demands all of them. With
parameters it succeeds exactly where every name is a key, and else fails with the first one that is
none; without parameters it succeeds exactly where there are no references, and else fails with the
first name. Parameters that agree on the names give the same result or the same error. -/
theorem substitute_demands_names (s : Text) (mode : Mode) :
    (∀ parameters : Parameters,
      ((∃ t, substitute s (some parameters) mode = .ok t) ↔
        ∀ name ∈ names s, name ∈ parameters.keys) ∧
      ∀ e, substitute s (some parameters) mode = .error e ↔
        ∃ name, (names s).find? (fun name => name ∉ parameters.keys) = some name ∧
          e = .missingParameter name false) ∧
    ((∃ t, substitute s none mode = .ok t) ↔ hasReferences s = false) ∧
    (hasReferences s = false → substitute s none mode = .ok s) ∧
    (∀ e, substitute s none mode = .error e ↔
      ∃ name, (names s).head? = some name ∧ e = .missingParameter name true) ∧
    (hasReferences s = true ↔ names s ≠ []) ∧
    ∀ parameters parameters' : Parameters,
      (∀ name ∈ names s, parameters.get? name = parameters'.get? name) →
        substitute s (some parameters) mode = substitute s (some parameters') mode := by
  refine ⟨fun parameters => ⟨?_, fun e => substitute_some_eq_error_iff mode⟩, ?_,
    fun h => substitute_of_not_hasReferences h none mode,
    fun e => substitute_none_eq_error_iff mode, hasReferences_iff_names,
    fun parameters parameters' hagree => ?_⟩
  · simp only [exists_substitute_iff, supplied_some_iff]
  · have hnone : (∀ name ∈ names s, Supplied none name) ↔ names s = [] := by
      rw [List.eq_nil_iff_forall_not_mem]
      exact forall₂_congr fun name _ => iff_false_intro (not_supplied_none name)
    rw [exists_substitute_iff, hnone, ← Bool.not_eq_true, hasReferences_iff_names, not_not]
  · refine expand_congr fun name hname => ?_
    unfold valueOf
    simp only [hagree name hname]

/-- Two tags behind something that is none, since its name has no quotes. -/
def malformedAndTwo : Text :=
  "<%= parameter[x] %>:<%= parameter['b'] %><%= parameter['c'] %>".toList

/-- What is no tag demands nothing. Of two tags the second one is missing its parameter where only
the first one has it, whatever else is given, and the first one where nothing is given at all. -/
theorem substitute_demands_names_malformed :
    names malformedAndTwo = [['b'], ['c']] ∧
      (∀ name ∈ names malformedAndTwo,
        Entries.get? name [(['b'], ['1']), (['x'], ['2'])] = Entries.get? name [(['b'], ['1'])]) ∧
      substitute malformedAndTwo (some [(['b'], ['1'])]) .lucene =
        .error (.missingParameter ['c'] false) ∧
      substitute malformedAndTwo (some [(['b'], ['1']), (['x'], ['2'])]) .lucene =
        .error (.missingParameter ['c'] false) ∧
      substitute malformedAndTwo none .lucene = .error (.missingParameter ['b'] true) := by
  let o : Outline :=
    ⟨⟨"%= parameter[x] %>:".toList, tagFree_of_no_angle (by decide)⟩,
      [(.ofName ['b'] (by decide) (by decide), ⟨[], tagFree_nil⟩),
        (.ofName ['c'] (by decide) (by decide), ⟨[], tagFree_nil⟩)]⟩
  have hnames : names malformedAndTwo = [['b'], ['c']] := by
    have htext : malformedAndTwo = '<' :: o.text := rfl
    have hpieces := pieces_cons (c := '<') (s := o.text) rfl
    unfold names
    rw [htext, hpieces]
    exact names_text o
  have hagree : ∀ name ∈ names malformedAndTwo,
      Entries.get? name [(['b'], ['1']), (['x'], ['2'])] = Entries.get? name [(['b'], ['1'])] := by
    rw [hnames]
    decide
  obtain ⟨hsome, -, -, hnone, -, hequal⟩ := substitute_demands_names malformedAndTwo .lucene
  have hone : substitute malformedAndTwo (some [(['b'], ['1'])]) .lucene =
      .error (.missingParameter ['c'] false) :=
    ((hsome _).2 _).2 ⟨['c'], by rw [hnames]; decide, rfl⟩
  exact ⟨hnames, hagree, hone, (hequal _ _ hagree).trans hone,
    (hnone _).2 ⟨['b'], by rw [hnames]; rfl, rfl⟩⟩

end SearchGateway.Template
