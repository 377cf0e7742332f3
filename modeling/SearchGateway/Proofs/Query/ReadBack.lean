import Mathlib.Data.List.Forall2
import SearchGateway.Proofs.Query.Composition
import SearchGateway.Proofs.Query.Whitelist

/-!
# Reading structured queries back

The text that a structured query becomes still tells what it was made of. White space of a value is
escaped, so a clause ends at the first bare white space, and there the operator stands. A field has
no colon, so the first colon of a clause ends it, and the only bare asterisks of the term behind it
are the wildcards of the matcher. So a reader that knows what stands in front of the clauses and
between them gets back all fields with their matchers and values (`build_reads_back`).
-/

namespace SearchGateway

namespace Lucene

/-- A text up to its first bare white space, and what stands from there on, for a text behind an
open backslash or not. -/
def cutBlankFrom (escaped : Bool) : Text → Text × Text
  | [] => ([], [])
  | c :: r =>
    if !escaped && isBlank c then ([], c :: r)
    else (cutBlankFrom (!escaped && decide (c = '\\')) r).map (c :: ·) id

/-- A text up to its first bare white space, and what stands from there on. -/
def cutBlank (s : Text) : Text × Text :=
  cutBlankFrom false s

/-- Whether a text is read in one go: it leaves no backslash open, and all white space in it is
literal. -/
def IsUnbroken (s : Text) : Prop :=
  isPending s = false ∧ ∀ c, .bare c ∈ glyphs s → isBlank c = false

/-- The two sides of a cut make up the text. -/
lemma cutBlankFrom_append (escaped : Bool) (s : Text) :
    (cutBlankFrom escaped s).1 ++ (cutBlankFrom escaped s).2 = s := by
  fun_induction cutBlankFrom escaped s with
  | case1 => rfl
  | case2 => rfl
  | case3 escaped c r _ ih => exact congrArg (c :: ·) ih

/-- What a cut leaves is not longer than the text. -/
lemma length_cutBlank_le (s : Text) : (cutBlank s).2.length ≤ s.length := by
  have hlength := congrArg List.length (cutBlankFrom_append false s)
  rw [List.length_append] at hlength
  unfold cutBlank
  omega

/-- A bare character of a text stands in the rest, or it is the first one and that is no backslash and
not behind one. -/
lemma bare_mem_glyphsFrom_cons {escaped : Bool} {c d : Char} {s : Text} :
    .bare d ∈ glyphsFrom escaped (c :: s) ↔ (escaped = false ∧ c ≠ '\\' ∧ d = c) ∨
      .bare d ∈ glyphsFrom (!escaped && decide (c = '\\')) s := by
  cases escaped with
  | true => simp [glyphsFrom]
  | false => by_cases hc : c = '\\' <;> simp [glyphsFrom, hc]

/-- A text without bare white space is cut off as a whole where the text behind it is cut at its
beginning. -/
lemma cutBlankFrom_append_of_bare {escaped : Bool} {s t : Text}
    (hs : ∀ c, .bare c ∈ glyphsFrom escaped s → isBlank c = false)
    (ht : cutBlankFrom (pendingFrom escaped s) t = ([], t)) :
    cutBlankFrom escaped (s ++ t) = (s, t) := by
  induction s generalizing escaped with
  | nil => exact ht
  | cons c s ih =>
    have hblank : (!escaped && isBlank c) = false := by
      cases escaped with
      | true => rfl
      | false =>
        -- A backslash is not bare, and it is no white space either.
        by_cases hc : c = '\\'
        · rw [hc]
          decide
        · exact hs c (bare_mem_glyphsFrom_cons.2 (.inl ⟨rfl, hc, rfl⟩))
    have hcut := ih (fun d hd => hs d (bare_mem_glyphsFrom_cons.2 (.inr hd))) ht
    rw [List.cons_append, cutBlankFrom, hblank, hcut]
    rfl

/-- A text without backslashes and white space is read in one go. -/
lemma isUnbroken_of_no_backslash {s : Text} (h : '\\' ∉ s) (hs : ∀ c ∈ s, isBlank c = false) :
    IsUnbroken s := by
  refine ⟨isPending_of_no_backslash h, fun c hc => ?_⟩
  rw [glyphs_of_no_backslash h] at hc
  obtain ⟨d, hd, hdc⟩ := List.mem_map.1 hc
  cases hdc
  exact hs c hd

/-- An escaped value is unbroken. -/
lemma isUnbroken_escape (v : Text) : IsUnbroken (escape v) := by
  refine ⟨isPending_escape v, fun c hc => ?_⟩
  have hneeds := skeleton_eq_nil_iff.1 (skeleton_escape v) c hc
  exact (Bool.or_eq_false_iff.1 hneeds).2

namespace IsUnbroken

variable {s t : Text}

/-- Unbroken texts make an unbroken one. -/
lemma append (hs : IsUnbroken s) (ht : IsUnbroken t) : IsUnbroken (s ++ t) := by
  refine ⟨isPending_append hs.1 ht.1, fun c hc => ?_⟩
  rw [glyphs_append hs.1, List.mem_append] at hc
  exact hc.elim (hs.2 c) (ht.2 c)

/-- A text that is read in one go is cut off in front of white space. -/
lemma cutBlank_append (h : IsUnbroken s) {c : Char} (hc : isBlank c = true) (t : Text) :
    cutBlank (s ++ c :: t) = (s, c :: t) := by
  obtain ⟨hpending, hbare⟩ := h
  unfold isPending at hpending
  refine cutBlankFrom_append_of_bare hbare ?_
  rw [hpending, cutBlankFrom, hc]
  rfl

/-- A text that is read in one go is not cut. -/
lemma cutBlank_eq (h : IsUnbroken s) : cutBlank s = (s, []) := by
  have hcut := cutBlankFrom_append_of_bare (t := []) h.2 rfl
  rwa [List.append_nil] at hcut

end IsUnbroken

end Lucene

namespace Kinetic

open Lucene

/-- The clauses of a text with a given operator between them, each of which ends at the first bare
white space. -/
def readClauses? (operator s : Text) : Option (List Text) :=
  if (cutBlank s).2 = [] then some [(cutBlank s).1]
  else
    match _h : Text.after? (cutBlank s).2 (' ' :: (operator ++ [' '])) with
    | none => none
    | some rest => (readClauses? operator rest).map ((cutBlank s).1 :: ·)
termination_by s.length
decreasing_by
  have hcut := length_cutBlank_le s
  have hrest := Tag.length_lt_of_after? _h (List.cons_ne_nil _ _)
  omega

/-- The last clause is what is left. -/
lemma readClauses?_of_isUnbroken (operator : Text) {c : Text} (hc : IsUnbroken c) :
    readClauses? operator c = some [c] := by
  rw [readClauses?, hc.cutBlank_eq, if_pos rfl]

/-- Behind a clause and the operator the next clauses stand. -/
lemma readClauses?_append (operator : Text) {c : Text} (hc : IsUnbroken c) (rest : Text) :
    readClauses? operator (c ++ (' ' :: (operator ++ [' ']) ++ rest)) =
      (readClauses? operator rest).map (c :: ·) := by
  have hcut : cutBlank (c ++ (' ' :: (operator ++ [' ']) ++ rest)) =
      (c, ' ' :: (operator ++ [' ']) ++ rest) :=
    hc.cutBlank_append (by decide) _
  -- The operator is skipped as it stands, whatever backslashes and white space it has.
  rw [readClauses?, hcut, if_neg (by simp)]
  split
  · rename_i h
    rw [Text.after?_append] at h
    cases h
  · rename_i h
    rw [Text.after?_append] at h
    cases h
    rfl

/-- Clauses that are each read in one go are read back from what they are joined to. -/
lemma readClauses?_join (operator : Text) {cs : List Text} (hcs : ∀ c ∈ cs, IsUnbroken c)
    (hne : cs ≠ []) :
    readClauses? operator (Text.join (' ' :: (operator ++ [' '])) cs) = some cs := by
  induction cs with
  | nil => exact absurd rfl hne
  | cons c cs ih =>
    obtain ⟨hc, hcs⟩ := List.forall_mem_cons.1 hcs
    cases cs with
    | nil => exact readClauses?_of_isUnbroken operator hc
    | cons c' cs =>
      rw [Text.join, List.append_assoc, readClauses?_append operator hc,
        ih hcs (List.cons_ne_nil c' cs)]
      rfl

end Kinetic

namespace Matcher

open Lucene

/-- The term of a value. -/
def term (matcher : Matcher) (value : Text) : Text :=
  matcher.wildcardBefore ++ (escape value ++ matcher.wildcardBehind)

/-- The glyphs of a term: the wildcards are bare. -/
def around (matcher : Matcher) (gs : List Glyph) : List Glyph :=
  matcher.wildcardBefore.map .bare ++ (gs ++ matcher.wildcardBehind.map .bare)

/-- The matcher that the ends of a term show. -/
def ofGlyphs (gs : List Glyph) : Matcher :=
  match gs.head? == some (.bare '*'), gs.getLast? == some (.bare '*') with
  | false, false => .exact
  | false, true => .startsWith
  | true, false => .endsWith
  | true, true => .like

section Term

variable (matcher : Matcher) (value : Text)

/-- Wildcards are made of asterisks. -/
lemma eq_of_mem_wildcard {c : Char} (h : c ∈ matcher.wildcardBefore ∨ c ∈ matcher.wildcardBehind) :
    c = '*' := by
  cases matcher with
  | exact => simp [wildcardBefore, wildcardBehind] at h
  | _ => simpa [wildcardBefore, wildcardBehind] using h

/-- Wildcards hold no backslash. -/
lemma not_mem_wildcards : '\\' ∉ matcher.wildcardBefore ∧ '\\' ∉ matcher.wildcardBehind := by
  cases matcher <;> decide

/-- A term reads as wildcards around the escaped value. -/
lemma glyphs_term : glyphs (matcher.term value) = matcher.around (glyphs (escape value)) := by
  obtain ⟨hbefore, hbehind⟩ := not_mem_wildcards matcher
  unfold term around
  rw [glyphs_append (isPending_of_no_backslash hbefore), glyphs_append (isPending_escape value),
    glyphs_of_no_backslash hbefore, glyphs_of_no_backslash hbehind]

/-- Wildcards are unbroken. -/
lemma isUnbroken_wildcards :
    IsUnbroken matcher.wildcardBefore ∧ IsUnbroken matcher.wildcardBehind := by
  obtain ⟨hbefore, hbehind⟩ := not_mem_wildcards matcher
  constructor
  · refine isUnbroken_of_no_backslash hbefore fun c hc => ?_
    rw [eq_of_mem_wildcard matcher (.inl hc)]
    decide
  · refine isUnbroken_of_no_backslash hbehind fun c hc => ?_
    rw [eq_of_mem_wildcard matcher (.inr hc)]
    decide

/-- A term is read in one go. -/
lemma isUnbroken_term : IsUnbroken (matcher.term value) := by
  obtain ⟨hbefore, hbehind⟩ := isUnbroken_wildcards matcher
  exact hbefore.append ((isUnbroken_escape value).append hbehind)

end Term

section Around

variable (matcher : Matcher) {gs : List Glyph} (hgs : .bare '*' ∉ gs)
include hgs

/-- Glyphs that have no bare asterisks are what is left without these. -/
lemma filter_around : (matcher.around gs).filter (· != .bare '*') = gs := by
  have hfilter : gs.filter (· != .bare '*') = gs :=
    List.filter_eq_self.2 fun g hg => bne_iff_ne.2 fun h => hgs (h ▸ hg)
  cases matcher <;> simp [around, wildcardBefore, wildcardBehind, hfilter]

/-- The ends show the matcher of glyphs that have no bare asterisks. -/
lemma ofGlyphs_around (hne : gs ≠ []) : ofGlyphs (matcher.around gs) = matcher := by
  -- Neither end is an asterisk of its own, so one that stands there is a wildcard.
  obtain ⟨g, hhead⟩ := Option.ne_none_iff_exists'.1 (mt List.head?_eq_none_iff.1 hne)
  obtain ⟨g', hlast⟩ := Option.ne_none_iff_exists'.1 (mt List.getLast?_eq_none_iff.1 hne)
  have hg : g ≠ .bare '*' := fun h => hgs (h ▸ List.mem_of_head? hhead)
  have hg' : g' ≠ .bare '*' := fun h => hgs (h ▸ List.mem_of_getLast? hlast)
  have hbefore : ((matcher.around gs).head? == some (.bare '*')) =
      !matcher.wildcardBefore.isEmpty := by
    unfold around
    cases matcher <;> simp [wildcardBefore, hhead, hg]
  have hbehind : ((matcher.around gs).getLast? == some (.bare '*')) =
      !matcher.wildcardBehind.isEmpty := by
    unfold around
    cases matcher <;> simp [wildcardBehind, List.getLast?_append, hlast, hg']
  unfold ofGlyphs
  rw [hbefore, hbehind]
  cases matcher <;> rfl

end Around

end Matcher

namespace FieldMatch

open Lucene

/-- The match that a clause stands for: the first colon ends its field, the ends of the term show its
matcher, and all characters of the term but bare asterisks make up its value. -/
def ofClause? (clause : Text) : Option FieldMatch :=
  (clause.cut? ':').map fun (field, term) =>
    ⟨field, .ofGlyphs (glyphs term), ((glyphs term).filter (· != .bare '*')).map Glyph.char⟩

/-- Whether a clause spells a match: behind the field and a colon stands a term that reads as bare
wildcards around a text in which no bare character has a meaning, and that stands for the value. -/
def Spells (m : FieldMatch) (clause : Text) : Prop :=
  ∃ term t, clause = m.field ++ ':' :: term ∧ glyphs term = m.matcher.around (glyphs t) ∧
    skeleton t = [] ∧ unescape t = m.value

/-- Whether a field can be told from what stands around it: it has no white space, no colon and no
backslash. -/
def HasPlainField (m : FieldMatch) : Prop :=
  ∀ c ∈ m.field, SearchGateway.isBlank c = false ∧ c ≠ ':' ∧ c ≠ '\\'

instance (m : FieldMatch) : Decidable m.HasPlainField :=
  List.decidableBAll _ m.field

variable {m : FieldMatch} {c : Text}

/-- The clause of a match is its field and its term, and its value is not empty. -/
lemma eq_of_clause (h : m.clause = some c) :
    c = m.field ++ ':' :: m.matcher.term m.value ∧ m.value ≠ [] := by
  obtain ⟨escaped, hescaped, rfl⟩ := Option.map_eq_some_iff.1 h
  constructor
  · unfold Matcher.term escape
    rw [hescaped, List.append_assoc]
    rfl
  · intro hv
    rw [hv] at hescaped
    cases hescaped

/-- The clause of a match spells it. -/
lemma spells_of_clause (h : m.clause = some c) : m.Spells c :=
  ⟨_, _, (eq_of_clause h).1, m.matcher.glyphs_term m.value, skeleton_escape m.value,
    unescape_escape m.value⟩

/-- A plain field is unbroken. -/
lemma HasPlainField.isUnbroken (h : m.HasPlainField) : IsUnbroken m.field :=
  isUnbroken_of_no_backslash (fun hc => (h _ hc).2.2 rfl) fun c hc => (h c hc).1

/-- The clause of a match whose field is plain is read in one go. -/
lemma isUnbroken_of_clause (hfield : m.HasPlainField) (h : m.clause = some c) : IsUnbroken c := by
  obtain ⟨rfl, -⟩ := eq_of_clause h
  have hcolon : IsUnbroken [':'] := ⟨rfl, fun c hc => by
    obtain rfl : c = ':' := Glyph.bare.inj (List.mem_singleton.1 hc)
    decide⟩
  exact hfield.isUnbroken.append (hcolon.append (m.matcher.isUnbroken_term m.value))

/-- A clause that spells a match with a plain field and a value stands for it. -/
lemma Spells.ofClause?_eq (h : m.Spells c) (hfield : m.HasPlainField) (hvalue : m.value ≠ []) :
    ofClause? c = some m := by
  obtain ⟨term, t, rfl, hterm, hskeleton, hunescape⟩ := h
  have hstar : Glyph.bare '*' ∉ glyphs t := fun hmem =>
    absurd (skeleton_eq_nil_iff.1 hskeleton '*' hmem) (by decide)
  have hne : glyphs t ≠ [] := by
    intro hnil
    unfold unescape at hunescape
    rw [hnil] at hunescape
    exact hvalue hunescape.symm
  have hcut := Text.cut?_append_cons (fun hc => (hfield ':' hc).2.1 rfl) term
  unfold ofClause?
  simp only [hcut, Option.map_some, hterm, Matcher.ofGlyphs_around m.matcher hstar hne,
    Matcher.filter_around m.matcher hstar]
  unfold unescape at hunescape
  rw [hunescape]

end FieldMatch

namespace Kinetic

open Lucene

/-- The matches behind a query with a given text in front of its clauses and a given operator between
them. -/
def readMatches? (lead operator : Option Text) (query : Text) : Option (List FieldMatch) := do
  let rest ← Text.after? query (lead.getD [])
  let cs ← readClauses? (operatorOr operator) rest
  cs.mapM FieldMatch.ofClause?

variable {options : Options} {query r : Text} {parameters : Option Parameters}
  {fields : Entries Json}

/-- The matches that give the clauses of a query. -/
def Options.emitted (options : Options) (fields : Entries Json) : List FieldMatch :=
  contributions (options.allowed fields)

/-- The clauses of fields are those of the emitted matches. -/
lemma forall₂_clause {fragment : Text} {cs : List Text}
    (h : clauses options fragment fields = .ok cs) :
    List.Forall₂ (fun m c => m.clause = some c) (options.emitted fields) cs := by
  have hmap := map_clause_contributions h
  rw [← List.forall₂_eq_eq_eq, List.forall₂_map_left_iff, List.forall₂_map_right_iff] at hmap
  exact hmap

/-- The clauses of matches with plain fields are each read in one go and stand for these matches. -/
lemma mapM_ofClause? {ms : List FieldMatch} {cs : List Text}
    (hplain : ∀ m ∈ ms, m.HasPlainField)
    (h : List.Forall₂ (fun m c => m.clause = some c) ms cs) :
    (∀ c ∈ cs, IsUnbroken c) ∧ cs.mapM FieldMatch.ofClause? = some ms := by
  induction h with
  | nil => exact ⟨nofun, rfl⟩
  | @cons m c ms cs hc _ ih =>
    obtain ⟨hm, hms⟩ := List.forall_mem_cons.1 hplain
    obtain ⟨hunbroken, hmapM⟩ := ih hms
    have hclause : FieldMatch.ofClause? c = some m :=
      (FieldMatch.spells_of_clause hc).ofClause?_eq hm (FieldMatch.eq_of_clause hc).2
    refine ⟨List.forall_mem_cons.2 ⟨FieldMatch.isUnbroken_of_clause hm hc, hunbroken⟩, ?_⟩
    rw [List.mapM_cons, hclause, hmapM]
    rfl

/-- What a structured query without references becomes: the text in front and then the clauses, which
are read back, and so are the emitted matches, if their fields are plain. -/
lemma exists_readClauses?_of_build (hfree : Template.hasReferences query = false)
    (hreads : Json.parseObject query = .ok fields)
    (hplain : ∀ m ∈ options.emitted fields, m.HasPlainField)
    (hbuild : build query options parameters = .ok r) :
    ∃ text cs, r = options.lead.getD [] ++ text ∧
      readClauses? (operatorOr options.operator) text = some cs ∧
      List.Forall₂ (fun m c => m.clause = some c) (options.emitted fields) cs ∧
      readMatches? options.lead options.operator r = some (options.emitted fields) := by
  rw [(Gives.of_not_hasReferences hfree hreads).build_eq] at hbuild
  obtain ⟨cs, hcs, hne, rfl⟩ := ofFields_eq_ok.1 hbuild
  obtain ⟨hunbroken, hmapM⟩ := mapM_ofClause? hplain (forall₂_clause hcs)
  have hclauses := readClauses?_join (operatorOr options.operator) hunbroken hne
  refine ⟨_, cs, rfl, hclauses, forall₂_clause hcs, ?_⟩
  unfold readMatches? joined
  simp only [Text.after?_append, Option.bind_eq_bind, Option.bind_some, hclauses, hmapM]

/-- A structured query without references can be read back from its Lucene text, if its fields are
plain. Behind the text in front, the clauses are what bare white space and the operator cut out; each
one spells a match, and these are the matches of the fields, in their order. So two queries that
become the same text emit the same matches. -/
theorem build_reads_back {lead operator : Option Text} {whitelist : Option (List Text)}
    (hfree : Template.hasReferences query = false) (hreads : Json.parseObject query = .ok fields)
    (hplain : ∀ m ∈ Options.emitted ⟨lead, whitelist, operator⟩ fields, m.HasPlainField)
    (hbuild : build query ⟨lead, whitelist, operator⟩ parameters = .ok r) :
    (∃ text cs, r = lead.getD [] ++ text ∧ readClauses? (operatorOr operator) text = some cs ∧
      List.Forall₂ (fun m c => m.clause = some c ∧ m.Spells c)
        (Options.emitted ⟨lead, whitelist, operator⟩ fields) cs) ∧
    readMatches? lead operator r = some (Options.emitted ⟨lead, whitelist, operator⟩ fields) ∧
    ∀ query' fields' whitelist' parameters', Template.hasReferences query' = false →
      Json.parseObject query' = .ok fields' →
      (∀ m ∈ Options.emitted ⟨lead, whitelist', operator⟩ fields', m.HasPlainField) →
      build query' ⟨lead, whitelist', operator⟩ parameters' = .ok r →
        Options.emitted ⟨lead, whitelist', operator⟩ fields' =
          Options.emitted ⟨lead, whitelist, operator⟩ fields := by
  obtain ⟨text, cs, hr, hclauses, hspells, hread⟩ :=
    exists_readClauses?_of_build hfree hreads hplain hbuild
  refine ⟨⟨text, cs, hr, hclauses, ?_⟩, hread, ?_⟩
  · exact hspells.imp fun m c hc => ⟨hc, FieldMatch.spells_of_clause hc⟩
  · intro query' fields' whitelist' parameters' hfree' hreads' hplain' hbuild'
    obtain ⟨_, _, _, _, _, hread'⟩ := exists_readClauses?_of_build hfree' hreads' hplain' hbuild'
    exact Option.some.inj (hread'.symm.trans hread)

/-- A query for a value that looks like a clause with a wildcard and ends with a backslash, and for
one that is a wildcard itself. -/
def disguisedQuery : Text :=
  "\x7b\"a\":\x7b\"value\":\"x OR b:y*\\\\\",\"matcher\":\"startsWith\"\x7d,".toList ++
    "\"b\":\x7b\"value\":\"*\",\"matcher\":\"endsWith\"\x7d\x7d".toList

/-- The Lucene text of this query. -/
def disguisedText : Text :=
  "a:x\\ \\O\\R\\ b\\:y\\*\\\\* OR b:*\\*".toList

/-- What this query reads as. -/
def disguisedFields : Entries Json :=
  [("a".toList, .object [("value".toList, .string "x OR b:y*\\".toList),
      ("matcher".toList, .string "startsWith".toList)]),
    ("b".toList, .object [("value".toList, .string "*".toList),
      ("matcher".toList, .string "endsWith".toList)])]

/-- What these fields are to match. -/
def disguisedMatches : List FieldMatch :=
  [⟨"a".toList, .startsWith, "x OR b:y*\\".toList⟩, ⟨"b".toList, .endsWith, "*".toList⟩]

/-- The values are told from the wildcards beside them and from the operator between them. -/
theorem build_reads_back_disguised :
    build disguisedQuery ⟨none, none, some "OR".toList⟩ none = .ok disguisedText ∧
      readMatches? none (some "OR".toList) disguisedText = some disguisedMatches := by
  have hfree := Template.hasReferences_of_no_angle (s := disguisedQuery) (by decide)
  have hreads : Json.parseObject disguisedQuery = .ok disguisedFields := rfl
  have hbuild : build disguisedQuery ⟨none, none, some "OR".toList⟩ none = .ok disguisedText :=
    ((Gives.of_not_hasReferences hfree hreads).build_eq _).trans rfl
  have hplain : ∀ m ∈ Options.emitted ⟨none, none, some "OR".toList⟩ disguisedFields,
      m.HasPlainField :=
    List.forall_mem_cons.2 ⟨by decide, List.forall_mem_singleton.2 (by decide)⟩
  exact ⟨hbuild, (build_reads_back hfree hreads hplain hbuild).2.1⟩

end Kinetic

end SearchGateway
