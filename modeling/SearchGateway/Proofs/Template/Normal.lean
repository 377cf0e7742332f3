import SearchGateway.Proofs.Entries
import SearchGateway.Proofs.Template.Outline

/-!
# Normal templates

Normalization writes every tag in its canonical form and looks at nothing else, so it may change
what the text means: a name may hold the end of a canonical tag, and the beginning of a tag that was
left open may come to be closed. Canonical text reads back as the pieces that it was written for
exactly where neither happens (`pieces_flatMap_text_iff`), and exactly then do normalization and
substitution go together (`substitute_normalize_iff`). Where all tags are read, it takes a single
quote in a name for either to happen (`settled_pieces_text`).
-/

namespace SearchGateway

namespace Text

/-- A character that is not in a head can only stand behind it. -/
lemma after?_append_cons {head : Text} {c : Char} (h : c ∉ head) (s t : Text) :
    after? (s ++ c :: t) head = (after? s head).map (· ++ c :: t) := by
  induction head generalizing s with
  | nil => cases s <;> rfl
  | cons d head ih =>
    obtain ⟨hd, hhead⟩ := List.ne_and_not_mem_of_not_mem_cons h
    cases s with
    | nil => simp [after?, Ne.symm hd]
    | cons e s =>
      by_cases he : d = e
      · simp [after?, he, ih hhead]
      · simp [after?, he]

end Text

namespace Tag

/-- A tag that closes in front of a quote closes by what stands there. -/
lemma close?_append_quote (s t : Text) :
    close? (s ++ '\'' :: t) = (close? s).map (· ++ '\'' :: t) := by
  have trimStart_quote (s : Text) : Text.trimStart (s ++ '\'' :: t) = s.trimStart ++ '\'' :: t :=
    Text.trimStartWhere_append_cons (by decide) s t
  unfold close?
  rw [trimStart_quote, Text.after?_append_cons (by decide)]
  cases s.trimStart.after? "]".toList with
  | none => rfl
  | some r =>
    simp only [Option.map_some, Option.bind_eq_bind, Option.bind_some]
    rw [trimStart_quote, Text.after?_append_cons (by decide)]

/-- In front of a quote behind which a tag closes, a text without line breaks is read as a name, but
for the first quote in it behind which the tag closes already. -/
lemma nameUntil?_append_quote {name rest tail : Text} (hline : '\n' ∉ name)
    (hclose : close? rest = some tail) :
    nameUntil? '\'' close? (name ++ '\'' :: rest) =
      some (((nameUntil? '\'' close? name).map fun (n, t) => (n, t ++ '\'' :: rest)).getD
        (name, tail)) := by
  induction name with
  | nil => simp [nameUntil?, hclose]
  | cons c name ih =>
    obtain ⟨hc, hname⟩ := List.ne_and_not_mem_of_not_mem_cons hline
    have ih := ih hname
    rw [List.cons_append, nameUntil?, nameUntil?, close?_append_quote, ih]
    by_cases hquote : c = '\''
    · cases hs : close? name with
      | some t => simp [hquote]
      | none => cases hn : nameUntil? '\'' close? name <;> simp [hquote]
    · cases hn : nameUntil? '\'' close? name <;> simp [hquote, Ne.symm hc]

end Tag

namespace Template

/-- Whether pieces can be told from their canonical text: no tag is read at a character that stands
for itself, and no name holds a quote behind which a tag would close. -/
def Settled : List Piece → Prop
  | [] => True
  | .literal c :: ps => readReference? (c :: ps.flatMap Piece.text) = none ∧ Settled ps
  | .reference name :: ps => Tag.nameUntil? '\'' Tag.close? name = none ∧ Settled ps

/-- Whether pieces are settled can be computed. -/
instance decidableSettled : DecidablePred Settled
  | [] => isTrue trivial
  | .literal _ :: ps =>
    have := decidableSettled ps
    inferInstanceAs (Decidable (_ ∧ _))
  | .reference _ :: ps =>
    have := decidableSettled ps
    inferInstanceAs (Decidable (_ ∧ _))

/-- The canonical form of a reference is read as a reference, to a name that ends at the first quote
behind which the tag closes. -/
lemma readReference?_text_append {name : Text} (hline : '\n' ∉ name) (rest : Text) :
    readReference? ((Piece.reference name).text ++ rest) =
      some (((Tag.nameUntil? '\'' Tag.close? name).map fun (n, t) =>
        (n, t ++ '\'' :: (Tag.Spelling.canonical.closing ++ rest))).getD (name, rest)) := by
  unfold readReference?
  rw [text_reference, Tag.read?_text_append _ _ _ isBlank_head_parameter]
  exact Tag.nameUntil?_append_quote hline (Tag.close?_closing _ rest)

/-- Pieces whose names have no line breaks are read back from their canonical text exactly where
they are settled. -/
lemma pieces_flatMap_text_iff {ps : List Piece}
    (hline : ∀ name, .reference name ∈ ps → '\n' ∉ name) :
    pieces (ps.flatMap Piece.text) = ps ↔ Settled ps := by
  induction ps with
  | nil => exact ⟨fun _ => trivial, fun _ => pieces_nil⟩
  | cons p ps ih =>
    have ih := ih fun name hn => hline name (.tail _ hn)
    rw [List.flatMap_cons]
    cases p with
    | literal c =>
      have htext : (Piece.literal c).text ++ ps.flatMap Piece.text =
        c :: ps.flatMap Piece.text := rfl
      rw [htext]
      cases hr : readReference? (c :: ps.flatMap Piece.text) with
      | none => simp [pieces_cons hr, Settled, hr, ih]
      | some x => simp [pieces_of_readReference? hr, Settled, hr]
    | reference name =>
      have hr := readReference?_text_append (hline name (.head _)) (ps.flatMap Piece.text)
      cases hn : Tag.nameUntil? '\'' Tag.close? name with
      | none =>
        rw [hn] at hr
        simp [pieces_of_readReference? hr, Settled, hn, ih]
      | some x =>
        -- The name that is read ends before the one that was written.
        obtain ⟨_, r, hname, _⟩ := Tag.exists_of_nameUntil? hn
        have hne : x.1 ≠ name := by
          intro he
          have hlength := congrArg List.length (he ▸ hname)
          simp at hlength
        rw [hn] at hr
        simp [pieces_of_readReference? hr, Settled, hn, hne]

/-- Settled pieces are what is read of their canonical text, and normalization leaves that text as
it is. -/
lemma pieces_normalize_of_settled {s : Text} {ps : List Piece} (htext : ps.flatMap Piece.text = s)
    (h : Settled ps) (hline : ∀ name ∈ ps.filterMap Piece.name?, '\n' ∉ name) :
    pieces (normalize s) = ps := by
  subst htext
  have hpieces : pieces (ps.flatMap Piece.text) = ps :=
    (pieces_flatMap_text_iff fun name hn => hline name (List.mem_filterMap.2 ⟨_, hn, rfl⟩)).2 h
  have hnormal : normalize (ps.flatMap Piece.text) = ps.flatMap Piece.text :=
    congrArg (List.flatMap Piece.text) hpieces
  rw [hnormal, hpieces]

/-- No name in a text has a line break. -/
lemma not_mem_line_of_mem_pieces {s name : Text} (h : .reference name ∈ pieces s) :
    '\n' ∉ name := by
  fun_induction pieces s with
  | case1 s n rest hr ih =>
    cases h with
    | head => exact (Tag.exists_spelling_of_read? hr).1
    | tail _ h => exact ih h
  | case2 => cases h
  | case3 c r hr ih =>
    cases h with
    | tail _ h => exact ih h

/-- The text that results when a reference gives way to a text for its name. -/
def Piece.fill (value : Text → Text) : Piece → Text
  | .literal c => [c]
  | .reference name => value name

/-- Different pieces can be filled with different characters. -/
lemma exists_fill_ne {p q : Piece} (h : p ≠ q) :
    ∃ value : Text → Text, ∃ a b : Char, a ≠ b ∧ p.fill value = [a] ∧ q.fill value = [b] := by
  have other (c : Char) : ∃ d : Char, d ≠ c := by
    by_cases hc : c = 'x'
    · exact ⟨'y', by rw [hc]; decide⟩
    · exact ⟨'x', Ne.symm hc⟩
  cases p with
  | literal c =>
    cases q with
    | literal d => exact ⟨id, c, d, fun hc => h (by rw [hc]), rfl, rfl⟩
    | reference n =>
      obtain ⟨d, hd⟩ := other c
      exact ⟨fun _ => [d], c, d, Ne.symm hd, rfl, rfl⟩
  | reference m =>
    cases q with
    | literal d =>
      obtain ⟨c, hc⟩ := other d
      exact ⟨fun _ => [c], c, d, hc, rfl, rfl⟩
    | reference n =>
      have hn : n ≠ m := fun hn => h (by rw [hn])
      exact ⟨fun name => if name = m then ['x'] else ['y'], 'x', 'y', by decide, if_pos rfl,
        if_neg hn⟩

/-- Pieces that are filled alike by all values are the same. -/
lemma eq_of_forall_fill {ps qs : List Piece}
    (h : ∀ value : Text → Text, ps.flatMap (Piece.fill value) = qs.flatMap (Piece.fill value)) :
    ps = qs := by
  have nonempty (p : Piece) : p.fill (fun _ => ['x']) ≠ [] := by
    cases p <;> exact List.cons_ne_nil _ _
  induction ps generalizing qs with
  | nil =>
    cases qs with
    | nil => rfl
    | cons q qs => exact absurd (List.append_eq_nil_iff.1 (h fun _ => ['x']).symm).1 (nonempty q)
  | cons p ps ih =>
    cases qs with
    | nil => exact absurd (List.append_eq_nil_iff.1 (h fun _ => ['x'])).1 (nonempty p)
    | cons q qs =>
      have hpq : p = q := by
        by_contra hne
        obtain ⟨value, a, b, hab, hp, hq⟩ := exists_fill_ne hne
        have hv := h value
        rw [List.flatMap_cons, List.flatMap_cons, hp, hq] at hv
        exact hab (List.cons.inj hv).1
      subst hpq
      rw [ih fun value => List.append_cancel_left (h value)]

/-- Where every reference has a text, pieces expand to their filled form. -/
lemma expand_eq_fill {lookup : Text → Except Error Text} {value : Text → Text} {ps : List Piece}
    (h : ∀ name, .reference name ∈ ps → lookup name = .ok (value name)) :
    expand lookup ps = .ok (ps.flatMap (Piece.fill value)) := by
  induction ps with
  | nil => rfl
  | cons p ps ih =>
    have ih := ih fun name hn => h name (.tail _ hn)
    cases p with
    | literal c =>
      rw [expand, ih]
      rfl
    | reference name =>
      rw [expand_reference (h name (.head _)), ih]
      rfl

/-- Texts that take all parameters alike have the same pieces. -/
lemma pieces_eq_of_substitute {s t : Text}
    (h : ∀ parameters, substitute s (some parameters) .verbatim =
      substitute t (some parameters) .verbatim) : pieces s = pieces t := by
  apply eq_of_forall_fill
  intro value
  -- These parameters give every name of both texts its value.
  let parameters : Parameters := (names s ++ names t).map fun name => (name, value name)
  have hvalue (u : Text) (hu : ∀ name, .reference name ∈ pieces u → name ∈ names s ++ names t) :
      substitute u (some parameters) .verbatim = .ok ((pieces u).flatMap (Piece.fill value)) := by
    apply expand_eq_fill
    intro name hn
    have hget : parameters.get? name = some (value name) := Entries.get?_map_self (hu name hn)
    simp only [valueOf, hget]
    rfl
  have hs := hvalue s fun name hn =>
    List.mem_append_left _ (List.mem_filterMap.2 ⟨_, hn, rfl⟩)
  have ht := hvalue t fun name hn =>
    List.mem_append_right _ (List.mem_filterMap.2 ⟨_, hn, rfl⟩)
  exact Except.ok.inj (hs.symm.trans ((h parameters).trans ht))

/-- A text and its canonical text have the same pieces exactly where the pieces are settled. -/
lemma pieces_normalize_iff (s : Text) : pieces (normalize s) = pieces s ↔ Settled (pieces s) :=
  pieces_flatMap_text_iff fun _ => not_mem_line_of_mem_pieces

/-- A text whose tags are all read and whose names hold no single quotes is settled. -/
lemma settled_pieces_text (o : Outline) (hquote : ∀ name ∈ o.names, '\'' ∉ name) :
    Settled (pieces o.text) :=
  (pieces_normalize_iff o.text).1 (pieces_normalize o hquote)

/-- Normalization keeps the meaning of a text, and changes nothing when it is done again, exactly
where the pieces of the text are settled: the canonical text then gives the same result or the same
error as the text, for all parameters and in every mode. -/
theorem substitute_normalize_iff (s : Text) :
    (normalize (normalize s) = normalize s ∧ ∀ parameters mode,
        substitute (normalize s) parameters mode = substitute s parameters mode) ↔
      Settled (pieces s) := by
  rw [← pieces_normalize_iff]
  constructor
  · intro h
    exact pieces_eq_of_substitute fun parameters => h.2 (some parameters) .verbatim
  · intro h
    refine ⟨congrArg (List.flatMap Piece.text) h, fun parameters mode => ?_⟩
    unfold substitute
    rw [h]

/-- A tag in double quotes with white space as in canonical tags. -/
def doubleQuoted (name : Text) (hquote : '"' ∉ name) (hline : '\n' ∉ name) : Slot :=
  ⟨{ Tag.Spelling.canonical with quote := '"', isQuote := .inl rfl }, name, hquote, hline⟩

/-- A template with one tag, whose name holds the end of a canonical tag. -/
def closedEarly : Outline :=
  .single ⟨"f:".toList, by decide⟩ (doubleQuoted "a'] %>".toList (by decide) (by decide))
    ⟨[], tagFree_nil⟩

/-- A text with a tag that is left open and another one behind it. -/
def leftOpen : Text :=
  "<%=parameter['x <%= parameter[\"y\"] %>".toList

/-- The canonical form of a text may ask for another parameter than the text does, and may have a
canonical form of its own. -/
theorem substitute_normalize_closedEarly :
    closedEarly.text = "f:<%= parameter[\"a'] %>\"] %>".toList ∧
      substitute closedEarly.text (some [("a'] %>".toList, ['v'])]) .lucene = .ok "f:v".toList ∧
      substitute (normalize closedEarly.text) (some [("a'] %>".toList, ['v'])]) .lucene =
        .error (.missingParameter ['a'] false) ∧
      normalize (normalize leftOpen) ≠ normalize leftOpen := by
  refine ⟨rfl, ?_, ?_, ?_⟩
  · rw [substitute_text closedEarly .lucene (by decide)]
    rfl
  · let again : Outline := .single ⟨"f:".toList, by decide⟩
      (.ofName ['a'] (by decide) (by decide)) ⟨"'] %>".toList, by decide⟩
    have hnormal : normalize closedEarly.text = again.text := by
      rw [normalize_eq_fill]
      rfl
    unfold substitute
    rw [hnormal, pieces_text]
    rfl
  · let rest : Outline := .single
      ⟨"%=parameter['x ".toList, tagFree_of_no_angle (by decide)⟩
      (doubleQuoted ['y'] (by decide) (by decide)) ⟨[], tagFree_nil⟩
    have hopen : leftOpen = '<' :: rest.text := rfl
    have hnormal : normalize leftOpen = "<%=parameter['x <%= parameter['y'] %>".toList := by
      rw [hopen, normalize_cons rfl, normalize_eq_fill]
      rfl
    have hread : readReference? "<%=parameter['x <%= parameter['y'] %>".toList =
        some ("x <%= parameter['y".toList, []) := rfl
    rw [hnormal, normalize_of_readReference? hread, normalize_nil]
    decide

end Template

end SearchGateway
