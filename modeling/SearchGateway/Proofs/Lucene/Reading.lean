import SearchGateway.Proofs.Lucene.SinglePass

/-!
# Reading Lucene text

How Lucene reads a text: from left to right, a backslash makes the character behind it literal and
every other character is bare. A bare reserved or blank character has a meaning of its own; the
sequence of these is the syntax skeleton of a text. Where every backslash of a value gets one of its
own, the characters with a backslash are literal and all others are bare (`read_escapeWhere_cons`).
So an escaped value has an empty skeleton (`skeleton_escape`) and reads back as itself
(`unescape_escape`): escaping loses nothing and hides everything (`escape?_reads_back`).
-/

namespace SearchGateway.Lucene

/-- A character of a text as Lucene reads it. -/
inductive Glyph where
  /-- A character that stands there as it is. -/
  | bare (c : Char)
  /-- A character behind a backslash. -/
  | literal (c : Char)
  deriving DecidableEq, Repr

namespace Glyph

/-- The character that a glyph stands for. -/
def char : Glyph → Char
  | bare c => c
  | literal c => c

/-- Whether a glyph has a meaning of its own in a query. -/
def isSyntax : Glyph → Bool
  | bare c => needsEscape c
  | literal _ => false

end Glyph

/-- The glyphs of a text that stands behind an open backslash or not. -/
def glyphsFrom (escaped : Bool) : Text → List Glyph
  | [] => []
  | c :: r =>
    if escaped then .literal c :: glyphsFrom false r
    else if c = '\\' then glyphsFrom true r
    else .bare c :: glyphsFrom false r

/-- Whether a backslash is open behind a text that stands behind an open backslash or not. -/
def pendingFrom (escaped : Bool) : Text → Bool
  | [] => escaped
  | c :: r => pendingFrom (!escaped && decide (c = '\\')) r

/-- The glyphs of a text. -/
def glyphs (s : Text) : List Glyph :=
  glyphsFrom false s

/-- Whether a text ends with a backslash that makes nothing literal. -/
def isPending (s : Text) : Bool :=
  pendingFrom false s

/-- What a text stands for when no character of it has a meaning. -/
def unescape (s : Text) : Text :=
  (glyphs s).map Glyph.char

/-- The bare reserved and blank characters of a text, in order. -/
def skeleton (s : Text) : Text :=
  ((glyphs s).filter Glyph.isSyntax).map Glyph.char

/-- Reading a text and then another goes on from where the first one ended. -/
lemma glyphsFrom_append (e : Bool) (s t : Text) :
    glyphsFrom e (s ++ t) = glyphsFrom e s ++ glyphsFrom (pendingFrom e s) t := by
  induction s generalizing e with
  | nil => rfl
  | cons c s ih =>
    cases e with
    | true => simp [glyphsFrom, pendingFrom, ih]
    | false =>
      by_cases hc : c = '\\'
      · simp [glyphsFrom, pendingFrom, ih, hc]
      · simp [glyphsFrom, pendingFrom, ih, hc]

/-- The state behind two texts is that behind the second, read on from the first. -/
lemma pendingFrom_append (e : Bool) (s t : Text) :
    pendingFrom e (s ++ t) = pendingFrom (pendingFrom e s) t := by
  induction s generalizing e with
  | nil => rfl
  | cons c s ih => exact ih _

/-- A text that leaves no backslash open does not touch what stands behind it. -/
lemma glyphs_append {s : Text} (h : isPending s = false) (t : Text) :
    glyphs (s ++ t) = glyphs s ++ glyphs t := by
  unfold isPending at h
  rw [glyphs, glyphsFrom_append, h]
  rfl

/-- Nothing is open behind two texts that each leave nothing open. -/
lemma isPending_append {s t : Text} (hs : isPending s = false) (ht : isPending t = false) :
    isPending (s ++ t) = false := by
  unfold isPending at *
  rw [pendingFrom_append, hs, ht]

/-- The skeleton of two texts is that of the first and then that of the second. -/
lemma skeleton_append {s : Text} (h : isPending s = false) (t : Text) :
    skeleton (s ++ t) = skeleton s ++ skeleton t := by
  simp [skeleton, glyphs_append h]

/-- A text without a backslash is read as it stands. -/
lemma glyphs_of_no_backslash {s : Text} (h : '\\' ∉ s) : glyphs s = s.map .bare := by
  unfold glyphs
  induction s with
  | nil => rfl
  | cons c s ih =>
    obtain ⟨hc, hs⟩ := List.ne_and_not_mem_of_not_mem_cons h
    simp [glyphsFrom, Ne.symm hc, ih hs]

/-- A text without a backslash leaves none open. -/
lemma isPending_of_no_backslash {s : Text} (h : '\\' ∉ s) : isPending s = false := by
  unfold isPending
  induction s with
  | nil => rfl
  | cons c s ih =>
    obtain ⟨hc, hs⟩ := List.ne_and_not_mem_of_not_mem_cons h
    simp [pendingFrom, Ne.symm hc, ih hs]

/-- A text without a backslash stands for itself. -/
lemma unescape_of_no_backslash {s : Text} (h : '\\' ∉ s) : unescape s = s := by
  unfold unescape
  rw [glyphs_of_no_backslash h, List.map_map]
  exact List.map_id s

/-- The skeleton of a text without a backslash is that of its characters. -/
lemma skeleton_of_no_backslash {s : Text} (h : '\\' ∉ s) : skeleton s = s.filter needsEscape := by
  unfold skeleton
  rw [glyphs_of_no_backslash h, List.filter_map, List.map_map]
  exact List.map_id _

/-- A text reads without syntax where none of its bare characters has a meaning of its own. -/
lemma skeleton_eq_nil_iff {s : Text} :
    skeleton s = [] ↔ ∀ c, .bare c ∈ glyphs s → needsEscape c = false := by
  show ((glyphs s).filter Glyph.isSyntax).map Glyph.char = [] ↔ _
  rw [List.map_eq_nil_iff, List.filter_eq_nil_iff]
  constructor
  · intro h c hc
    exact Bool.eq_false_of_not_eq_true (h (.bare c) hc)
  · intro h g hg
    cases g with
    | literal c => exact Bool.false_ne_true
    | bare c => exact ne_true_of_eq_false (h c hg)

section EscapeWhere

variable {picks : Text → Char → Text → Prop} [∀ s c t, Decidable (picks s c t)]
  (hslash : ∀ s t, picks s '\\' t)

include hslash

/-- A character that is picked is read as literal, any other one as bare, and what stands behind it
is read on its own. -/
lemma read_escapeWhere_cons (s : Text) (c : Char) (t : Text) :
    glyphs (escapeWhere picks s (c :: t)) =
        (if picks s c t then .literal c else .bare c) ::
          glyphs (escapeWhere picks (s ++ [c]) t) ∧
      isPending (escapeWhere picks s (c :: t)) = isPending (escapeWhere picks (s ++ [c]) t) := by
  rw [escapeWhere]
  split
  · exact ⟨rfl, rfl⟩
  · rename_i h
    have hc : c ≠ '\\' := by
      rintro rfl
      exact h (hslash s t)
    constructor
    · show (if c = '\\' then _ else _) = _
      exact if_neg hc
    · show pendingFrom (decide (c = '\\')) _ = _
      rw [decide_eq_false hc]
      rfl

/-- Picked backslashes leave none open. -/
lemma isPending_escapeWhere (s v : Text) : isPending (escapeWhere picks s v) = false := by
  induction v generalizing s with
  | nil => rfl
  | cons c v ih => exact (read_escapeWhere_cons hslash s c v).2.trans (ih (s ++ [c]))

/-- A text with backslashes before the characters that are picked stands for the text. -/
lemma unescape_escapeWhere (s v : Text) : unescape (escapeWhere picks s v) = v := by
  induction v generalizing s with
  | nil => rfl
  | cons c v ih =>
    show (glyphs (escapeWhere picks s (c :: v))).map Glyph.char = c :: v
    rw [(read_escapeWhere_cons hslash s c v).1, List.map_cons]
    exact congrArg₂ List.cons (by split <;> rfl) (ih (s ++ [c]))

/-- A text is read with a bare character at its beginning where that is not picked. -/
lemma bare_cons_prefix_iff {s v : Text} {c : Char} {gs : List Glyph} :
    .bare c :: gs <+: glyphs (escapeWhere picks s v) ↔
      ∃ t, v = c :: t ∧ ¬ picks s c t ∧ gs <+: glyphs (escapeWhere picks (s ++ [c]) t) := by
  cases v with
  | nil => exact ⟨fun h => absurd (List.prefix_nil.1 h) nofun, nofun⟩
  | cons d v =>
    rw [(read_escapeWhere_cons hslash s d v).1, List.cons_prefix_cons]
    constructor
    · rintro ⟨hd, hgs⟩
      split at hd
      · cases hd
      · rename_i h
        cases hd
        exact ⟨v, rfl, h, hgs⟩
    · rintro ⟨t, hv, h, hgs⟩
      cases hv
      rw [if_neg h]
      exact ⟨rfl, hgs⟩

/-- Bare characters in a row begin with one that is not picked. -/
lemma bare_cons_infix_iff {s v : Text} {c : Char} {gs : List Glyph} :
    .bare c :: gs <:+: glyphs (escapeWhere picks s v) ↔
      ∃ a t, v = a ++ c :: t ∧ ¬ picks (s ++ a) c t ∧
        gs <+: glyphs (escapeWhere picks (s ++ a ++ [c]) t) := by
  induction v generalizing s with
  | nil =>
    refine ⟨fun h => absurd (List.infix_nil.1 h) nofun, ?_⟩
    rintro ⟨a, t, h, -⟩
    simp at h
  | cons d v ih =>
    rw [(read_escapeWhere_cons hslash s d v).1, List.infix_cons_iff, ih,
      ← (read_escapeWhere_cons hslash s d v).1, bare_cons_prefix_iff hslash]
    constructor
    · rintro (⟨t, hv, hc, hgs⟩ | ⟨a, t, hv, hc, hgs⟩)
      · exact ⟨[], t, hv, by simpa using hc, by simpa using hgs⟩
      · exact ⟨d :: a, t, by rw [hv]; rfl, by simpa using hc, by simpa using hgs⟩
    · rintro ⟨a, t, hv, hc, hgs⟩
      cases a with
      | nil =>
        rw [List.append_nil] at hc hgs
        exact .inl ⟨t, hv, hc, hgs⟩
      | cons e a =>
        cases hv
        exact .inr ⟨a, t, rfl, by simpa using hc, by simpa using hgs⟩

end EscapeWhere

/-- A backslash in a value is escaped. -/
lemma isEscaped_backslash (s t : Text) : IsEscaped s '\\' t :=
  .inl (by decide)

/-- An escaped value leaves no backslash open. -/
lemma isPending_escape (v : Text) : isPending (escape v) = false := by
  rw [escape_eq_escapeWhere]
  exact isPending_escapeWhere isEscaped_backslash [] v

/-- An escaped value reads back as itself. -/
lemma unescape_escape (v : Text) : unescape (escape v) = v := by
  rw [escape_eq_escapeWhere]
  exact unescape_escapeWhere isEscaped_backslash [] v

/-- No bare character of an escaped value has a meaning of its own. -/
lemma skeleton_escape (v : Text) : skeleton (escape v) = [] := by
  refine skeleton_eq_nil_iff.2 fun c hc => ?_
  rw [escape_eq_escapeWhere] at hc
  obtain ⟨gs, gs', hgs⟩ := List.append_of_mem hc
  have hinfix : [.bare c] <:+: glyphs (escapeWhere IsEscaped [] v) := ⟨gs, gs', by simp [hgs]⟩
  obtain ⟨a, t, -, hpick, -⟩ := (bare_cons_infix_iff isEscaped_backslash).1 hinfix
  exact Bool.eq_false_of_not_eq_true fun h => hpick (.inl h)

/-- Escaping hides a value completely and loses nothing: Lucene reads back the value, in which no
character has a meaning of its own, so no other value is escaped alike, and escaping once more
changes the text unless there was nothing to escape. -/
theorem escape?_reads_back {v : Text} (hv : v ≠ []) :
    ∃ t, escape? v = some t ∧ isPending t = false ∧ unescape t = v ∧
      (∀ c, .bare c ∈ glyphs t →
        c ∉ "*+-=~><\"?^$\x7b\x7d():!/[]\\".toList ∧ isBlank c = false) ∧
      (∀ w, escape? w = some t → w = v) ∧ (escape? t = some t ↔ t = v) := by
  have hinjective (w : Text) (h : escape? w = some (escape v)) : w = v := by
    have hw : escape w = escape v := by
      rw [escape, h]
      rfl
    rw [← unescape_escape w, hw, unescape_escape]
  refine ⟨escape v, escape?_eq_some hv, isPending_escape v, unescape_escape v, ?_, hinjective, ?_⟩
  · intro c hc
    have hneeds := skeleton_eq_nil_iff.1 (skeleton_escape v) c hc
    obtain ⟨hreserved, hblank⟩ := Bool.or_eq_false_iff.1 hneeds
    exact ⟨fun h => Bool.eq_false_iff.1 hreserved (List.contains_iff_mem.2 h), hblank⟩
  · constructor
    · exact hinjective (escape v)
    · intro h
      rw [h]
      exact (escape?_eq_some hv).trans (congrArg some h)

/-- A value with a backslash, a blank and a keyword reads back, and is changed once more. -/
theorem escape?_reads_back_twice :
    "a\\ AND".toList ≠ [] ∧ ∃ t, escape? "a\\ AND".toList = some t ∧
      unescape t = "a\\ AND".toList ∧ escape? t ≠ some t := by
  have hv : "a\\ AND".toList ≠ [] := by decide
  obtain ⟨t, ht, _, hback, _, _, htwice⟩ := escape?_reads_back hv
  have hne : t ≠ "a\\ AND".toList := by
    rintro rfl
    exact absurd ht (by decide)
  exact ⟨hv, t, ht, hback, fun h => hne (htwice.1 h)⟩

end SearchGateway.Lucene
