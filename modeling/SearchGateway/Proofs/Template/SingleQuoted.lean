import SearchGateway.Proofs.Json.Exchange
import SearchGateway.Proofs.Template.Occurrence

/-!
# Tags in single quotes

Of a tag in single quotes normalization changes nothing but the white space in it: in its opening,
and from the quote behind its name on. Both begin with a character that stands inside of strings
only, so in JSON text they are runs that can be exchanged (`exchanged_normalize`), even where the
name of the tag leads from one string into another.
-/

namespace SearchGateway

namespace Text

/-- A text without its white space. -/
def ink (s : Text) : Text :=
  s.filter fun c => !SearchGateway.isBlank c

/-- White space has no ink. -/
lemma ink_of_isBlank {b : Text} (h : b.isBlank = true) : b.ink = [] :=
  List.filter_eq_nil_iff.2 fun c hc => by simp [List.all_eq_true.1 h c hc]

/-- The ink of two texts. -/
@[simp] lemma ink_append (s t : Text) : ink (s ++ t) = s.ink ++ t.ink :=
  List.filter_append s t

/-- A first character and the ink behind it. -/
lemma ink_cons (c : Char) (s : Text) : ink (c :: s) = ink [c] ++ s.ink :=
  ink_append [c] s

end Text

namespace Tag.Spelling

/-- The white space in a tag has no ink. -/
lemma ink_ends (sp : Spelling) :
    (sp.opening "parameter".toList).ink = "<%=parameter[".toList ++ [sp.quote] ∧
      sp.closing.ink = "]%>".toList := by
  have hquote : Text.ink [sp.quote] = [sp.quote] := by
    rcases sp.isQuote with h | h <;> rw [h] <;> rfl
  constructor
  · unfold opening
    rw [Text.ink_append, Text.ink_append, Text.ink_append, Text.ink_cons '[', Text.ink_append,
      Text.ink_of_isBlank sp.beforeWord_isBlank, Text.ink_of_isBlank sp.beforeQuote_isBlank, hquote]
    rfl
  · unfold closing
    rw [Text.ink_append, Text.ink_cons ']', Text.ink_append,
      Text.ink_of_isBlank sp.beforeBracket_isBlank, Text.ink_of_isBlank sp.beforeEnd_isBlank]
    rfl

/-- Outside of its name the tag of a parameter in single quotes has no double quote. -/
lemma quote_not_mem (sp : Spelling) (h : sp.quote = '\'') :
    '"' ∉ sp.opening "parameter".toList ∧ '"' ∉ sp.closing :=
  sp.not_mem_ends (by decide) (by rw [h]; decide) (by decide) (by decide)

end Tag.Spelling

namespace Template

/-- The texts whose tags all stand in single quotes. -/
inductive SingleQuoted : Text → Prop where
  | nil : SingleQuoted []
  | literal {c : Char} {s : Text} :
    readReference? (c :: s) = none → SingleQuoted s → SingleQuoted (c :: s)
  | tag {sp : Tag.Spelling} {name rest : Text} :
    readReference? (sp.text "parameter".toList name ++ rest) = some (name, rest) →
    sp.quote = '\'' → SingleQuoted rest → SingleQuoted (sp.text "parameter".toList name ++ rest)

/-- Characters at which no tag can begin may stand in front. -/
lemma SingleQuoted.append {b s : Text} (hb : '<' ∉ b) (hs : SingleQuoted s) :
    SingleQuoted (b ++ s) := by
  induction b with
  | nil => exact hs
  | cons c b ih =>
    obtain ⟨hc, hb⟩ := List.ne_and_not_mem_of_not_mem_cons hb
    refine .literal (readReference?_eq_none ?_) (ih hb)
    simp [Text.after?, hc]

/-- What normalization makes of the ends of a tag in single quotes. -/
inductive Respelled : Text → Text → Prop where
  | opening {sp : Tag.Spelling} : sp.quote = '\'' →
    Respelled (sp.opening "parameter".toList) (Tag.Spelling.canonical.opening "parameter".toList)
  | closing {sp : Tag.Spelling} : sp.quote = '\'' →
    Respelled ('\'' :: sp.closing) ('\'' :: Tag.Spelling.canonical.closing)

/-- The ends of a tag stand inside of strings, in any spelling. -/
lemma exchangeable_respelled : Json.Exchangeable Respelled where
  mark h := by
    cases h with
    | opening => exact ⟨_, _, rfl, .inl rfl⟩
    | closing => exact ⟨_, _, rfl, .inr rfl⟩
  quote h := by
    cases h with
    | @opening sp hq => exact (sp.quote_not_mem hq).1
    | @closing sp hq => exact List.not_mem_cons_of_ne_of_not_mem (by decide) (sp.quote_not_mem hq).2
  backslash h := by
    cases h with
    | @opening sp => exact sp.backslash_not_mem.1
    | @closing sp => exact List.not_mem_cons_of_ne_of_not_mem (by decide) sp.backslash_not_mem.2
  plain h := by
    cases h <;> decide

/-- Where all tags stand in single quotes, normalization exchanges their ends and keeps all else. -/
lemma exchanged_normalize {s : Text} (h : SingleQuoted s) :
    Json.Exchanged Respelled s (normalize s) := by
  induction h with
  | nil =>
    rw [normalize_nil]
    exact .nil
  | literal hread _ ih =>
    rw [normalize_cons hread]
    exact .cons _ ih
  | @tag sp name rest hread hquote _ ih =>
    -- The name is kept character by character, whatever it is.
    have hclosing : Json.Exchanged Respelled (sp.quote :: (sp.closing ++ rest))
        (Tag.Spelling.canonical.quote :: (Tag.Spelling.canonical.closing ++ normalize rest)) := by
      rw [hquote]
      exact .run (.closing hquote) ih
    have htag := Json.Exchanged.run (.opening hquote) ((Json.Exchanged.refl name).append hclosing)
    rw [normalize_of_readReference? hread, text_reference, Tag.Spelling.text_eq,
      Tag.Spelling.text_eq]
    simpa using htag

/-- Exchanging the ends of tags changes white space only. -/
lemma ink_eq_of_exchanged {s t : Text} (h : Json.Exchanged Respelled s t) : t.ink = s.ink := by
  induction h with
  | nil => rfl
  | cons c _ ih => rw [Text.ink_cons, ih, ← Text.ink_cons]
  | run hrun _ ih =>
    rw [Text.ink_append, Text.ink_append, ih]
    congr 1
    cases hrun with
    | @opening sp hquote =>
      rw [sp.ink_ends.1, hquote, Tag.Spelling.canonical.ink_ends.1]
      rfl
    | @closing sp =>
      rw [Text.ink_cons _ sp.closing, sp.ink_ends.2, Text.ink_cons _ Tag.Spelling.canonical.closing,
        Tag.Spelling.canonical.ink_ends.2]

/-- In a text in which no tag begins and none ends, nothing is exchanged. -/
lemma eq_of_exchanged {s t : Text} (h : Json.Exchanged Respelled s t) (hopen : TagFree s)
    (hclose : ¬ "%>".toList <:+: s) : t = s := by
  induction h with
  | nil => rfl
  | @cons c s t _ ih =>
    have htail : s <:+: c :: s := (List.suffix_cons c s).isInfix
    rw [ih (tagFree_cons.1 hopen).2 fun hi => hclose (hi.trans htail)]
  | @run p p' s t hrun _ ih =>
    have hp : p <:+: p ++ s := (List.prefix_append p s).isInfix
    cases hrun with
    | @opening sp =>
      have hbegins : "<%=".toList <+: sp.opening "parameter".toList := by
        unfold Tag.Spelling.opening
        rw [List.append_assoc, List.append_assoc]
        exact List.prefix_append _ _
      exact absurd (hbegins.isInfix.trans hp) hopen
    | @closing sp =>
      have hends : "%>".toList <:+ '\'' :: sp.closing :=
        ⟨'\'' :: (sp.beforeBracket ++ ']' :: sp.beforeEnd), by simp [Tag.Spelling.closing]⟩
      exact absurd (hends.isInfix.trans hp) hclose

end Template

end SearchGateway
