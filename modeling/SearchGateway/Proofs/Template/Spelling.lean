import SearchGateway.Proofs.Text.Trim
import SearchGateway.Template.Tag

/-!
# Spellings of tags

A tag may be spelled with either quote and with white space at four places. Every spelling reads as
the name that it was written for (`read?_spelled`), and every text that reads as a tag is written in
some spelling (`exists_spelling_of_read?`).
-/

namespace SearchGateway.Tag

/-- How a tag is spelled around its word and its name. -/
structure Spelling where
  /-- The quote around the name. -/
  quote : Char
  /-- The white space in front of the word. -/
  beforeWord : Text
  /-- The white space in front of the first quote. -/
  beforeQuote : Text
  /-- The white space in front of the closing bracket. -/
  beforeBracket : Text
  /-- The white space in front of the end. -/
  beforeEnd : Text
  isQuote : quote = '"' ∨ quote = '\''
  beforeWord_isBlank : beforeWord.isBlank = true
  beforeQuote_isBlank : beforeQuote.isBlank = true
  beforeBracket_isBlank : beforeBracket.isBlank = true
  beforeEnd_isBlank : beforeEnd.isBlank = true

namespace Spelling

/-- The tag in its canonical spelling. -/
def canonical : Spelling :=
  ⟨'\'', [' '], [], [], [' '], .inr rfl, by decide, rfl, rfl, by decide⟩

/-- What stands between the name and the text behind the tag. -/
def closing (sp : Spelling) : Text :=
  sp.beforeBracket ++ ']' :: (sp.beforeEnd ++ "%>".toList)

/-- What stands in front of the name. -/
def opening (sp : Spelling) (word : Text) : Text :=
  "<%=".toList ++ sp.beforeWord ++ word ++ '[' :: (sp.beforeQuote ++ [sp.quote])

/-- The tag for a word with a given name. -/
def text (sp : Spelling) (word name : Text) : Text :=
  "<%=".toList ++ sp.beforeWord ++ word ++ '[' :: (sp.beforeQuote ++
    sp.quote :: (name ++ sp.quote :: sp.closing))

/-- A tag is its name between its opening and its closing. -/
lemma text_eq (sp : Spelling) (word name : Text) :
    sp.text word name = sp.opening word ++ (name ++ sp.quote :: sp.closing) := by
  simp [text, opening]

/-- A tag begins with an angle bracket and ends with one. -/
lemma exists_text_eq (sp : Spelling) (word name : Text) :
    ∃ t, sp.text word name = '<' :: (t ++ ['>']) := by
  refine ⟨"%=".toList ++ sp.beforeWord ++ word ++ '[' :: (sp.beforeQuote ++
    sp.quote :: (name ++ sp.quote :: (sp.beforeBracket ++ ']' :: (sp.beforeEnd ++ ['%'])))), ?_⟩
  simp [text, closing]

/-- What is neither white space nor part of every tag for a word stands in the name of the tag,
unless it is the quote. -/
lemma not_mem_ends (sp : Spelling) {word : Text} {c : Char} (hblank : isBlank c = false)
    (hquote : c ≠ sp.quote) (hword : c ∉ word) (hc : c ∉ "<%=[]>".toList) :
    c ∉ sp.opening word ∧ c ∉ sp.closing := by
  have hnot {b : Text} (h : b.isBlank = true) : c ∉ b := Text.not_mem_of_isBlank h hblank
  have hpart {t : Text} (h : t ⊆ "<%=[]>".toList) : c ∉ t := fun hmem => hc (h hmem)
  have hne {d : Char} (h : d ∈ "<%=[]>".toList) : c ≠ d := fun heq => hc (heq ▸ h)
  unfold opening closing
  simp only [List.mem_append, List.mem_cons, not_or]
  constructor
  · exact ⟨⟨⟨hpart (by decide), hnot sp.beforeWord_isBlank⟩, hword⟩, hne (by decide),
      hnot sp.beforeQuote_isBlank, hquote, List.not_mem_nil⟩
  · exact ⟨hnot sp.beforeBracket_isBlank, hne (by decide), hnot sp.beforeEnd_isBlank,
      hpart (by decide)⟩

end Spelling

/-- What closes a tag in some spelling closes it. -/
lemma close?_closing (sp : Spelling) (rest : Text) : close? (sp.closing ++ rest) = some rest := by
  have h₁ : Text.trimStart (sp.closing ++ rest) =
      "]".toList ++ (sp.beforeEnd ++ "%>".toList ++ rest) := by
    unfold Spelling.closing
    rw [List.append_assoc, Text.trimStart_append_of_isBlank sp.beforeBracket_isBlank]
    exact Text.trimStart_cons_of_not_isBlank (by decide) _
  have h₂ : Text.trimStart (sp.beforeEnd ++ "%>".toList ++ rest) = "%>".toList ++ rest := by
    rw [List.append_assoc, Text.trimStart_append_of_isBlank sp.beforeEnd_isBlank]
    exact Text.trimStart_cons_of_not_isBlank (by decide) _
  unfold close?
  rw [h₁, Text.after?_append]
  simp only [Option.bind_eq_bind, Option.bind_some]
  rw [h₂, Text.after?_append]

/-- A name without its own quote and without a line break ends at the quote behind it. -/
lemma nameUntil?_append {α : Type} {quote : Char} (tail? : Text → Option α) {name rest : Text}
    {tail : α} (hq : quote ∉ name) (hl : '\n' ∉ name) (ht : tail? rest = some tail) :
    nameUntil? quote tail? (name ++ quote :: rest) = some (name, tail) := by
  induction name with
  | nil => simp [nameUntil?, ht]
  | cons c name ih =>
    obtain ⟨hc, hq⟩ := List.ne_and_not_mem_of_not_mem_cons hq
    obtain ⟨hn, hl⟩ := List.ne_and_not_mem_of_not_mem_cons hl
    simp [nameUntil?, Ne.symm hc, Ne.symm hn, ih hq hl]

/-- A tag in any spelling is read from its name on, whatever is asked of the text behind it. -/
lemma readWith?_text_append {α : Type} (sp : Spelling) {word : Text} (tail? : Text → Option α)
    (name rest : Text) (hw : ∀ c ∈ word.head?, isBlank c = false) :
    readWith? word tail? (sp.text word name ++ rest) =
      nameUntil? sp.quote tail? (name ++ sp.quote :: (sp.closing ++ rest)) := by
  have ho : open? word (sp.text word name ++ rest) =
      some (sp.beforeQuote ++ sp.quote :: (name ++ sp.quote :: (sp.closing ++ rest))) := by
    have hstart (t : Text) : Text.trimStart (word ++ '[' :: t) = word ++ '[' :: t := by
      cases word with
      | nil => exact Text.trimStart_cons_of_not_isBlank (by decide) _
      | cons c word => exact Text.trimStart_cons_of_not_isBlank (hw c rfl) _
    unfold open? Spelling.text
    simp only [List.append_assoc, Text.after?_append, Option.bind_eq_bind, Option.bind_some,
      Text.trimStart_append_of_isBlank sp.beforeWord_isBlank, List.cons_append, hstart]
    exact Text.after?_append "[".toList _
  have hb : isBlank sp.quote = false := by
    rcases sp.isQuote with h | h <;> rw [h] <;> decide
  unfold readWith?
  rw [ho, Option.map_some, Text.trimStart_append_of_isBlank sp.beforeQuote_isBlank,
    Text.trimStart_cons_of_not_isBlank hb]
  rcases sp.isQuote with h | h
  · rw [h]
    rfl
  · rw [h]
    rfl

/-- A tag in any spelling is read from its name on. -/
lemma read?_text_append (sp : Spelling) {word : Text} (name rest : Text)
    (hw : ∀ c ∈ word.head?, isBlank c = false) :
    read? word (sp.text word name ++ rest) =
      nameUntil? sp.quote close? (name ++ sp.quote :: (sp.closing ++ rest)) :=
  readWith?_text_append sp close? name rest hw

/-- A tag in any spelling reads as its name. -/
lemma read?_spelled (sp : Spelling) {word name : Text} (rest : Text)
    (hw : ∀ c ∈ word.head?, isBlank c = false) (hq : sp.quote ∉ name) (hl : '\n' ∉ name) :
    read? word (sp.text word name ++ rest) = some (name, rest) := by
  rw [read?_text_append sp name rest hw]
  exact nameUntil?_append close? hq hl (close?_closing sp rest)

/-- A name that is read has no line break, and behind its quote stands what follows it. -/
lemma exists_of_nameUntil? {α : Type} {quote : Char} {tail? : Text → Option α} {s name : Text}
    {tail : α} (h : nameUntil? quote tail? s = some (name, tail)) :
    '\n' ∉ name ∧ ∃ r, s = name ++ quote :: r ∧ tail? r = some tail := by
  induction s generalizing name with
  | nil => simp [nameUntil?] at h
  | cons c s ih =>
    unfold nameUntil? at h
    split at h
    · rename_i t ht
      split at ht
      · rename_i hc
        simp only [Option.some.injEq, Prod.mk.injEq] at h
        obtain ⟨rfl, rfl⟩ := h
        exact ⟨List.not_mem_nil, s, by rw [hc]; rfl, ht⟩
      · simp at ht
    · split at h
      · simp at h
      · rename_i hc
        obtain ⟨⟨name', _⟩, hr, he⟩ := Option.map_eq_some_iff.1 h
        simp only [Prod.mk.injEq] at he
        obtain ⟨rfl, rfl⟩ := he
        obtain ⟨hline, r, hs, ht⟩ := ih hr
        exact ⟨List.not_mem_cons_of_ne_of_not_mem (Ne.symm hc) hline, r, by rw [hs]; rfl, ht⟩

/-- A tag that is read opens with a quote, from which its name is read. -/
lemma exists_of_read? {word s : Text} {x : Text × Text} (h : read? word s = some x) :
    ∃ quote u, (quote = '"' ∨ quote = '\'') ∧
      (open? word s).map Text.trimStart = some (quote :: u) ∧
      nameUntil? quote close? u = some x := by
  unfold read? readWith? at h
  split at h
  · rename_i u ho
    exact ⟨'"', u, .inl rfl, ho, h⟩
  · rename_i u ho
    exact ⟨'\'', u, .inr rfl, ho, h⟩
  · simp at h

/-- Text that begins with a head behind white space. -/
lemma exists_of_after?_trimStart {head s rest : Text}
    (h : s.trimStart.after? head = some rest) :
    ∃ b : Text, b.isBlank = true ∧ s = b ++ (head ++ rest) := by
  refine ⟨s.takeWhile isBlank, List.all_eq_true.2 fun c => List.mem_takeWhile_imp, ?_⟩
  rw [← Text.eq_append_of_after? h]
  exact List.takeWhile_append_dropWhile.symm

/-- A tag that is read is written in some spelling, around a name without a line break. -/
lemma exists_spelling_of_read? {word s name rest : Text} (h : read? word s = some (name, rest)) :
    '\n' ∉ name ∧ ∃ sp : Spelling, s = sp.text word name ++ rest := by
  obtain ⟨quote, u, hq, ho, hn⟩ := exists_of_read? h
  obtain ⟨hline, r, hu, hr⟩ := exists_of_nameUntil? hn
  obtain ⟨t, ht, hr⟩ := Option.bind_eq_some_iff.1 hr
  obtain ⟨v, hv, hvu⟩ := Option.map_eq_some_iff.1 ho
  obtain ⟨a, ha, hv⟩ := Option.bind_eq_some_iff.1 hv
  obtain ⟨b, hb, hv⟩ := Option.bind_eq_some_iff.1 hv
  have hquote : v.trimStart.after? [quote] = some u := by
    rw [hvu]
    exact Text.after?_append [quote] u
  have hs : s = "<%=".toList ++ a := Text.eq_append_of_after? ha
  have hbracket : b = "[".toList ++ v := Text.eq_append_of_after? hv
  obtain ⟨beforeWord, hblank₁, ha⟩ := exists_of_after?_trimStart hb
  obtain ⟨beforeQuote, hblank₂, hv⟩ := exists_of_after?_trimStart hquote
  obtain ⟨beforeBracket, hblank₃, hr'⟩ := exists_of_after?_trimStart ht
  obtain ⟨beforeEnd, hblank₄, ht'⟩ := exists_of_after?_trimStart hr
  refine ⟨hline, ⟨quote, beforeWord, beforeQuote, beforeBracket, beforeEnd, hq, hblank₁, hblank₂,
    hblank₃, hblank₄⟩, ?_⟩
  rw [hs, ha, hbracket, hv, hu, hr', ht']
  simp [Spelling.text, Spelling.closing]

/-- A tag that is read begins with an angle bracket and ends with one. -/
lemma eq_of_read? {word s name rest : Text} (h : read? word s = some (name, rest)) :
    ∃ t, s = '<' :: (t ++ '>' :: rest) := by
  obtain ⟨_, sp, rfl⟩ := exists_spelling_of_read? h
  obtain ⟨t, ht⟩ := sp.exists_text_eq word name
  exact ⟨t, by rw [ht]; simp⟩

end SearchGateway.Tag
