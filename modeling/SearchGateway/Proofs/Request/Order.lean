import SearchGateway.Proofs.Template.Spelling
import SearchGateway.Proofs.Text.Case
import SearchGateway.Proofs.Text.Pieces
import SearchGateway.Request.Select

/-!
# Written sort orders

A sort key may be written in several ways: its field outright or as a tag in any spelling, its
direction in any case of the letters, or not at all behind a tag for the ascending one. However the
keys of an order are written, with white space around them and blank entries between them, they are
read back, and so is the order that a search sends (`readOrder_written`).
-/

namespace SearchGateway

/-- Whether a word names a direction, in any case of its letters. -/
def Direction.IsNamed (direction : Direction) (word : Text) : Prop :=
  word.toLowerAscii = direction.name

namespace Direction.IsNamed

variable {direction : Direction} {word : Text}

/-- A name of a direction is read as the direction. -/
lemma ofName?_eq (h : direction.IsNamed word) : ofName? word = some direction := by
  unfold ofName? Text.equalsIgnoringCase
  rw [show word.toLowerAscii = direction.name from h]
  cases direction with
  | ascending => rfl
  | descending => rfl

/-- No name of a direction is empty. -/
lemma ne_nil (h : direction.IsNamed word) : word ≠ [] := by
  rintro rfl
  cases direction with
  | ascending => cases h
  | descending => cases h

/-- The letters of a direction are neither white space nor one of the signs around it. -/
lemma of_mem (h : direction.IsNamed word) {c : Char} (hc : c ∈ word) :
    isWord c = true ∧ isBlank c = false ∧ c ≠ ',' ∧ c ≠ ':' := by
  have hletters : (direction.name ++ direction.name.map fun d => Char.ofNat (d.toNat - 32)).all
      (fun d => isWord d = true ∧ isBlank d = false ∧ d ≠ ',' ∧ d ≠ ':') = true := by
    cases direction with
    | ascending => decide
    | descending => decide
  exact of_decide_eq_true (List.all_eq_true.1 hletters c (Text.mem_of_toLowerAscii_eq h hc))

/-- No name of a direction has a comma or a colon. -/
lemma not_mem (h : direction.IsNamed word) : ',' ∉ word ∧ ':' ∉ word :=
  ⟨fun hc => (h.of_mem hc).2.2.1 rfl, fun hc => (h.of_mem hc).2.2.2 rfl⟩

/-- No name of a direction has white space around it. -/
lemma trim_eq (h : direction.IsNamed word) : word.trim = word :=
  Text.trim_eq_self_iff.2 ⟨fun _ hc => (h.of_mem (List.mem_of_mem_head? hc)).2.1,
    fun _ hc => (h.of_mem (List.mem_of_mem_getLast? hc)).2.1⟩

/-- No name of a direction has white space in front. -/
lemma trimStart_eq (h : direction.IsNamed word) : word.trimStart = word := by
  obtain ⟨c, r, rfl⟩ := List.exists_cons_of_ne_nil h.ne_nil
  exact Text.trimStart_cons_of_not_isBlank (h.of_mem (.head r)).2.1 r

end Direction.IsNamed

/-- Whether a field can be named outright in a sort order. -/
structure IsPlainField (field : Text) : Prop where
  trim_eq : field.trim = field
  comma_not_mem : ',' ∉ field
  not_tag : ¬ "<%=".toList <+: field

/-- Whether a field can be named by a tag in a given spelling in a sort order. -/
structure IsTagField (sp : Tag.Spelling) (field : Text) : Prop where
  comma_not_mem : ',' ∉ field
  line_not_mem : '\n' ∉ field
  quote_not_mem : sp.quote ∉ field

namespace SortKey

/-- The ways to write a sort key. -/
inductive Written : SortKey → Text → Prop where
  | named {field direction word} : IsPlainField field → direction.IsNamed word →
      Written ⟨field, direction⟩ (field ++ ':' :: word)
  | tagged {sp field direction word} {b b' : Text} : IsTagField sp field → b.isBlank = true →
      b'.isBlank = true → direction.IsNamed word →
      Written ⟨field, direction⟩ (sp.text "field".toList field ++ (b ++ ':' :: (b' ++ word)))
  | ascending {sp field} : IsTagField sp field →
      Written ⟨field, .ascending⟩ (sp.text "field".toList field)

/-- An entry that does not begin like a tag is not read as one. -/
lemma readTag?_eq_none {entry : Text} (h : ¬ "<%=".toList <+: entry) : readTag? entry = none := by
  have hafter : entry.after? "<%=".toList = none := by
    cases hafter : entry.after? "<%=".toList with
    | none => rfl
    | some rest => exact absurd ⟨rest, (Text.eq_append_of_after? hafter).symm⟩ h
  unfold readTag? Tag.readWith? Tag.open?
  rw [hafter]
  rfl

/-- A field is read with the direction that is named behind it. -/
lemma readNamed_append {field word : Text} {direction : Direction} (hfield : field.trim = field)
    (hword : direction.IsNamed word) : readNamed (field ++ ':' :: word) = ⟨field, direction⟩ := by
  unfold readNamed
  rw [Text.cutLast?_append_cons hword.not_mem.2]
  simp only [hword.trim_eq, hword.ofName?_eq, hfield]

/-- What stands behind the name of a tag that ends its entry. -/
lemma tagTail?_closing (sp : Tag.Spelling) : tagTail? (sp.closing ++ []) = some [] := by
  unfold tagTail?
  rw [Tag.close?_closing]
  rfl

/-- What stands behind the name of a tag with a direction behind it. -/
lemma tagTail?_closing_append (sp : Tag.Spelling) {b b' word : Text} {direction : Direction}
    (hb : b.isBlank = true) (hb' : b'.isBlank = true) (hword : direction.IsNamed word) :
    tagTail? (sp.closing ++ (b ++ ':' :: (b' ++ word))) = some word := by
  have hcolon : Text.trimStart (b ++ ':' :: (b' ++ word)) = ":".toList ++ (b' ++ word) := by
    rw [Text.trimStart_append_of_isBlank hb]
    exact Text.trimStart_cons_of_not_isBlank (by decide) _
  have hall : word.all isWord = true := List.all_eq_true.2 fun c hc => (hword.of_mem hc).1
  have hempty : word.isEmpty = false := List.isEmpty_eq_false_iff.2 hword.ne_nil
  unfold tagTail?
  rw [Tag.close?_closing]
  simp only [Option.bind_eq_bind, Option.bind_some]
  split
  · rename_i hnil
    exact absurd hnil (List.append_ne_nil_of_right_ne_nil b (List.cons_ne_nil _ _))
  · rw [hcolon, Text.after?_append, Option.bind_some, Text.trimStart_append_of_isBlank hb',
      hword.trimStart_eq, hempty, hall]
    rfl

/-- A field that is named by a tag is read with what stands behind its tag. -/
lemma readTag?_text_append {sp : Tag.Spelling} {field tail word : Text} (h : IsTagField sp field)
    (htail : tagTail? (sp.closing ++ tail) = some word) :
    readTag? (sp.text "field".toList field ++ tail) =
      some ⟨field, (Direction.ofName? word).getD .ascending⟩ := by
  have hhead : ∀ c ∈ "field".toList.head?, isBlank c = false := by
    rintro c ⟨⟩
    decide
  unfold readTag?
  rw [Tag.readWith?_text_append sp tagTail? field tail hhead,
    Tag.nameUntil?_append tagTail? h.quote_not_mem h.line_not_mem htail]
  rfl

/-- A key is read from whatever way it is written in. -/
lemma Written.read_eq {key : SortKey} {t : Text} (h : Written key t) : read t = key := by
  unfold read
  cases h with
  | @named field direction word hfield hword =>
    have hentry : ¬ "<%=".toList <+: field ++ ':' :: word := by
      rintro ⟨rest, hrest⟩
      -- The colon is no part of the head of a tag, so that would be part of the field.
      obtain ⟨r, hr, -⟩ := Text.exists_of_append_eq_of_not_mem_left (by decide) hrest
      exact hfield.not_tag ⟨r, hr.symm⟩
    rw [readTag?_eq_none hentry]
    exact readNamed_append hfield.trim_eq hword
  | @tagged sp field direction word b b' hfield hb hb' hword =>
    rw [readTag?_text_append hfield (tagTail?_closing_append sp hb hb' hword), hword.ofName?_eq]
    rfl
  | @ascending sp field hfield =>
    have hread := readTag?_text_append hfield (tagTail?_closing sp)
    rw [List.append_nil] at hread
    rw [hread]
    rfl

/-- No written key is empty. -/
lemma Written.ne_nil {key : SortKey} {t : Text} (h : Written key t) : t ≠ [] := by
  have htext (sp : Tag.Spelling) (field : Text) : sp.text "field".toList field ≠ [] := by
    obtain ⟨u, hu⟩ := sp.exists_text_eq "field".toList field
    exact hu ▸ List.cons_ne_nil _ _
  cases h with
  | named _ _ => exact List.append_ne_nil_of_right_ne_nil _ (List.cons_ne_nil _ _)
  | tagged _ _ _ _ => exact List.append_ne_nil_of_left_ne_nil (htext _ _) _
  | ascending _ => exact htext _ _

/-- A written key is trimmed. -/
lemma Written.trim_eq {key : SortKey} {t : Text} (h : Written key t) : t.trim = t := by
  have hangle (sp : Tag.Spelling) (field tail : Text) {c : Char}
      (hc : c ∈ (sp.text "field".toList field ++ tail).head?) : isBlank c = false := by
    obtain ⟨u, hu⟩ := sp.exists_text_eq "field".toList field
    rw [hu] at hc
    obtain rfl := Option.some.inj hc
    decide
  have hlast {direction : Direction} {word : Text} (hword : direction.IsNamed word) (front : Text)
      {c : Char} (hc : c ∈ (front ++ word).getLast?) : isBlank c = false := by
    rw [List.getLast?_append, List.getLast?_eq_some_getLast hword.ne_nil] at hc
    obtain rfl := Option.some.inj hc
    exact (hword.of_mem (List.getLast_mem _)).2.1
  apply Text.trim_eq_self_iff.2
  cases h with
  | @named field direction word hfield hword =>
    constructor
    · intro c hc
      cases field with
      | nil =>
        obtain rfl := Option.some.inj hc
        decide
      | cons d field => exact (Text.trim_eq_self_iff.1 hfield.trim_eq).1 c hc
    · intro c hc
      refine hlast hword (field ++ [':']) ?_
      rwa [List.append_assoc]
  | @tagged sp field direction word b b' hfield hb hb' hword =>
    constructor
    · exact fun c hc => hangle sp field _ hc
    · intro c hc
      refine hlast hword (sp.text "field".toList field ++ (b ++ ':' :: b')) ?_
      simpa using hc
  | @ascending sp field hfield =>
    constructor
    · exact fun c hc => hangle sp field [] (by rwa [List.append_nil])
    · intro c hc
      obtain ⟨u, hu⟩ := sp.exists_text_eq "field".toList field
      rw [hu, ← List.cons_append, List.getLast?_concat] at hc
      obtain rfl := Option.some.inj hc
      decide

/-- A written key has no comma. -/
lemma Written.comma_not_mem {key : SortKey} {t : Text} (h : Written key t) : ',' ∉ t := by
  have hblank {b : Text} (hb : b.isBlank = true) : ',' ∉ b :=
    Text.not_mem_of_isBlank hb (by decide)
  have htext {sp : Tag.Spelling} {field : Text} (hfield : IsTagField sp field) :
      ',' ∉ sp.text "field".toList field := by
    have hquote : ',' ≠ sp.quote := by
      rcases sp.isQuote with h | h <;> rw [h] <;> decide
    have hends : ',' ∉ sp.opening "field".toList ∧ ',' ∉ sp.closing :=
      sp.not_mem_ends (by decide) hquote (by decide) (by decide)
    rw [sp.text_eq, List.mem_append, List.mem_append, List.mem_cons]
    exact not_or_intro hends.1
      (not_or_intro hfield.comma_not_mem (not_or_intro hquote hends.2))
  cases h with
  | named hfield hword =>
    rw [List.mem_append, List.mem_cons]
    exact not_or_intro hfield.comma_not_mem (not_or_intro (by decide) hword.not_mem.1)
  | tagged hfield hb hb' hword =>
    rw [List.mem_append, List.mem_append, List.mem_cons, List.mem_append]
    exact not_or_intro (htext hfield) (not_or_intro (hblank hb)
      (not_or_intro (by decide) (not_or_intro (hblank hb') hword.not_mem.1)))
  | ascending hfield => exact htext hfield

end SortKey

/-- The entries between the commas of an order: its keys, each written in some way between white
space, and any number of blank entries. -/
inductive OrderEntries : List SortKey → List Text → Prop where
  | nil : OrderEntries [] []
  | blank {keys entries} {b : Text} : b.isBlank = true → OrderEntries keys entries →
      OrderEntries keys (b :: entries)
  | key {key keys entries} {t b b' : Text} : SortKey.Written key t → b.isBlank = true →
      b'.isBlank = true → OrderEntries keys entries →
      OrderEntries (key :: keys) ((b ++ (t ++ b')) :: entries)

namespace OrderEntries

variable {keys : List SortKey} {entries : List Text}

/-- No entry has a comma. -/
lemma comma_not_mem (h : OrderEntries keys entries) : ∀ entry ∈ entries, ',' ∉ entry := by
  have hblank {b : Text} (hb : b.isBlank = true) : ',' ∉ b :=
    Text.not_mem_of_isBlank hb (by decide)
  induction h with
  | nil => exact nofun
  | blank hb _ ih => exact List.forall_mem_cons.2 ⟨hblank hb, ih⟩
  | key ht hb hb' _ ih =>
    refine List.forall_mem_cons.2 ⟨?_, ih⟩
    rw [List.mem_append, List.mem_append]
    exact not_or_intro (hblank hb) (not_or_intro ht.comma_not_mem (hblank hb'))

/-- Entries that are not blank are read as the keys, in their order. -/
lemma read_eq (h : OrderEntries keys entries) :
    ((entries.map Text.trim).filter (!·.isEmpty)).map SortKey.read = keys := by
  induction h with
  | nil => rfl
  | blank hb _ ih => rwa [List.map_cons, Text.trim_eq_nil_iff.2 hb]
  | @key key keys entries t b b' ht hb hb' _ ih =>
    have hne : (!t.isEmpty) = true := by
      rw [Bool.not_eq_true']
      exact List.isEmpty_eq_false_iff.2 ht.ne_nil
    rw [List.map_cons, Text.trim_around hb hb', ht.trim_eq,
      List.filter_cons_of_pos (p := fun s : Text => !s.isEmpty) hne, List.map_cons, ht.read_eq, ih]

end OrderEntries

/-- An order is read entry by entry, so two orders with a comma between them are read one by one. -/
lemma readOrder_append_cons (a b : Text) :
    readOrder (a ++ ',' :: b) = readOrder a ++ readOrder b := by
  unfold readOrder Text.splitAt
  rw [Text.pieces_append_cons rfl, List.map_append, List.filter_append, List.map_append]

/-- However an order is written, it is read back. -/
lemma readOrder_join {keys : List SortKey} {entries : List Text} (h : OrderEntries keys entries) :
    readOrder (Text.join [','] entries) = keys := by
  cases entries with
  | nil => exact h.read_eq
  | cons entry entries =>
    unfold readOrder
    rw [Text.splitAt_join h.comma_not_mem (List.cons_ne_nil _ _)]
    exact h.read_eq

/-- A sort key without the structural head of its field. -/
def SortKey.stripped (key : SortKey) : SortKey :=
  ⟨stripStructure key.field, key.direction⟩

/-- The order that a search sends has its keys with their fields named outright. -/
lemma orderEntries_parameterText {order : List SortKey}
    (h : ∀ key ∈ order, IsPlainField (stripStructure key.field)) :
    OrderEntries (order.map SortKey.stripped) (order.map SortKey.parameterText) := by
  have hname (direction : Direction) : direction.IsNamed direction.name := by
    cases direction with
    | ascending => rfl
    | descending => rfl
  induction order with
  | nil => exact .nil
  | cons key order ih =>
    obtain ⟨hkey, horder⟩ := List.forall_mem_cons.1 h
    have hempty : Text.isBlank [] = true := rfl
    have hentry :=
      OrderEntries.key (.named hkey (hname key.direction)) hempty hempty (ih horder)
    rw [List.append_nil] at hentry
    exact hentry

/-- A search sends an order if it has one. -/
lemma SelectRequest.get?_sort_build (query : LuceneQuery) (metadata : Metadata) :
    (build .search query metadata).get? "sort".toList =
      if metadata.order.isEmpty then none
      else some (Text.join [','] (metadata.order.map SortKey.parameterText)) := by
  unfold build pageParameters
  cases metadata.fields.isEmpty with
  | true => cases metadata.order.isEmpty <;> rfl
  | false => cases metadata.order.isEmpty <;> rfl

/-- Two orders with a comma between them are read one by one. An order reads back however its keys
are written, with white space around them and blank entries between them; so does the one that a
search sends, without the structural heads of its fields, where these can be named outright. -/
theorem readOrder_written :
    (∀ a b : Text, readOrder (a ++ ',' :: b) = readOrder a ++ readOrder b) ∧
    (∀ keys entries, OrderEntries keys entries → readOrder (Text.join [','] entries) = keys) ∧
    ∀ (query : LuceneQuery) (metadata : Metadata),
      (∀ key ∈ metadata.order, IsPlainField (stripStructure key.field)) →
        ((SelectRequest.build .search query metadata).get? "sort".toList).map readOrder =
          if metadata.order = [] then none else some (metadata.order.map SortKey.stripped) := by
  refine ⟨readOrder_append_cons, fun keys entries => readOrder_join, ?_⟩
  intro query metadata hfields
  rw [SelectRequest.get?_sort_build]
  cases horder : metadata.order with
  | nil => rfl
  | cons key order =>
    rw [← horder, if_neg (by simp [horder]), if_neg (by simp [horder]), Option.map_some]
    exact congrArg some (readOrder_join (orderEntries_parameterText hfields))

/-- A spelling of tags with a tab behind its opening and blanks in front of its closing. -/
def tabbedSpelling : Tag.Spelling where
  __ := Tag.Spelling.canonical
  beforeWord := ['\t']
  beforeBracket := [' ']
  beforeWord_isBlank := by decide
  beforeBracket_isBlank := Tag.Spelling.canonical.beforeEnd_isBlank

/-- Fields with colons, a bracket and a direction in their names, in three ways of writing. -/
theorem readOrder_written_mixed :
    readOrder " geo: point:DeSc , ,<%=\tfield['x]%>:DESC' ] %>,<%= field['a\"b'] %> : desc".toList =
      [⟨"geo: point".toList, .descending⟩, ⟨"x]%>:DESC".toList, .ascending⟩,
        ⟨"a\"b".toList, .descending⟩] ∧
    ((SelectRequest.build .search ⟨[]⟩ { order := [⟨"_source.a:b".toList, .descending⟩] }).get?
      "sort".toList).map readOrder = some [⟨"a:b".toList, .descending⟩] := by
  obtain ⟨_, hread, hbuild⟩ := readOrder_written
  constructor
  · have hempty : Text.isBlank [] = true := rfl
    have hblank : Text.isBlank [' '] = true := by decide
    have hdesc : Direction.descending.IsNamed "desc".toList := rfl
    have hmixed : Direction.descending.IsNamed "DeSc".toList := rfl
    have hgeo : IsPlainField "geo: point".toList := ⟨rfl, by decide, by decide⟩
    have hx : IsTagField tabbedSpelling "x]%>:DESC".toList := ⟨by decide, by decide, by decide⟩
    have ha : IsTagField .canonical "a\"b".toList := ⟨by decide, by decide, by decide⟩
    exact hread _ _ (.key (.named hgeo hmixed) hblank hblank (.blank hblank
      (.key (.ascending hx) hempty hempty
        (.key (.tagged ha hblank hblank hdesc) hempty hempty .nil))))
  · refine hbuild _ _ ?_
    exact List.forall_mem_singleton.2 ⟨rfl, by decide, by decide⟩

end SearchGateway
