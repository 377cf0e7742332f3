import SearchGateway.Proofs.Query.Embedded
import SearchGateway.Proofs.Template.SingleQuoted

/-!
# Accepted envelopes

A bridge query is normalized before it is read as JSON, by a scan for tags that knows nothing of
JSON. Tags in single quotes do no harm: text that is JSON as it stands is still JSON when they are
normalized, and its keys stay but for the white space inside of tags (`exists_read_of_parseObject`).
A tag in double quotes does not stand inside of one string: the quotes that it loses may be those
that JSON needs.
-/

namespace SearchGateway

/-- What stands in one of two lists that are related place by place is related to something in the
other one. -/
lemma exists_mem_of_forall₂ {α β : Type} {R : α → β → Prop} {as : List α} {bs : List β}
    (h : List.Forall₂ R as bs) {a : α} (ha : a ∈ as) : ∃ b ∈ bs, R a b := by
  induction h with
  | nil => cases ha
  | cons hr _ ih =>
    cases ha with
    | head => exact ⟨_, .head _, hr⟩
    | tail _ ha =>
      obtain ⟨b, hb, hr'⟩ := ih ha
      exact ⟨b, .tail _ hb, hr'⟩

namespace BridgeQuery

/-- Normalization takes an envelope whose tags stand in single quotes to one whose keys come from
its own by exchanging the ends of tags. -/
lemma exists_exchanged_keys {raw : Text} {fields : Entries Json}
    (hparse : Json.parseObject raw.trim = .ok fields) (htags : Template.SingleQuoted raw) :
    ∃ (fields' : Entries Json) (ks ks' : List Text), read raw = .ok (.envelope ⟨fields'⟩) ∧
      List.Forall₂ (Json.Exchanged Template.Respelled) ks ks' ∧
      fields.keys = ks.foldl Entries.putKey [] ∧ fields'.keys = ks'.foldl Entries.putKey [] := by
  have hrun := Template.exchangeable_respelled
  obtain ⟨lead, first, trail, ms, hlead, hfirst, htrail, htext, rfl⟩ :=
    Envelope.exists_members hparse
  have htext : raw = (lead ++ ['{']) ++ (first ++ (Json.Member.listText ms ++ '}' :: trail)) := by
    rw [htext]
    simp
  have hexchanged := Template.exchanged_normalize htags
  rw [htext] at hexchanged
  -- Nothing but the inside of the braces is exchanged.
  have hunmarked {s : Text} (h : s.isBlank = true) : Json.Unmarked s :=
    Json.unmarked_of_all (List.all_eq_true.1 h) rfl rfl
  obtain ⟨t, hnormal, ht⟩ := hexchanged.of_unmarked hrun ((hunmarked hlead).append (by decide))
  obtain ⟨first', ms', ks, r, hfirst', rfl, hr, hks, hkeys⟩ := Json.exists_of_readObject hrun
    (Json.keepsValues hrun _) (Json.readObject_listText ms hfirst trail) ht
  rw [← List.append_nil trail] at hr
  obtain ⟨r', rfl, hr'⟩ := hr.of_unmarked hrun (hunmarked htrail)
  obtain rfl := hr'.of_nil hrun
  have hkeys' := Json.Member.keys_entriesFrom [] ms'
  refine ⟨Json.Member.entriesFrom [] ms', ks, _, ?_, hks, hkeys, hkeys'⟩
  have hobject := Json.parseObject_listText ms' [] first' [] rfl hfirst' rfl
  rw [List.nil_append, ← List.append_assoc] at hobject
  have hread := detect_braces hlead htrail hobject
  unfold read
  rw [htext, hnormal]
  simpa using hread

/-- An envelope whose tags stand in single quotes is never malformed: where its trimmed text reads
as an object, it is accepted as an envelope with the same keys, but for the white space inside of
tags and so exactly, in the same order, where no key has the beginning or the end of a tag. -/
theorem exists_read_of_parseObject {raw : Text} {fields : Entries Json}
    (hparse : Json.parseObject raw.trim = .ok fields) (htags : Template.SingleQuoted raw) :
    ∃ e : Envelope, read raw = .ok (.envelope e) ∧
      (∀ key ∈ fields.keys, ∃ key' ∈ e.fields.keys,
        Json.Exchanged Template.Respelled key key' ∧ key'.ink = key.ink) ∧
      (∀ key' ∈ e.fields.keys, ∃ key ∈ fields.keys,
        Json.Exchanged Template.Respelled key key' ∧ key'.ink = key.ink) ∧
      ((∀ key ∈ fields.keys, Template.TagFree key ∧ ¬ "%>".toList <:+: key) →
        e.fields.keys = fields.keys) := by
  obtain ⟨fields', ks, ks', hread, hks, hkeys, hkeys'⟩ := exists_exchanged_keys hparse htags
  have hmem {key : Text} {ks : List Text} : key ∈ ks.foldl Entries.putKey [] ↔ key ∈ ks := by
    simp [Entries.mem_foldl_putKey]
  refine ⟨⟨fields'⟩, hread, fun key hkey => ?_, fun key' hkey' => ?_, fun hfree => ?_⟩
  · rw [hkeys, hmem] at hkey
    obtain ⟨key', hkey', hexchanged⟩ := exists_mem_of_forall₂ hks hkey
    exact ⟨key', by rw [hkeys', hmem]; exact hkey', hexchanged,
      Template.ink_eq_of_exchanged hexchanged⟩
  · rw [hkeys', hmem] at hkey'
    obtain ⟨key, hkey, hexchanged⟩ := exists_mem_of_forall₂ hks.flip hkey'
    exact ⟨key, by rw [hkeys, hmem]; exact hkey, hexchanged,
      Template.ink_eq_of_exchanged hexchanged⟩
  · -- Without exchanged keys the two lists of keys are set in the same way.
    have hfree : ∀ key ∈ ks, Template.TagFree key ∧ ¬ "%>".toList <:+: key :=
      fun key hkey => hfree key (by rw [hkeys, hmem]; exact hkey)
    have hsame : ks' = ks := by
      have hboth := (List.forall₂_and_left ks ks').2 ⟨hfree, hks⟩
      rw [← List.forall₂_eq_eq_eq]
      exact List.Forall₂.flip (hboth.imp fun _ _ h => Template.eq_of_exchanged h.2 h.1.1 h.1.2)
    rw [hkeys, hkeys', hsame]

/-- A tag in single quotes without white space. -/
def compactTag (name : Text) (hquote : '\'' ∉ name) (hline : '\n' ∉ name) : Template.Slot :=
  ⟨{ Tag.Spelling.canonical with
      beforeWord := []
      beforeEnd := []
      beforeWord_isBlank := Tag.Spelling.canonical.beforeQuote_isBlank
      beforeEnd_isBlank := Tag.Spelling.canonical.beforeBracket_isBlank }, name, hquote, hline⟩

/-- An envelope with a tag in single quotes, without white space, keeps its keys. -/
theorem exists_read_of_parseObject_compact :
    ∃ e : Envelope,
      read "\x7b\"type\":\"Solr DSL\",\"query\":\"a:<%=parameter['x']%>\"\x7d".toList =
        .ok (.envelope e) ∧
      e.fields.keys = ["type".toList, "query".toList] := by
  have htags : Template.SingleQuoted ("\x7b\"type\":\"Solr DSL\",\"query\":\"a:".toList ++
      ((compactTag ['x'] (by decide) (by decide)).text ++ "\"\x7d".toList)) := by
    refine .append (by decide) (.tag rfl rfl ?_)
    exact .append (b := "\"\x7d".toList) (s := []) (by decide) .nil
  have hangle : ∀ key ∈ ["type".toList, "query".toList], '<' ∉ key ∧ '%' ∉ key := by
    decide
  have hparse : Json.parseObject (Text.trim
      "\x7b\"type\":\"Solr DSL\",\"query\":\"a:<%=parameter['x']%>\"\x7d".toList) =
        .ok [("type".toList, .string "Solr DSL".toList),
          ("query".toList, .string "a:<%=parameter['x']%>".toList)] := rfl
  obtain ⟨e, hread, -, -, hkeys⟩ := exists_read_of_parseObject hparse htags
  refine ⟨e, hread, hkeys fun key hkey => ?_⟩
  obtain ⟨hopen, hclose⟩ := hangle key hkey
  exact ⟨Template.tagFree_of_no_angle hopen, fun hi => hclose (hi.subset (.head _))⟩

/-- An object whose one key and value take the two halves of a tag in double quotes. -/
def halves : Template.Outline :=
  .single ⟨"\x7b\"".toList, Template.tagFree_of_no_angle (by decide)⟩
    (Template.doubleQuoted [':'] (by decide) (by decide))
    ⟨"\"\x7d".toList, Template.tagFree_of_no_angle (by decide)⟩

/-- An object whose one key is a tag in single quotes. -/
def tagKey : Template.Outline :=
  .single ⟨"\x7b\"".toList, Template.tagFree_of_no_angle (by decide)⟩
    (compactTag ['x'] (by decide) (by decide))
    ⟨"\":1\x7d".toList, Template.tagFree_of_no_angle (by decide)⟩

/-- A tag in double quotes may take the quotes around a colon for those of its name, and normalized
it leaves one string with nothing behind it; a key that is a tag is spelled canonically. -/
theorem read_halves :
    halves.text = "\x7b\"<%= parameter[\":\"] %>\"\x7d".toList ∧
      Json.parseObject halves.text.trim =
        .ok [("<%= parameter[".toList, .string "] %>".toList)] ∧
      (∃ cause, read halves.text =
        .error (.malformedEnvelope "\x7b\"<%= parameter[':'] %>\"\x7d".toList cause)) ∧
      Json.parseObject tagKey.text.trim =
        .ok [("<%=parameter['x']%>".toList, .number (.integer 1))] ∧
      read tagKey.text =
        .ok (.envelope ⟨[("<%= parameter['x'] %>".toList, .number (.integer 1))]⟩) := by
  have hhalves : Template.normalize halves.text = "\x7b\"<%= parameter[':'] %>\"\x7d".toList :=
    Template.normalize_eq_fill halves
  have hkey : Template.normalize tagKey.text = "\x7b\"<%= parameter['x'] %>\":1\x7d".toList :=
    Template.normalize_eq_fill tagKey
  refine ⟨rfl, rfl, ?_, rfl, ?_⟩
  · unfold read
    rw [hhalves]
    exact ⟨_, rfl⟩
  · unfold read
    rw [hkey]
    rfl

end BridgeQuery

end SearchGateway
