import SearchGateway.Proofs.Json.RoundTrip
import SearchGateway.Proofs.Template.Matching
import SearchGateway.Query.Basic

/-!
# The shape of an envelope

Whether a query has the shape of an envelope depends on its first and last characters that are not
white space. A tag begins and ends with angle brackets in every spelling, so normalization keeps
these characters and with them the shape: the kind of a query shows before its tags are looked at
(`BridgeQuery.read_eq_of_ends`). The compact text of an object has the shape and reads as the
envelope with the members of the object (`Envelope.read_text`).
-/

namespace SearchGateway

namespace Template

/-- Normalization keeps the first character that is not white space. -/
lemma firstInk_normalize (s : Text) : (normalize s).firstInk = s.firstInk := by
  fun_induction pieces s with
  | case1 s name rest h _ =>
    obtain ⟨t, ht⟩ := Tag.eq_of_read? h
    rw [normalize_of_readReference? h, ht]
    rfl
  | case2 => rw [normalize_nil]
  | case3 c r h ih =>
    rw [normalize_cons h]
    unfold Text.firstInk at ih ⊢
    rw [List.find?_cons, List.find?_cons, ih]

/-- The canonical form of a tag ends with an angle bracket. -/
lemma lastInk_text_reference (name : Text) :
    (Piece.reference name).text.lastInk = some '>' := by
  have h : (Piece.reference name).text =
      ("<%= parameter['".toList ++ name ++ "'] %".toList) ++ ['>'] := by
    unfold Piece.text
    rw [List.append_assoc _ _ ['>']]
    rfl
  rw [h, Text.lastInk_append]
  rfl

/-- Normalization keeps the last character that is not white space. -/
lemma lastInk_normalize (s : Text) : (normalize s).lastInk = s.lastInk := by
  fun_induction pieces s with
  | case1 s name rest h ih =>
    obtain ⟨t, ht⟩ := Tag.eq_of_read? h
    -- Both spellings end with the same bracket, and behind it the text is normalized on.
    have hs : s = ('<' :: t ++ ['>']) ++ rest := by simp [ht]
    have htag : Text.lastInk ('<' :: t ++ ['>']) = some '>' := by
      rw [Text.lastInk_append]
      rfl
    rw [normalize_of_readReference? h, hs, Text.lastInk_append, Text.lastInk_append,
      lastInk_text_reference, htag, ih]
  | case2 => rw [normalize_nil]
  | case3 c r h ih => rw [normalize_cons h, Text.lastInk_cons, Text.lastInk_cons, ih]

end Template

namespace Envelope

/-- The shape of an envelope shows at the ends of the text. -/
lemma hasShape_eq (s : Text) :
    hasShape s = (s.firstInk == some '{' && s.lastInk == some '}') := by
  unfold hasShape
  rw [Text.head?_trim, Text.getLast?_trim]

/-- Normalization keeps the shape of an envelope and makes none. -/
lemma hasShape_normalize (s : Text) : hasShape (Template.normalize s) = hasShape s := by
  rw [hasShape_eq, hasShape_eq, Template.firstInk_normalize, Template.lastInk_normalize]

/-- The text of an object has the shape of an envelope and reads as the one with its members. -/
lemma read_text {members : Entries Json} (hj : (Json.object members).Regular)
    (hd : Json.membersNesting members < Json.maxDepth) :
    hasShape (Json.object members).text = true ∧
      read (Json.object members).text = .ok ⟨members⟩ := by
  obtain ⟨s, hs⟩ := Json.exists_text_object members
  have htrim : (Json.object members).text.trim = (Json.object members).text := by
    rw [hs, Text.trim_eq_self (by decide) (by decide)]
  refine ⟨?_, ?_⟩
  · unfold hasShape
    rw [htrim, hs, ← List.cons_append, List.getLast?_concat]
    rfl
  · unfold read
    rw [htrim, Json.parseObject_text hj hd]

end Envelope

/-- A text in curly braces is an envelope where it reads as an object, whatever white space stands
around it. -/
lemma BridgeQuery.detect_braces {lead trail t : Text} {fields : Entries Json}
    (hlead : lead.isBlank = true) (htrail : trail.isBlank = true)
    (hparse : Json.parseObject ('{' :: (t ++ ['}'])) = .ok fields) :
    detect (lead ++ ('{' :: (t ++ ['}']) ++ trail)) = .ok (.envelope ⟨fields⟩) := by
  have htrim := Text.trim_append hlead htrail (c := '{') (d := '}') (by decide) (by decide) t
  have hshape : Envelope.hasShape (lead ++ ('{' :: (t ++ ['}']) ++ trail)) = true := by
    unfold Envelope.hasShape
    rw [htrim, ← List.cons_append, List.getLast?_concat]
    rfl
  unfold detect Envelope.read
  rw [if_pos hshape, htrim, hparse]
  rfl

/-- An envelope that was accepted has the members that its normalized text reads as. -/
lemma BridgeQuery.parseObject_of_read {raw : Text} {e : Envelope}
    (h : read raw = .ok (.envelope e)) :
    Json.parseObject (Template.normalize raw).trim = .ok e.fields := by
  unfold read detect Envelope.read at h
  split at h
  · cases hparse : Json.parseObject (Template.normalize raw).trim with
    | error cause => simp [hparse, Except.map] at h
    | ok fields =>
      simp only [hparse, Except.map] at h
      cases h
      rfl
  · cases h

/-- A text in its canonical form that has the shape of an envelope is read as JSON as it stands. -/
lemma BridgeQuery.read_of_normalize {raw : Text} {fields : Entries Json}
    (hnormal : Template.normalize raw = raw) (hshape : Envelope.hasShape raw = true)
    (hparse : Json.parseObject raw.trim = .ok fields) : read raw = .ok (.envelope ⟨fields⟩) := by
  unfold read detect Envelope.read
  rw [hnormal, if_pos hshape, hparse]
  rfl

namespace BridgeQuery

/-- Whether a query is an envelope shows at its ends, before its tags are looked at. -/
lemma read_eq_ite (raw : Text) :
    read raw = if raw.firstInk = some '{' ∧ raw.lastInk = some '}'
      then (Envelope.read (Template.normalize raw)).map .envelope
      else .ok (.plain (Template.normalize raw)) := by
  unfold read detect
  rw [Envelope.hasShape_normalize, Envelope.hasShape_eq]
  simp only [Bool.and_eq_true, beq_iff_eq]

/-- A query is a plain template exactly where its ends are not those of an envelope. -/
lemma exists_plain_iff (raw : Text) :
    (∃ template, read raw = .ok (.plain template)) ↔
      ¬ (raw.firstInk = some '{' ∧ raw.lastInk = some '}') := by
  rw [read_eq_ite]
  split
  · rename_i hends
    refine iff_of_false ?_ (not_not_intro hends)
    rintro ⟨template, h⟩
    cases hread : Envelope.read (Template.normalize raw) with
    | error e =>
      rw [hread] at h
      cases h
    | ok e =>
      rw [hread] at h
      cases h
  · rename_i hends
    exact iff_of_true ⟨_, rfl⟩ hends

/-- Normalization changes the kind of no query. It keeps the shape of an envelope and makes none,
since all that it changes are the tags that the search for tags finds, and it keeps every character
outside of them in its place. So the first and the last character of a query that are not white
space tell its kind, and queries with the same two are of one kind. -/
theorem read_eq_of_ends (raw : Text) :
    Envelope.hasShape (Template.normalize raw) = Envelope.hasShape raw ∧
      (∃ parts, Template.Matched parts ∧ parts.flatMap Template.Part.source = raw) ∧
      (∀ parts, Template.Matched parts → parts.flatMap Template.Part.source = raw →
        Template.normalize raw = parts.flatMap Template.Part.normal) ∧
      (read raw = if raw.firstInk = some '{' ∧ raw.lastInk = some '}'
        then (Envelope.read (Template.normalize raw)).map .envelope
        else .ok (.plain (Template.normalize raw))) ∧
      ∀ raw' : Text, raw'.firstInk = raw.firstInk → raw'.lastInk = raw.lastInk →
        ((∃ template, read raw' = .ok (.plain template)) ↔
          ∃ template, read raw = .ok (.plain template)) := by
  refine ⟨Envelope.hasShape_normalize raw, Template.exists_matched raw, ?_, read_eq_ite raw, ?_⟩
  · rintro parts hparts rfl
    exact hparts.normalize_source
  · intro raw' hfirst hlast
    rw [exists_plain_iff, exists_plain_iff, hfirst, hlast]

/-- A query in curly braces with a tag that holds the end of a canonical tag and one that is left
open. -/
def openedTwice : Text :=
  "\t\x7b\"q\":<%=parameter[\"x'] %>\"]%><%= parameter['\x7d\n".toList

/-- The query is no plain template, like the empty object, though its tags have changed. -/
theorem read_eq_of_ends_openedTwice :
    Template.normalize openedTwice =
        "\t\x7b\"q\":<%= parameter['x'] %>'] %><%= parameter['\x7d\n".toList ∧
      Text.firstInk "\x7b\x7d".toList = openedTwice.firstInk ∧
      Text.lastInk "\x7b\x7d".toList = openedTwice.lastInk ∧
      ((∃ template, read "\x7b\x7d".toList = .ok (.plain template)) ↔
        ∃ template, read openedTwice = .ok (.plain template)) := by
  let slot : Template.Slot := ⟨⟨'"', [], [], [], [], .inl rfl, rfl, rfl, rfl, rfl⟩,
    "x'] %>".toList, by decide, by decide⟩
  let o : Template.Outline := .single ⟨"\t\x7b\"q\":".toList, by decide⟩ slot ⟨[], by decide⟩
  have hopened : Template.normalize ('<' :: "%= parameter['\x7d\n".toList) =
      "<%= parameter['\x7d\n".toList := by
    have hfree : Template.TagFree "%= parameter['\x7d\n".toList :=
      Template.tagFree_of_no_angle (by decide)
    rw [Template.normalize_cons rfl, Template.normalize_of_tagFree hfree]
    rfl
  have hapart : Template.Apart ('<' :: "%= parameter['\x7d\n".toList) :=
    Template.apart_cons (by decide) (by decide) _
  have hnormal :=
    congrArg (List.flatMap Template.Piece.text) (Template.pieces_text_append o hapart)
  rw [List.flatMap_append] at hnormal
  have hfirst : Text.firstInk "\x7b\x7d".toList = openedTwice.firstInk := rfl
  have hlast : Text.lastInk "\x7b\x7d".toList = openedTwice.lastInk := rfl
  refine ⟨?_, hfirst, hlast, (read_eq_of_ends openedTwice).2.2.2.2 _ hfirst hlast⟩
  exact hnormal.trans (congrArg (o.pieces.flatMap Template.Piece.text ++ ·) hopened)

end BridgeQuery

end SearchGateway
