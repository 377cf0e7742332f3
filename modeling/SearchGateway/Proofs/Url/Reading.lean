import SearchGateway.Proofs.Text.Pieces
import SearchGateway.Proofs.Text.Trim
import SearchGateway.Proofs.Url.Percent
import SearchGateway.Url.Basic

/-!
# Reading URLs

How the text of a URL falls apart. Its scheme is read from what stands in front of the first colon
(`exists_lead`), whatever stands behind, and from there on the parts of the URL are those of the
text behind the colon (`Lead.parse_eq`). A query that has only characters that a URL keeps is read
as it is (`query_of_parse`), and nothing else in the URL depends on it (`parse_append_query`).
-/

namespace SearchGateway.Url

/-- Reading the rest of a scheme stops at the first colon. -/
lemma exists_of_schemeRest? {s scheme rest : Text} (h : schemeRest? s = some (scheme, rest)) :
    ∃ head, s = head ++ ':' :: rest ∧
      (∀ c ∈ head, isDropped c = true ∨ isSchemeChar c = true) ∧
      ∀ t, schemeRest? (head ++ ':' :: t) = some (scheme, t) := by
  induction s generalizing scheme with
  | nil => simp [schemeRest?] at h
  | cons c s ih =>
    unfold schemeRest? at h
    split at h
    · rename_i hd
      obtain ⟨head, hs, hmem, hread⟩ := ih h
      refine ⟨c :: head, by rw [hs]; rfl, List.forall_mem_cons.2 ⟨.inl hd, hmem⟩, fun t => ?_⟩
      rw [List.cons_append, schemeRest?, if_pos hd, hread]
    · rename_i hd
      split at h
      · rename_i hc
        simp only [Option.some.injEq, Prod.mk.injEq] at h
        obtain ⟨rfl, rfl⟩ := h
        exact ⟨[], by rw [hc]; rfl, nofun, fun t => rfl⟩
      · rename_i hc
        split at h
        · rename_i hs
          obtain ⟨⟨scheme', _⟩, hr, he⟩ := Option.map_eq_some_iff.1 h
          simp only [Prod.mk.injEq] at he
          obtain ⟨rfl, rfl⟩ := he
          obtain ⟨head, hs', hmem, hread⟩ := ih hr
          refine ⟨c :: head, by rw [hs']; rfl, List.forall_mem_cons.2 ⟨.inr hs, hmem⟩,
            fun t => ?_⟩
          rw [List.cons_append, schemeRest?, if_neg hd, if_neg hc, if_pos hs, hread]
          rfl
        · simp at h

/-- A text without what is dropped at its ends. -/
def inner (s : Text) : Text :=
  (s.trimStartWhere isOuterBlank).trimEndWhere isOuterBlank

/-- What stands in front of the colon behind a scheme, with all that is dropped there. -/
structure Lead (scheme lead : Text) : Prop where
  mem : ∀ c ∈ lead, isOuterBlank c = true ∨ isDropped c = true ∨ isSchemeChar c = true
  read (t : Text) :
    readScheme? (inner (lead ++ ':' :: t)) = some (scheme, t.trimEndWhere isOuterBlank)

/-- A letter is not dropped. -/
lemma not_dropped_of_isAlpha {c : Char} (h : c.isAlpha = true) :
    isOuterBlank c = false ∧ isDropped c = false ∧ c ≠ ':' := by
  have hrange := (Percent.toNat_of_isAlpha h).1
  refine ⟨?_, ?_, ?_⟩
  · unfold isOuterBlank
    simp
    omega
  · unfold isDropped
    simp only [Bool.or_eq_false_iff, beq_eq_false_iff_ne, ne_eq]
    refine ⟨⟨?_, ?_⟩, ?_⟩ <;> rintro rfl <;> exact absurd hrange (by decide)
  · rintro rfl
    exact absurd hrange (by decide)

/-- The text of a URL begins with what leads to its scheme. -/
lemma exists_lead_of_readScheme? {s scheme rest : Text}
    (h : readScheme? (inner s) = some (scheme, rest)) :
    ∃ lead t : Text, s = lead ++ ':' :: t ∧ Lead scheme lead := by
  obtain ⟨blanks, hblanks, hmemBlanks⟩ : ∃ blanks, blanks ++ s.trimStartWhere isOuterBlank = s ∧
      ∀ c ∈ blanks, isOuterBlank c = true :=
    ⟨s.takeWhile isOuterBlank, List.takeWhile_append_dropWhile, fun _ => List.mem_takeWhile_imp⟩
  obtain ⟨e, he, _⟩ := Text.exists_eq_trimEndWhere_append isOuterBlank
    (s.trimStartWhere isOuterBlank)
  unfold readScheme? at h
  split at h
  · cases h
  · rename_i c r hs
    split at h
    · rename_i hc
      obtain ⟨hb, hd, hcolon⟩ := not_dropped_of_isAlpha hc
      obtain ⟨head, hcr, hmem, hread⟩ := exists_of_schemeRest? h
      -- The letter at the beginning belongs to the scheme.
      obtain ⟨head, rfl⟩ : ∃ head', head = c :: head' := by
        cases head with
        | nil => exact absurd (List.cons.inj hcr).1 hcolon
        | cons d head => exact ⟨head, by rw [(List.cons.inj hcr).1]⟩
      refine ⟨blanks ++ c :: head, rest ++ e, ?_, ?_, fun t => ?_⟩
      · unfold inner at hs
        rw [hs, hcr] at he
        rw [← hblanks, he]
        simp
      · intro d hd
        rcases List.mem_append.1 hd with hd | hd
        · exact .inl (hmemBlanks d hd)
        · exact .inr (hmem d hd)
      · have hinner : inner (blanks ++ c :: head ++ ':' :: t) =
            (c :: head) ++ ':' :: t.trimEndWhere isOuterBlank := by
          unfold inner Text.trimStartWhere
          rw [List.append_assoc, List.dropWhile_append_of_pos hmemBlanks, List.cons_append,
            List.dropWhile_cons_of_neg (by simp [hb]), ← List.cons_append,
            Text.trimEndWhere_append_cons (by decide)]
        rw [hinner, List.cons_append, readScheme?, if_pos hc, ← List.cons_append, hread]
    · cases h

/-- A text without a mark is not split. -/
lemma splitMarked_of_not_mem {mark : Char} {s : Text} (h : mark ∉ s) :
    splitMarked mark s = (s, none) := by
  unfold splitMarked
  rw [Text.cut?_eq_none_iff.2 h]

/-- A text is split at the first mark. -/
lemma splitMarked_append_cons {mark : Char} {s : Text} (h : mark ∉ s) (t : Text) :
    splitMarked mark (s ++ mark :: t) = (s, some t) := by
  unfold splitMarked
  rw [Text.cut?_append_cons h]

/-- A text is not split where the mark is missing. -/
lemma of_splitMarked {mark : Char} {s r : Text} (h : splitMarked mark s = (r, none)) :
    r = s ∧ mark ∉ s := by
  unfold splitMarked at h
  split at h
  · rename_i hcut
    simp only [Prod.mk.injEq, and_true] at h
    exact ⟨h.symm, Text.cut?_eq_none_iff.1 hcut⟩
  · simp at h

/-- Behind what leads to the scheme stand the parts of the URL. -/
lemma Lead.parse_eq {scheme lead t s r : Text} {query fragment : Option Text}
    (hlead : Lead scheme lead)
    (hfragment : splitMarked '#' (t.trimEndWhere isOuterBlank) = (s, fragment))
    (hquery : splitMarked '?' s = (r, query)) :
    parse (lead ++ ':' :: t) =
      (readHierarchy scheme r (query.isSome || fragment.isSome)).map fun (authority, path) =>
        ⟨scheme, authority, path,
          readMarked (Percent.staysInQuery (isSpecial scheme)) query,
          readMarked Percent.staysInFragment fragment⟩ := by
  have hread := hlead.read t
  unfold inner at hread
  unfold parse
  rw [hread]
  simp only [hfragment, hquery]
  cases readHierarchy scheme _ _ <;> rfl

/-- A URL is read exactly where its parts are. -/
lemma Lead.parse_eq_ok_iff {lead t s r : Text} {query fragment : Option Text} {url : Url}
    (hlead : Lead url.scheme lead)
    (hfragment : splitMarked '#' (t.trimEndWhere isOuterBlank) = (s, fragment))
    (hquery : splitMarked '?' s = (r, query)) :
    parse (lead ++ ':' :: t) = .ok url ↔
      readHierarchy url.scheme r (query.isSome || fragment.isSome) =
          .ok (url.authority, url.path) ∧
        readMarked (Percent.staysInQuery (isSpecial url.scheme)) query = url.query ∧
        readMarked Percent.staysInFragment fragment = url.fragment := by
  obtain ⟨scheme, authority, path, _, _⟩ := url
  rw [hlead.parse_eq hfragment hquery]
  cases readHierarchy scheme _ _ with
  | error e => simp [Except.map]
  | ok x => simp [Except.map, Prod.ext_iff, and_assoc]

/-- The scheme of a URL is the one that its text leads to. -/
lemma Lead.scheme_of_parse {scheme lead t : Text} {url : Url} (hlead : Lead scheme lead)
    (h : parse (lead ++ ':' :: t) = .ok url) : url.scheme = scheme := by
  rcases hfragment : splitMarked '#' (t.trimEndWhere isOuterBlank) with ⟨s, fragment⟩
  rcases hquery : splitMarked '?' s with ⟨r, query⟩
  rw [hlead.parse_eq hfragment hquery] at h
  cases hread : readHierarchy scheme r (query.isSome || fragment.isSome) with
  | error e =>
    rw [hread] at h
    cases h
  | ok x =>
    rw [hread] at h
    cases h
    rfl

/-- A URL has a lead to its scheme. -/
lemma exists_lead {s : Text} {url : Url} (h : parse s = .ok url) :
    ∃ lead t : Text, s = lead ++ ':' :: t ∧ Lead url.scheme lead := by
  cases hread : readScheme? (inner s) with
  | none =>
    unfold inner at hread
    unfold parse at h
    simp [hread] at h
  | some x =>
    obtain ⟨scheme, rest⟩ := x
    obtain ⟨lead, t, rfl, hlead⟩ := exists_lead_of_readScheme? hread
    exact ⟨lead, t, rfl, (hlead.scheme_of_parse h).symm ▸ hlead⟩

/-- Without marks behind the scheme, a URL has neither a query nor a fragment. -/
lemma Lead.parse_plain_eq_ok_iff {lead t : Text} (url : Url) (hlead : Lead url.scheme lead)
    (hmark : '?' ∉ t) (hhash : '#' ∉ t) (hend : t.trimEndWhere isOuterBlank = t) :
    parse (lead ++ ':' :: t) = .ok url ↔
      readHierarchy url.scheme t false = .ok (url.authority, url.path) ∧
        none = url.query ∧ none = url.fragment :=
  hlead.parse_eq_ok_iff (by rw [hend, splitMarked_of_not_mem hhash]) (splitMarked_of_not_mem hmark)

/-- A URL that has neither a query nor a fragment has no marks behind its scheme. -/
lemma Lead.not_mem_of_parse {lead t : Text} {url : Url} (hlead : Lead url.scheme lead)
    (hquery : url.query = none) (hfragment : url.fragment = none)
    (hend : t.trimEndWhere isOuterBlank = t) (h : parse (lead ++ ':' :: t) = .ok url) :
    '?' ∉ t ∧ '#' ∉ t := by
  rcases hf : splitMarked '#' t with ⟨s, fragment⟩
  rcases hq : splitMarked '?' s with ⟨r, query⟩
  rw [hlead.parse_eq_ok_iff (hend.symm ▸ hf) hq, hquery, hfragment] at h
  obtain ⟨_, hmarked, hmarked'⟩ := h
  obtain rfl := Option.map_eq_none_iff.1 hmarked
  obtain rfl := Option.map_eq_none_iff.1 hmarked'
  obtain ⟨rfl, hhash⟩ := of_splitMarked hf
  exact ⟨(of_splitMarked hq).2, hhash⟩

/-- A character that is sent is not dropped anywhere in a URL. -/
lemma not_dropped_of_isSent {c : Char} (h : Percent.isSent c = true) :
    isOuterBlank c = false ∧ isDropped c = false := by
  have hrange := Percent.toNat_of_isSent h
  constructor
  · unfold isOuterBlank
    simp only [decide_eq_false_iff_not]
    omega
  · unfold isDropped
    simp only [Bool.or_eq_false_iff, beq_eq_false_iff_ne]
    refine ⟨⟨?_, ?_⟩, ?_⟩ <;> rintro rfl <;> exact absurd hrange (by decide)

/-- A text that has nothing to drop is kept. -/
lemma withoutDropped_eq_self {s : Text} (h : ∀ c ∈ s, isDropped c = false) :
    withoutDropped s = s :=
  List.filter_eq_self.2 fun c hc => by rw [h c hc]; rfl

/-- A query keeps what is sent as it is. -/
lemma readMarked_of_isSent {q : Text} (h : ∀ c ∈ q, Percent.isSent c = true) (special : Bool) :
    readMarked (Percent.staysInQuery special) (some q) = some q := by
  unfold readMarked
  rw [Option.map_some, withoutDropped_eq_self fun c hc => (not_dropped_of_isSent (h c hc)).2,
    Percent.encode_eq_self fun c hc => Percent.staysInQuery_of_isSent special (h c hc)]

/-- What is sent at the end of a URL is not trimmed. -/
lemma trimEndWhere_append_of_isSent {q : Text} (hq : ∀ c ∈ q, Percent.isSent c = true) (r : Text) :
    Text.trimEndWhere isOuterBlank (r ++ '?' :: q) = r ++ '?' :: q := by
  have hblank : ∀ c ∈ q, isOuterBlank c = false := fun c hc => (not_dropped_of_isSent (hq c hc)).1
  rw [Text.trimEndWhere_append_cons (by decide), Text.trimEndWhere_eq_self hblank]

/-- What is sent behind the first question mark is the query, and no fragment follows. -/
lemma Lead.parse_query_eq_ok_iff {lead r q : Text} (url : Url) (hlead : Lead url.scheme lead)
    (hmark : '?' ∉ r) (hhash : '#' ∉ r) (hq : ∀ c ∈ q, Percent.isSent c = true) :
    parse (lead ++ ':' :: (r ++ '?' :: q)) = .ok url ↔
      readHierarchy url.scheme r true = .ok (url.authority, url.path) ∧
        some q = url.query ∧ none = url.fragment := by
  have hnot : '#' ∉ q := fun hm => absurd (hq '#' hm) (by decide)
  have hr : '#' ∉ r ++ '?' :: q := by
    simp only [List.mem_append, List.mem_cons, not_or]
    exact ⟨hhash, by decide, hnot⟩
  have hfragment : splitMarked '#' (Text.trimEndWhere isOuterBlank (r ++ '?' :: q)) =
      (r ++ '?' :: q, none) := by
    rw [trimEndWhere_append_of_isSent hq, splitMarked_of_not_mem hr]
  rw [hlead.parse_eq_ok_iff hfragment (splitMarked_append_cons hmark q),
    readMarked_of_isSent hq]
  rfl

/-- A question mark does not lead to a scheme, so it stands behind the colon. -/
lemma Lead.exists_of_append_eq {scheme front lead q t : Text} (hlead : Lead scheme lead)
    (h : front ++ '?' :: q = lead ++ ':' :: t) :
    ∃ r, front = lead ++ ':' :: r ∧ t = r ++ '?' :: q := by
  obtain ⟨r, hl, hr⟩ | ⟨r, hf, hr⟩ := List.append_eq_append_iff.1 h
  · cases r with
    | nil => simp at hr
    | cons c r =>
      obtain ⟨rfl, _⟩ := List.cons.inj hr
      exact absurd (hlead.mem '?' (by simp [hl])) (by decide)
  · cases r with
    | nil => simp at hr
    | cons c r =>
      obtain ⟨rfl, ht⟩ := List.cons.inj hr
      exact ⟨r, hf, ht⟩

/-- What is sent behind the first question mark of a URL is its query. -/
lemma query_of_parse {front q : Text} {url : Url} (hmark : '?' ∉ front) (hhash : '#' ∉ front)
    (hq : ∀ c ∈ q, Percent.isSent c = true) (h : parse (front ++ '?' :: q) = .ok url) :
    url.query = some q := by
  obtain ⟨lead, t, hs, hlead⟩ := exists_lead h
  obtain ⟨r, rfl, rfl⟩ := hlead.exists_of_append_eq hs
  simp only [List.mem_append, List.mem_cons, not_or] at hmark hhash
  rw [hs, hlead.parse_query_eq_ok_iff url hmark.2.2 hhash.2.2 hq] at h
  exact h.2.1.symm

/-- A part of a URL keeps what is sent behind a question mark as it is. -/
lemma readMarked_append_of_isSent {stays : Char → Bool} {q : Text}
    (hq : ∀ c ∈ q, Percent.isSent c = true) (hstays : ∀ c, Percent.isSent c = true → stays c = true)
    (hmark : stays '?' = true) (s : Text) :
    readMarked stays (some (s ++ '?' :: q)) =
      some (Percent.encode stays (withoutDropped s) ++ '?' :: q) := by
  have hkept : withoutDropped ('?' :: q) = '?' :: q :=
    withoutDropped_eq_self (List.forall_mem_cons.2 ⟨by decide, fun c hc =>
      (not_dropped_of_isSent (hq c hc)).2⟩)
  have hencode : Percent.encode stays ('?' :: q) = '?' :: q :=
    Percent.encode_eq_self (List.forall_mem_cons.2 ⟨hmark, fun c hc => hstays c (hq c hc)⟩)
  have happend : withoutDropped (s ++ '?' :: q) = withoutDropped s ++ withoutDropped ('?' :: q) :=
    List.filter_append ..
  unfold readMarked
  rw [Option.map_some, happend, hkept, Percent.encode_append, hencode]

/-- Where a query stands in a URL, and the parts in front of it, do not depend on the query. -/
lemma Lead.exists_parts {scheme lead : Text} (hlead : Lead scheme lead) (r : Text) :
    ∃ hierarchy kept : Text, ∀ q : Text, (∀ c ∈ q, Percent.isSent c = true) →
      ∃ query fragment : Option Text,
        parse (lead ++ ':' :: (r ++ '?' :: q)) =
          (readHierarchy scheme hierarchy true).map
            (fun (authority, path) => ⟨scheme, authority, path, query, fragment⟩) ∧
        markedText '?' query ++ markedText '#' fragment = kept ++ '?' :: q := by
  by_cases hhash : '#' ∈ r
  · -- The query is the end of the fragment.
    obtain ⟨s, f, rfl, hs⟩ := List.eq_append_cons_of_mem hhash
    rcases hquery : splitMarked '?' s with ⟨hierarchy, query⟩
    let query' := readMarked (Percent.staysInQuery (isSpecial scheme)) query
    let fragment := Percent.encode Percent.staysInFragment (withoutDropped f)
    refine ⟨hierarchy, markedText '?' query' ++ '#' :: fragment, fun q hq => ?_⟩
    have hfragment :
        splitMarked '#' (Text.trimEndWhere isOuterBlank (s ++ '#' :: f ++ '?' :: q)) =
          (s, some (f ++ '?' :: q)) := by
      rw [trimEndWhere_append_of_isSent hq, List.append_assoc, List.cons_append,
        splitMarked_append_cons hs]
    have hparse := hlead.parse_eq hfragment hquery
    rw [Option.isSome_some, Bool.or_true, readMarked_append_of_isSent hq
      (fun _ => Percent.staysInFragment_of_isSent) rfl] at hparse
    exact ⟨_, _, hparse, by simp [markedText, query', fragment]⟩
  · have hfragment (q : Text) (hq : ∀ c ∈ q, Percent.isSent c = true) :
        splitMarked '#' (Text.trimEndWhere isOuterBlank (r ++ '?' :: q)) =
          (r ++ '?' :: q, none) := by
      have hnot : '#' ∉ q := fun hm => absurd (hq '#' hm) (by decide)
      rw [trimEndWhere_append_of_isSent hq, splitMarked_of_not_mem (by simp [hhash, hnot])]
    by_cases hmark : '?' ∈ r
    · -- The query is the end of a longer one.
      obtain ⟨hierarchy, g, rfl, hhierarchy⟩ := List.eq_append_cons_of_mem hmark
      refine ⟨hierarchy, '?' :: Percent.encode (Percent.staysInQuery (isSpecial scheme))
        (withoutDropped g), fun q hq => ?_⟩
      have hquery : splitMarked '?' (hierarchy ++ '?' :: g ++ '?' :: q) =
          (hierarchy, some (g ++ '?' :: q)) := by
        rw [List.append_assoc, List.cons_append, splitMarked_append_cons hhierarchy]
      have hparse := hlead.parse_eq (hfragment q hq) hquery
      rw [readMarked_append_of_isSent hq (fun _ => Percent.staysInQuery_of_isSent _)
        (by cases isSpecial scheme <;> rfl)] at hparse
      exact ⟨_, _, hparse, by simp [markedText, readMarked]⟩
    · refine ⟨r, [], fun q hq => ?_⟩
      have hparse := hlead.parse_eq (hfragment q hq) (splitMarked_append_cons hmark q)
      rw [readMarked_of_isSent hq] at hparse
      exact ⟨_, _, hparse, by simp [markedText, readMarked]⟩

/-- Whether a text with a query behind it reads as a URL does not depend on the query, and neither
does what stands in front of the query in the URL. -/
lemma parse_append_query (front : Text) :
    (∃ e, ∀ q : Text, (∀ c ∈ q, Percent.isSent c = true) →
      parse (front ++ '?' :: q) = .error e) ∨
    ∃ kept, ∀ q : Text, (∀ c ∈ q, Percent.isSent c = true) →
      ∃ url, parse (front ++ '?' :: q) = .ok url ∧ url.text = kept ++ '?' :: q := by
  by_cases hfront : ∃ scheme lead r, front = lead ++ ':' :: r ∧ Lead scheme lead
  · obtain ⟨scheme, lead, r, rfl, hlead⟩ := hfront
    obtain ⟨hierarchy, kept, hparts⟩ := hlead.exists_parts r
    cases hread : readHierarchy scheme hierarchy true with
    | error e =>
      refine .inl ⟨e, fun q hq => ?_⟩
      obtain ⟨query, fragment, hparse, _⟩ := hparts q hq
      rw [List.append_assoc, List.cons_append, hparse, hread]
      rfl
    | ok x =>
      obtain ⟨authority, path⟩ := x
      refine .inr ⟨scheme ++ ':' :: (hierarchyText ⟨scheme, authority, path, none, none⟩ ++ kept),
        fun q hq => ?_⟩
      obtain ⟨query, fragment, hparse, htext⟩ := hparts q hq
      refine ⟨⟨scheme, authority, path, query, fragment⟩, ?_, ?_⟩
      · rw [List.append_assoc, List.cons_append, hparse, hread]
        rfl
      · unfold Url.text
        simp only [List.append_assoc, htext, List.cons_append]
        rfl
  · refine .inl ⟨.relative, fun q _ => ?_⟩
    have hread : readScheme? (inner (front ++ '?' :: q)) = none := by
      refine Option.eq_none_iff_forall_ne_some.2 fun ⟨scheme, rest⟩ hsome => hfront ?_
      obtain ⟨lead, t, hs, hlead⟩ := exists_lead_of_readScheme? hsome
      obtain ⟨r, hr, _⟩ := hlead.exists_of_append_eq hs
      exact ⟨scheme, lead, r, hr, hlead⟩
    unfold inner at hread
    unfold parse
    rw [hread]
    rfl

end SearchGateway.Url
