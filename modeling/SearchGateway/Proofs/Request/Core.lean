import SearchGateway.Proofs.Request.Parameters
import SearchGateway.Proofs.Url.Authority

/-!
# The core of a request

Whatever stands behind the text of a base belongs to the path, behind the segments of the place that
the base leads to (`exists_place`). A request puts the encoded core and the handler there. The core
becomes a segment of its own unless it is a dot or two dots, which have no encoded form and are
resolved away, so that the request leaves its core (`exists_url_eq`).
-/

namespace SearchGateway

open Url.Path (FollowsAuthority placeSegments)

/-- Every web base leads to a place, and more text behind it belongs to the path from there. -/
lemma Url.exists_place {base : Text} {b : Url} (hbase : parse base = .ok b)
    (hscheme : b.scheme = "http".toList ∨ b.scheme = "https".toList) (hquery : b.query = none)
    (hfragment : b.fragment = none) (hend : base.trimEndWhere isOuterBlank = base) :
    ∃ lead r p n, base.trimEndWhere (· == '/') = lead ++ ':' :: r ∧ Lead b.scheme lead ∧
      '?' ∉ r ∧ '#' ∉ r ∧ FollowsAuthority p ∧
      b.path = .segments (placeSegments p ++ List.replicate n []) ∧
      ∀ x followed, FollowsAuthority x → withoutDropped x = x →
        readHierarchy b.scheme (r ++ x) followed =
          .ok (b.authority, readPathBehind true (p ++ x)) := by
  have hspecial : isSpecial b.scheme = true := by
    obtain h | h := hscheme <;> rw [h] <;> rfl
  have hfile : isFileScheme b.scheme = false := by
    obtain h | h := hscheme <;> rw [h] <;> rfl
  obtain ⟨lead, t, rfl, hlead⟩ := exists_lead hbase
  have hendt : t.trimEndWhere isOuterBlank = t := by
    rw [Text.trimEndWhere_append_cons (by decide)] at hend
    simpa using hend
  obtain ⟨hmark, hhash⟩ := hlead.not_mem_of_parse hquery hfragment hendt hbase
  obtain ⟨hhierarchy, _⟩ := (hlead.parse_plain_eq_ok_iff b hmark hhash hendt).1 hbase
  obtain ⟨p, n, hp, hpath, hread⟩ := exists_place_of_readHierarchy hspecial hfile hhierarchy
  exact ⟨lead, _, p, n, Text.trimEndWhere_append_cons (by decide) lead t, hlead,
    Text.not_mem_trimEndWhere hmark _, Text.not_mem_trimEndWhere hhash _, hp, hpath, hread⟩

namespace SelectRequest

/-- The path for a core has nothing that a URL drops. -/
lemma withoutDropped_corePath (core : Text) :
    Url.withoutDropped (corePath core) = corePath core := by
  refine Url.withoutDropped_eq_self fun c hc => ?_
  obtain rfl | hc := of_mem_corePath hc
  · rfl
  · exact (Url.not_dropped_of_isSent hc).2

/-- Behind a place, the path for a core adds the core and the handler to the segments. -/
lemma readPathBehind_corePath {p : Text} (hp : FollowsAuthority p) (core : Text) :
    Url.readPathBehind true (p ++ corePath core) =
      .segments (Url.Path.add false (placeSegments p) (Percent.encodeValue core) ++
        ["select".toList]) :=
  Url.Path.readPathBehind_encodeValue hp core "select".toList

/-- What stands behind the scheme of the base and the path for the core make the URL. -/
lemma url_eq_ok_of_readHierarchy {method : Method} {query : LuceneQuery} {metadata : Metadata}
    {base core lead r scheme : Text} {authority : Option Url.Authority} {path : Url.Path}
    (htrim : base.trimEndWhere (· == '/') = lead ++ ':' :: r) (hlead : Url.Lead scheme lead)
    (hmark : '?' ∉ r) (hhash : '#' ∉ r)
    (hread : Url.readHierarchy scheme (r ++ corePath core) true = .ok (authority, path)) :
    (build method query metadata).url base core = .ok ⟨scheme, authority, path,
      some (build method query metadata).queryString, none⟩ := by
  have hparse := (hlead.parse_query_eq_ok_iff
    ⟨scheme, authority, path, some (build method query metadata).queryString, none⟩
    (not_mem_append_corePath hmark (by decide) rfl) (not_mem_append_corePath hhash (by decide) rfl)
    fun c hc => isSent_of_mem_queryString hc).2 ⟨hread, rfl, rfl⟩
  rw [url_eq_ok_iff, urlText_eq, htrim]
  simpa using hparse

/-- The URL of a request to a web base has the scheme and the authority of the base. Its path has
the segments of the place that the base leads to, and behind them the core and the handler, unless
the core is one dot or two dots. -/
theorem exists_url_eq (method : Method) (query : LuceneQuery) (metadata : Metadata)
    {base : Text} {b : Url} (core : Text) (hbase : Url.parse base = .ok b)
    (hscheme : b.scheme = "http".toList ∨ b.scheme = "https".toList) (hquery : b.query = none)
    (hfragment : b.fragment = none) (hend : base.trimEndWhere Url.isOuterBlank = base) :
    ∃ url segments n, (build method query metadata).url base core = .ok url ∧
      url.scheme = b.scheme ∧ url.authority = b.authority ∧
      b.path = .segments (segments ++ List.replicate n []) ∧
      Url.parse (base.trimEndWhere (· == '/') ++ ['/']) =
        .ok { b with path := .segments (segments ++ [[]]) } ∧
      ((∃ segment, url.path = .segments (segments ++ [segment, "select".toList]) ∧
          Percent.decodeText? segment = some core) ↔
        core ≠ ".".toList ∧ core ≠ "..".toList) := by
  obtain ⟨lead, r, p, n, htrim, hlead, hmark, hhash, hp, hpath, hread⟩ :=
    Url.exists_place hbase hscheme hquery hfragment hend
  have hurl := hread (corePath core) true (fun c hc => by cases hc; rfl)
    (withoutDropped_corePath core)
  rw [readPathBehind_corePath hp] at hurl
  -- The same place, read with no more than a slash behind it, shows its segments.
  have hslash := hread ['/'] false (fun c hc => by cases hc; rfl) rfl
  rw [Url.Path.readPathBehind_append_cons hp] at hslash
  refine ⟨_, placeSegments p, n, url_eq_ok_of_readHierarchy htrim hlead hmark hhash hurl, rfl, rfl,
    hpath, ?_, ?_⟩
  · have hnot {c : Char} (hc : c ∉ r) (hne : c ≠ '/') : c ∉ r ++ ['/'] := by simp [hc, hne]
    have hparse := (hlead.parse_plain_eq_ok_iff
      { b with path := .segments (placeSegments p ++ [[]]) }
      (hnot hmark (by decide)) (hnot hhash (by decide))
      (Text.trimEndWhere_append_cons (by decide) r [])).2 ⟨hslash, hquery.symm, hfragment.symm⟩
    rw [htrim]
    simpa using hparse
  · have hsegments (segment : Text) :
        Url.Path.add false (placeSegments p) (Percent.encodeValue core) ++ ["select".toList] =
            placeSegments p ++ [segment, "select".toList] ↔
          Url.Path.add false (placeSegments p) (Percent.encodeValue core) =
            placeSegments p ++ [segment] := by
      rw [List.append_cons (placeSegments p), List.append_left_inj]
    simp only [Url.Path.segments.injEq, hsegments]
    exact Url.Path.exists_add_encodeValue_iff

/-- A core with slashes and dots in it is one segment. -/
theorem exists_url_eq_slashes :
    Url.parse "http://localhost:8983/solr".toList =
      .ok ⟨"http".toList, some ⟨[], [], .name "localhost".toList, some 8983⟩,
        .segments ["solr".toList], none, none⟩ ∧
    ∃ url segment,
      (build .count ⟨"a:b".toList⟩ {}).url "http://localhost:8983/solr".toList "../a".toList =
        .ok url ∧
      url.path = .segments ["solr".toList, segment, "select".toList] ∧
      Percent.decodeText? segment = some "../a".toList := by
  have hbase : Url.parse "http://localhost:8983/solr".toList =
      .ok ⟨"http".toList, some ⟨[], [], .name "localhost".toList, some 8983⟩,
        .segments ["solr".toList], none, none⟩ := rfl
  have hplace : Url.parse (Text.trimEndWhere (· == '/') "http://localhost:8983/solr".toList ++
      ['/']) = .ok ⟨"http".toList, some ⟨[], [], .name "localhost".toList, some 8983⟩,
        .segments ["solr".toList, []], none, none⟩ := rfl
  obtain ⟨url, segments, n, hurl, _, _, _, hslash, hcore⟩ := exists_url_eq .count ⟨"a:b".toList⟩ {}
    "../a".toList hbase (.inl rfl) rfl rfl (by decide)
  rw [hplace] at hslash
  injection hslash with hslash
  injection hslash with _ _ hsegments
  injection hsegments with hsegments
  obtain rfl : ["solr".toList] = segments := (List.append_left_inj [[]]).1 hsegments
  obtain ⟨segment, hpath, hdecode⟩ := hcore.2 ⟨by decide, by decide⟩
  exact ⟨hbase, url, segment, hurl, hpath, hdecode⟩

/-- A core of two dots is resolved away, together with the last segment of the base. -/
theorem url_dots :
    (build .count ⟨"a:b".toList⟩ {}).url "http://localhost:8983/solr".toList "..".toList =
      .ok ⟨"http".toList, some ⟨[], [], .name "localhost".toList, some 8983⟩,
        .segments ["select".toList], some "q=a%3Ab&rows=0&wt=json".toList, none⟩ :=
  rfl

end SelectRequest

end SearchGateway
