import SearchGateway.Proofs.Text.Trim
import SearchGateway.Proofs.Url.Path

/-!
# Authorities of the special schemes

Behind a special scheme, an authority ends at the first slash or backslash, so it is read the same
whatever path stands behind it (`readAuthority_append`). What stands behind the scheme falls apart
into the authority and the text of the path (`exists_parts`), and more text at its end belongs to
the path (`Parts.append`).
-/

namespace SearchGateway.Url

open SearchGateway.Url.Path

variable {a p : Text}

/-- The host ends with the authority at the latest. -/
lemma splitHost_append (ha : ∀ c ∈ a, endsSegment true c = false) (hp : FollowsAuthority p)
    (bracketed : Bool) :
    splitHost true bracketed (a ++ p) =
      ((splitHost true bracketed a).1, (splitHost true bracketed a).2 ++ p) := by
  induction a generalizing bracketed with
  | nil =>
    cases p with
    | nil => rfl
    | cons c p =>
      have hc : endsSegment true c = true := hp c rfl
      have hstop : (endsSegment true c || (c == ':' && !bracketed)) = true := by
        rw [hc, Bool.true_or]
      exact if_pos hstop
  | cons c a ih =>
    have hc := ha c (.head _)
    have ih := ih fun d hd => ha d (.tail _ hd)
    rw [List.cons_append, splitHost, splitHost, hc, Bool.false_or]
    split
    · rfl
    · simp only [ih]

/-- Behind the host stands nothing or a colon, and no slash where there was none. -/
lemma of_splitHost {bracketed : Bool} {host rest : Text}
    (ha : ∀ c ∈ a, endsSegment true c = false) (h : splitHost true bracketed a = (host, rest)) :
    rest = [] ∨ ∃ r, rest = ':' :: r ∧ ∀ c ∈ r, endsSegment true c = false := by
  induction a generalizing bracketed host with
  | nil =>
    cases h
    exact .inl rfl
  | cons c a ih =>
    have hc := ha c (.head _)
    have htail : ∀ d ∈ a, endsSegment true d = false := fun d hd => ha d (.tail _ hd)
    rw [splitHost, hc, Bool.false_or] at h
    split at h
    · rename_i hcolon
      simp only [Bool.and_eq_true, beq_iff_eq] at hcolon
      cases h
      exact .inr ⟨a, by rw [hcolon.1], htail⟩
    · cases h
      exact ih htail rfl

/-- A slash or a backslash begins the path. -/
lemma eq_or_eq_of_endsSegment {c : Char} (h : endsSegment true c = true) : c = '/' ∨ c = '\\' := by
  unfold endsSegment at h
  simpa only [Bool.true_and, Bool.or_eq_true, beq_iff_eq] using h

/-- The port ends with the authority. -/
lemma readPort_append (ha : ∀ c ∈ a, endsSegment true c = false) (hp : FollowsAuthority p)
    (value : Option Nat) :
    readPort value (a ++ p) = (readPort value a).map fun x => (x.1, p) := by
  induction a generalizing value with
  | nil =>
    cases p with
    | nil => rfl
    | cons c p => obtain rfl | rfl := eq_or_eq_of_endsSegment (hp c rfl) <;> rfl
  | cons c a ih =>
    have hslash : ¬(c = '/' ∨ c = '\\') := by
      have hc := ha c (.head _)
      rintro (rfl | rfl) <;> cases hc
    have ih := ih fun d hd => ha d (.tail _ hd)
    rw [List.cons_append, readPort, readPort]
    cases digit? c with
    | none =>
      simp only [if_neg hslash]
      rfl
    | some d =>
      simp only
      split
      · exact ih _
      · rfl

/-- Host and port end with the authority. -/
lemma readHostAndPort_append {scheme : Text} (hspecial : isSpecial scheme = true)
    (ha : ∀ c ∈ a, endsSegment true c = false) (hp : FollowsAuthority p) (user password : Text) :
    readHostAndPort scheme user password (a ++ p) =
      (readHostAndPort scheme user password a).map fun x => (x.1, p) := by
  rcases hsplit : splitHost true false a with ⟨hostText, rest⟩
  unfold readHostAndPort
  simp only [hspecial, splitHost_append ha hp, hsplit, if_true]
  split
  · rfl
  cases Host.read hostText with
  | error e => rfl
  | ok host =>
    obtain rfl | ⟨r, rfl, hr⟩ := of_splitHost ha hsplit
    -- Without a port, what stands behind the host is the path, which does not begin with a colon.
    · simp only [List.nil_append]
      split
      · rename_i r
        cases hp ':' rfl
      · simp only [bind, Except.bind]
        split <;> rfl
    · simp only [List.cons_append, readPort_append hr hp, bind, Except.bind]
      split
      · rfl
      · cases readPort none r <;> rfl

/-- Nothing is no authority. -/
lemma readHostAndPort_nil {scheme : Text} (hspecial : isSpecial scheme = true)
    (user password : Text) : readHostAndPort scheme user password [] = .error .emptyHost := by
  unfold readHostAndPort
  simp only [hspecial, if_true]
  rfl

/-- An authority is read the same whatever path stands behind it. -/
lemma readAuthority_append {scheme : Text} (hspecial : isSpecial scheme = true)
    (ha : ∀ c ∈ a, endsSegment true c = false) (hp : FollowsAuthority p) (followed : Bool) :
    readAuthority scheme (a ++ p) followed =
      (readAuthority scheme a false).map fun x => (x.1, p) := by
  have htake {p : Text} (hp : FollowsAuthority p) :
      (a ++ p).takeWhile (!endsSegment true ·) = a := by
    rw [List.takeWhile_append_of_pos fun c hc => by rw [ha c hc]; rfl]
    cases p with
    | nil => exact List.append_nil a
    | cons c p =>
      have hc : endsSegment true c = true := hp c rfl
      rw [List.takeWhile_cons_of_neg (by simp [hc]), List.append_nil]
  have htake' := htake (p := []) nofun
  rw [List.append_nil] at htake'
  unfold readAuthority
  simp only [hspecial, htake hp, htake']
  cases hcut : Text.cutLast? '@' a with
  | none => exact readHostAndPort_append hspecial ha hp [] []
  | some x =>
    obtain ⟨info, after⟩ := x
    have heq := Text.eq_append_of_cutLast? hcut
    have hafter : ∀ c ∈ after, endsSegment true c = false := fun c hc => ha c (by simp [heq, hc])
    have hdrop (x : Text) : (info ++ '@' :: x).drop (info.length + 1) = x := by simp
    simp only [heq, hdrop, List.append_assoc, List.cons_append]
    cases after with
    | nil =>
      -- Without a host there is an error, whether or not a user name stands in front of it.
      have herror (user password : Text) :
          readHostAndPort scheme user password p = .error .emptyHost := by
        have happend := readHostAndPort_append hspecial hafter hp user password
        rwa [List.nil_append, readHostAndPort_nil hspecial] at happend
      simp only [List.nil_append, herror, readHostAndPort_nil hspecial, ite_self]
      rfl
    | cons d after =>
      have hd : endsSegment true d = false := hafter d (.head _)
      simp only [List.cons_append, hd, Bool.and_false, Bool.false_eq_true, if_false]
      exact readHostAndPort_append hspecial hafter hp _ _

/-- What stands behind a special scheme: slashes, an authority and the text of a path. -/
structure Parts (s authority path : Text) : Prop where
  eq : (withoutDropped s).trimStartWhere (endsSegment true) = authority ++ path
  authority : ∀ c ∈ authority, endsSegment true c = false
  path : FollowsAuthority path

/-- What stands behind a scheme falls apart. -/
lemma exists_parts (s : Text) : ∃ authority path, Parts s authority path := by
  refine ⟨_, _, (List.takeWhile_append_dropWhile (p := (!endsSegment true ·))).symm, ?_, ?_⟩
  · intro c hc
    simpa using List.mem_takeWhile_imp hc
  · intro c hc
    have hhead := List.head?_dropWhile_not (!endsSegment true ·)
      ((withoutDropped s).trimStartWhere (endsSegment true))
    rw [hc] at hhead
    simpa using hhead

/-- The hierarchy of a URL is read from its parts. -/
lemma Parts.readHierarchy_eq {scheme s a p : Text} (h : Parts s a p)
    (hspecial : isSpecial scheme = true) (hfile : isFileScheme scheme = false) (followed : Bool) :
    readHierarchy scheme s followed =
      (readAuthority scheme a false).map fun x => (some x.1, readPathBehind true p) := by
  unfold readHierarchy
  simp only [hfile, hspecial, h.eq, readAuthority_append hspecial h.authority h.path]
  cases readAuthority scheme a false <;> rfl

/-- More text at the end belongs to the path. -/
lemma Parts.append {s a p x : Text} (h : Parts s a p) (ha : a ≠ []) (hx : FollowsAuthority x)
    (hdropped : withoutDropped x = x) : Parts (s ++ x) a (p ++ x) := by
  refine ⟨?_, h.authority, ?_⟩
  · have heq := h.eq
    unfold Text.trimStartWhere at heq ⊢
    unfold withoutDropped at heq hdropped ⊢
    rw [List.filter_append, hdropped, List.dropWhile_append, heq, List.append_assoc, if_neg]
    simp [ha]
  · cases p with
    | nil => exact hx
    | cons c p => exact h.path

/-- There is an authority if a URL can be read. -/
lemma Parts.authority_ne_nil {scheme s a p x : Text} {followed : Bool} {y : Option Authority × Path}
    (h : Parts s a p) (hspecial : isSpecial scheme = true) (hfile : isFileScheme scheme = false)
    (hx : ∀ c ∈ x, endsSegment true c = true)
    (hok : readHierarchy scheme (s ++ x) followed = .ok y) : a ≠ [] := by
  rintro rfl
  have heq : (withoutDropped s).dropWhile (endsSegment true) = p := h.eq
  have hnil : p = [] := by
    cases p with
    | nil => rfl
    | cons c p =>
      have hhead := List.head?_dropWhile_not (endsSegment true) (withoutDropped s)
      rw [heq] at hhead
      exact absurd (h.path c rfl) (by simpa using hhead)
  -- Slashes alone have no authority behind them.
  have hall : Parts (s ++ x) [] [] := by
    have hs : ∀ c ∈ withoutDropped s, endsSegment true c = true :=
      List.dropWhile_eq_nil_iff.1 (heq.trans hnil)
    refine ⟨List.dropWhile_eq_nil_iff.2 fun c hc => ?_, nofun, nofun⟩
    unfold withoutDropped at hc hs
    rw [List.filter_append, List.mem_append] at hc
    exact hc.elim (hs c) fun hc => hx c (List.mem_filter.1 hc).1
  have herror : readAuthority scheme [] false = .error .emptyHost :=
    readHostAndPort_nil hspecial [] []
  rw [hall.readHierarchy_eq hspecial hfile, herror] at hok
  cases hok

/-- What stands behind a special scheme leads to a place, and more text behind it, apart from its
last slashes, belongs to the path from there. -/
lemma exists_place_of_readHierarchy {scheme t : Text} {authority : Option Authority} {path : Path}
    (hspecial : isSpecial scheme = true) (hfile : isFileScheme scheme = false)
    (h : readHierarchy scheme t false = .ok (authority, path)) :
    ∃ p n, FollowsAuthority p ∧ path = .segments (placeSegments p ++ List.replicate n []) ∧
      ∀ x followed, FollowsAuthority x → withoutDropped x = x →
        readHierarchy scheme (t.trimEndWhere (· == '/') ++ x) followed =
          .ok (authority, readPathBehind true (p ++ x)) := by
  obtain ⟨k, ht⟩ := Text.exists_eq_trimEndWhere_append_replicate '/' t
  have hslashes : FollowsAuthority (List.replicate k '/') := by
    intro c hc
    rw [List.eq_of_mem_replicate (List.mem_of_mem_head? hc)]
    rfl
  have hdropped : withoutDropped (List.replicate k '/') = List.replicate k '/' :=
    List.filter_replicate_of_pos rfl
  obtain ⟨a, p, hparts⟩ := exists_parts (t.trimEndWhere (· == '/'))
  have ha : a ≠ [] := by
    refine hparts.authority_ne_nil hspecial hfile (x := List.replicate k '/') ?_ (ht ▸ h)
    intro c hc
    rw [List.eq_of_mem_replicate hc]
    rfl
  obtain ⟨n, hn⟩ := exists_readPathBehind_slashes hparts.path k
  rw [ht, (hparts.append ha hslashes hdropped).readHierarchy_eq hspecial hfile, hn] at h
  cases hauthority : readAuthority scheme a false with
  | error e =>
    rw [hauthority] at h
    cases h
  | ok y =>
    rw [hauthority] at h
    cases h
    refine ⟨p, n, hparts.path, rfl, fun x followed hx hxdropped => ?_⟩
    rw [(hparts.append ha hx hxdropped).readHierarchy_eq hspecial hfile, hauthority]
    rfl

end SearchGateway.Url
