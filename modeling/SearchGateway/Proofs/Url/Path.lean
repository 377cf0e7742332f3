import SearchGateway.Proofs.Text.Case
import SearchGateway.Proofs.Text.Pieces
import SearchGateway.Proofs.Url.Percent
import SearchGateway.Url.Basic

/-!
# Paths behind an authority

A path is read segment by segment, so a path with more behind it has the segments of the path with
more behind them (`resolve_append`), whatever stood in it. The segments that stand for a place are
those that decode to one or two dots, so the encoded form of a value is one of them only where the
value is (`isHere_encodeValue`, `isAbove_encodeValue`).
-/

namespace SearchGateway.Url.Path

/-- Resolving a list resolves its front first, none of whose segments is the last. -/
lemma resolve_append (done front : List Text) {back : List Text} (h : back ≠ []) :
    resolve done (front ++ back) = resolve (front.foldl (add false) done) back := by
  induction front generalizing done with
  | nil => rfl
  | cons s front ih =>
    have hempty : (front ++ back).isEmpty = false := by
      rw [List.isEmpty_eq_false_iff]
      exact List.append_ne_nil_of_right_ne_nil _ h
    rw [List.cons_append, resolve, hempty, ih, List.foldl_cons]

/-- The last segment of a path leaves what it leaves inside of it, and maybe an empty segment. -/
lemma exists_add_true (done : List Text) (s : Text) :
    ∃ n, add true done s = add false done s ++ List.replicate n [] := by
  unfold add
  split
  · exact ⟨1, by simp⟩
  · split
    · exact ⟨1, by simp⟩
    · exact ⟨0, by simp⟩

/-- A path leads to the place of its segments, and maybe to an empty segment there. -/
lemma exists_resolve (done : List Text) {list : List Text} (h : list ≠ []) :
    ∃ n, resolve done list = list.foldl (add false) done ++ List.replicate n [] := by
  obtain ⟨front, last, rfl⟩ : ∃ front last, list = front ++ [last] :=
    ⟨_, _, (List.dropLast_concat_getLast h).symm⟩
  -- Only this segment is the last, and it alone may leave an empty one.
  obtain ⟨n, hn⟩ := exists_add_true (front.foldl (add false) done) last
  refine ⟨n, ?_⟩
  rw [resolve_append _ _ (List.cons_ne_nil _ _), List.foldl_append]
  exact hn

/-- An empty segment stands for no place. -/
lemma add_nil (last : Bool) (done : List Text) : add last done [] = done ++ [[]] := rfl

/-- Empty segments stay at the end of a path. -/
lemma resolve_replicate_nil (done : List Text) (n : Nat) :
    resolve done (List.replicate n []) = done ++ List.replicate n [] := by
  induction n generalizing done with
  | zero => exact (List.append_nil done).symm
  | succ n ih =>
    rw [List.replicate_succ, resolve, add_nil, ih, List.append_assoc, List.singleton_append]

/-- A segment that does not stand for a place is kept. -/
lemma add_of_not_place {s : Text} (hhere : isHere s = false) (habove : isAbove s = false)
    (last : Bool) (done : List Text) : add last done s = done ++ [s] := by
  unfold add
  rw [habove, hhere]
  rfl

/-- A dot in plain or encoded form is decoded as a dot. -/
lemma decode_append_of_dot {s : Text}
    (h : s.toLowerAscii = ".".toList ∨ s.toLowerAscii = "%2e".toList) (rest : Text) :
    Percent.decode (s ++ rest) = String.utf8EncodeChar '.' ++ Percent.decode rest := by
  have same {c d : Char} (hd : d.toNat < 97) (h : c.toLower = d) : c = d := by
    obtain hc | ⟨hsum, hlow, _⟩ := Text.eq_or_of_toLower_eq h
    · exact hc
    · omega
  unfold Text.toLowerAscii at h
  obtain h | h := h
  · obtain ⟨c, _, rfl, hc, hnil⟩ := List.map_eq_cons_iff.1 h
    rw [List.map_eq_nil_iff.1 hnil, same (by decide) hc]
    exact Percent.decode_cons (by decide) rest
  · obtain ⟨a, _, rfl, ha, h⟩ := List.map_eq_cons_iff.1 h
    obtain ⟨b, _, rfl, hb, h⟩ := List.map_eq_cons_iff.1 h
    obtain ⟨c, _, rfl, hc, hnil⟩ := List.map_eq_cons_iff.1 h
    rw [List.map_eq_nil_iff.1 hnil, same (by decide) ha, same (by decide) hb]
    obtain rfl | ⟨hsum, _, _⟩ := Text.eq_or_of_toLower_eq hc
    · rfl
    · have hcapital : c.toNat + 32 = 'E'.toNat + 32 := hsum
      rw [Char.toNat_inj.1 (Nat.add_right_cancel hcapital)]
      rfl

/-- A segment that stands for its own place is decoded as a dot. -/
lemma decodeText?_of_isHere {s : Text} (h : isHere s = true) :
    Percent.decodeText? s = some ".".toList := by
  unfold isHere at h
  simp only [List.contains_iff_mem, List.mem_cons, List.not_mem_nil, or_false] at h
  have hdecode := decode_append_of_dot h []
  rw [List.append_nil] at hdecode
  unfold Percent.decodeText?
  rw [hdecode]
  decide

/-- A segment that stands for the place above is decoded as two dots. -/
lemma decodeText?_of_isAbove {s : Text} (h : isAbove s = true) :
    Percent.decodeText? s = some "..".toList := by
  -- Such a segment is one of two dots, each of them plain or encoded.
  obtain ⟨p, q, hs, hp, hq⟩ : ∃ p q : Text, s.toLowerAscii = p ++ q ∧
      (p = ".".toList ∨ p = "%2e".toList) ∧ (q = ".".toList ∨ q = "%2e".toList) := by
    unfold isAbove at h
    simp only [List.contains_iff_mem, List.mem_cons, List.not_mem_nil, or_false] at h
    obtain h | h | h | h := h
    · exact ⟨_, _, h, .inl rfl, .inl rfl⟩
    · exact ⟨_, _, h, .inl rfl, .inr rfl⟩
    · exact ⟨_, _, h, .inr rfl, .inl rfl⟩
    · exact ⟨_, _, h, .inr rfl, .inr rfl⟩
  unfold Text.toLowerAscii at hs
  obtain ⟨s₁, s₂, rfl, rfl, rfl⟩ := List.map_eq_append_iff.1 hs
  have hdecode := decode_append_of_dot hq []
  rw [List.append_nil] at hdecode
  unfold Percent.decodeText?
  rw [decode_append_of_dot hp, hdecode]
  decide

/-- The encoded form of a value stands for its own place where the value is a dot. -/
lemma isHere_encodeValue {s : Text} : isHere (Percent.encodeValue s) = true ↔ s = ".".toList := by
  constructor
  · intro h
    have hdecode := decodeText?_of_isHere h
    rw [Percent.decodeText?_encodeValue] at hdecode
    exact Option.some.inj hdecode
  · rintro rfl
    rfl

/-- The encoded form of a value stands for the place above where the value is two dots. -/
lemma isAbove_encodeValue {s : Text} :
    isAbove (Percent.encodeValue s) = true ↔ s = "..".toList := by
  constructor
  · intro h
    have hdecode := decodeText?_of_isAbove h
    rw [Percent.decodeText?_encodeValue] at hdecode
    exact Option.some.inj hdecode
  · rintro rfl
    rfl

/-- Going up does not add a segment. -/
lemma length_goUp_le (done : List Text) : (goUp done).length ≤ done.length := by
  unfold goUp
  split
  · exact Nat.le_refl _
  · rw [List.length_dropLast]
    exact Nat.sub_le _ _

/-- The encoded form of a value is added as a segment unless the value is one dot or two dots. -/
lemma exists_add_encodeValue_iff {done : List Text} {s : Text} :
    (∃ segment, add false done (Percent.encodeValue s) = done ++ [segment] ∧
        Percent.decodeText? segment = some s) ↔ s ≠ ".".toList ∧ s ≠ "..".toList := by
  constructor
  · rintro ⟨segment, hadd, _⟩
    have hlength := congrArg List.length hadd
    rw [List.length_append, List.length_singleton] at hlength
    refine ⟨?_, ?_⟩
    · rintro rfl
      have hdot : add false done (Percent.encodeValue ".".toList) = done ++ [] := rfl
      rw [hdot, List.append_nil] at hlength
      omega
    · rintro rfl
      have hdots : add false done (Percent.encodeValue "..".toList) = goUp done ++ [] := rfl
      have hle := length_goUp_le done
      rw [hdots, List.append_nil] at hlength
      omega
  · rintro ⟨hdot, hdots⟩
    refine ⟨_, add_of_not_place ?_ ?_ false done, Percent.decodeText?_encodeValue s⟩
    · exact Bool.eq_false_iff.2 fun h => hdot (isHere_encodeValue.1 h)
    · exact Bool.eq_false_iff.2 fun h => hdots (isAbove_encodeValue.1 h)

/-- Whether a text can stand behind an authority: it is empty or begins with a slash. -/
def FollowsAuthority (p : Text) : Prop :=
  ∀ c ∈ p.head?, endsSegment true c = true

/-- The segments of the text of a path, before any are resolved away. -/
def rawSegments : Text → List Text
  | [] => []
  | _ :: r => (Text.pieces (endsSegment true) r).map (Percent.encode Percent.staysInPath)

/-- The segments of the place that the text of a path leads to. -/
def placeSegments (p : Text) : List Text :=
  (rawSegments p).foldl (add false) []

/-- A path with a slash and more behind it has the segments of both. -/
lemma readPathBehind_append_cons {p : Text} (h : FollowsAuthority p) (x : Text) :
    readPathBehind true (p ++ '/' :: x) =
      .segments (resolve (placeSegments p)
        ((x.pieces (endsSegment true)).map (Percent.encode Percent.staysInPath))) := by
  have hne : (x.pieces (endsSegment true)).map (Percent.encode Percent.staysInPath) ≠ [] := by
    rw [Text.pieces_eq_splitOnP]
    simp
  unfold placeSegments
  rw [← resolve_append _ _ hne]
  cases p with
  | nil => rfl
  | cons c r =>
    have hc : endsSegment true c = true := h c rfl
    rw [List.cons_append, readPathBehind, if_pos hc, readSegments,
      Text.pieces_append_cons rfl, List.map_append, rawSegments]

/-- A path that ends with slashes has the segments of the place and some empty ones. -/
lemma exists_readPathBehind_slashes {p : Text} (h : FollowsAuthority p) (k : Nat) :
    ∃ n, readPathBehind true (p ++ List.replicate k '/') =
      .segments (placeSegments p ++ List.replicate n []) := by
  cases k with
  | zero =>
    rw [List.replicate_zero, List.append_nil]
    cases p with
    | nil => exact ⟨1, rfl⟩
    | cons c r =>
      have hc : endsSegment true c = true := h c rfl
      have hne : rawSegments (c :: r) ≠ [] := by
        rw [rawSegments, Text.pieces_eq_splitOnP]
        simp
      obtain ⟨n, hn⟩ := exists_resolve [] hne
      refine ⟨n, ?_⟩
      rw [readPathBehind, if_pos hc]
      exact congrArg Path.segments hn
  | succ k =>
    refine ⟨k + 1, ?_⟩
    rw [List.replicate_succ, readPathBehind_append_cons h, Text.pieces_replicate rfl,
      List.map_replicate]
    exact congrArg Path.segments (resolve_replicate_nil _ _)

/-- A path that ends with the encoded form of a value has it added to its segments. -/
lemma readPathBehind_encodeValue {p : Text} (h : FollowsAuthority p) (s t : Text) :
    readPathBehind true (p ++ '/' :: (Percent.encodeValue s ++ '/' :: t)) =
      .segments (resolve (add false (placeSegments p) (Percent.encodeValue s))
        ((t.pieces (endsSegment true)).map (Percent.encode Percent.staysInPath))) := by
  have hends : ∀ c ∈ Percent.encodeValue s, endsSegment true c = false := by
    intro c hc
    have hsent := Percent.isSent_of_mem_encodeValue hc
    rw [Bool.eq_false_iff]
    intro hend
    unfold endsSegment at hend
    simp only [Bool.true_and, Bool.or_eq_true, beq_iff_eq] at hend
    obtain rfl | rfl := hend <;> exact absurd hsent (by decide)
  have hencode : Percent.encode Percent.staysInPath (Percent.encodeValue s) =
      Percent.encodeValue s :=
    Percent.encode_eq_self fun c hc =>
      Percent.staysInPath_of_isSent (Percent.isSent_of_mem_encodeValue hc)
  have hne : t.pieces (endsSegment true) ≠ [] := by
    rw [Text.pieces_eq_splitOnP]
    exact List.splitOnP_ne_nil _ _
  rw [readPathBehind_append_cons h, Text.pieces_append_cons rfl,
    Text.pieces_eq_singleton hends, List.map_append, List.map_singleton, hencode,
    resolve_append _ _ (by simpa using hne)]
  rfl

end SearchGateway.Url.Path
