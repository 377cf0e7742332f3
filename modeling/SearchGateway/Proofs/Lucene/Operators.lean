import SearchGateway.Proofs.Lucene.Reading

/-!
# Doubled operators

Two ampersands or two bars in a row join clauses, so escaping takes them apart: it makes the first
one of each pair literal, and pairs are counted from the beginning of a run. In a run of odd length
the last character has no partner, and the one in front of it stays bare as well. So doubled
operators are left exactly where a run has an odd length of at least three (`bare_pair_iff`).
-/

namespace SearchGateway.Lucene

/-- A run of a character of odd length, at least three, with other characters around it. -/
def HasOddRun (c : Char) (v : Text) : Prop :=
  ∃ a n b, v = a ++ (List.replicate n c ++ b) ∧ a.getLast? ≠ some c ∧ b.head? ≠ some c ∧
    Odd n ∧ 3 ≤ n

/-- A text is what stands in front of its last run, and the run. -/
lemma exists_eq_append_replicate (c : Char) (s : Text) :
    ∃ a : Text, s = a ++ List.replicate (runOffset c s) c ∧ a.getLast? ≠ some c := by
  induction s using List.reverseRecOn with
  | nil => exact ⟨[], rfl, nofun⟩
  | append_singleton s d ih =>
    by_cases hd : d = c
    · subst hd
      obtain ⟨a, hs, ha⟩ := ih
      refine ⟨a, ?_, ha⟩
      rw [runOffset_concat_self, List.replicate_succ', ← List.append_assoc, ← hs]
    · refine ⟨s ++ [d], ?_, ?_⟩
      · rw [runOffset_concat_of_ne hd]
        exact (List.append_nil _).symm
      · rw [List.getLast?_concat]
        exact fun h => hd (Option.some.inj h)

/-- The length of a run is the offset behind it. -/
lemma runOffset_append_replicate {c : Char} {a : Text} (h : a.getLast? ≠ some c) (n : Nat) :
    runOffset c (a ++ List.replicate n c) = n := by
  induction n with
  | zero =>
    show runOffset c (a ++ []) = 0
    rw [List.append_nil]
    rcases List.eq_nil_or_concat a with rfl | ⟨a, d, rfl⟩
    · rfl
    · rw [List.concat_eq_append] at h ⊢
      apply runOffset_concat_of_ne
      rintro rfl
      exact h List.getLast?_concat
  | succ n ih =>
    rw [List.replicate_succ', ← List.append_assoc, runOffset_concat_self, ih]

/-- A run of odd length that is at least three ends with a character at an odd offset and one more. -/
lemma hasOddRun_iff {c : Char} {v : Text} :
    HasOddRun c v ↔
      ∃ a b, v = a ++ c :: c :: b ∧ ¬ Even (runOffset c a) ∧ b.head? ≠ some c := by
  constructor
  · rintro ⟨a, n, b, rfl, hfront, hend, hodd, hn⟩
    obtain ⟨m, rfl⟩ := Nat.exists_eq_add_of_le' (Nat.le_of_succ_le hn)
    refine ⟨a ++ List.replicate m c, b, ?_, ?_, hend⟩
    · rw [List.replicate_add]
      simp
    · rw [runOffset_append_replicate hfront]
      exact fun hm => Nat.not_even_iff_odd.2 hodd (hm.add even_two)
  · rintro ⟨a, b, rfl, hodd, hend⟩
    obtain ⟨a', ha, hfront⟩ := exists_eq_append_replicate c a
    have hn : Odd (runOffset c a + 2) := (Nat.not_even_iff_odd.1 hodd).add_even even_two
    have hpos : runOffset c a ≠ 0 := fun h => hodd (h ▸ Even.zero)
    refine ⟨a', runOffset c a + 2, b, ?_, hfront, hend, hn, by omega⟩
    rw [List.replicate_add, ← List.append_assoc, ← List.append_assoc, ← ha]
    simp

/-- An ampersand or a bar is escaped at an even offset of a run that goes on behind it. -/
lemma isEscaped_iff_of_isPairChar {s t : Text} {c : Char} (hc : IsPairChar c) :
    IsEscaped s c t ↔ Even (runOffset c s) ∧ t.head? = some c := by
  have hkeyword : ¬ InKeyword s c t := fun h => by
    have hword := isWord_of_inKeyword h
    rw [isWord_of_isPairChar hc] at hword
    cases hword
  constructor
  · rintro (h | h | h)
    · rw [needsEscape_of_isPairChar hc] at h
      cases h
    · exact h.2
    · exact absurd h hkeyword
  · exact fun h => .inr (.inl ⟨hc, h⟩)

/-- Two bare characters in a row are two characters of the value in a row that are not escaped. -/
lemma bare_bare_infix_iff {v : Text} {c d : Char} :
    [.bare c, .bare d] <:+: glyphs (escape v) ↔
      ∃ a b, v = a ++ c :: d :: b ∧ ¬ IsEscaped a c (d :: b) ∧ ¬ IsEscaped (a ++ [c]) d b := by
  rw [escape_eq_escapeWhere, bare_cons_infix_iff isEscaped_backslash]
  constructor
  · rintro ⟨a, t, hv, hc, hd⟩
    obtain ⟨b, rfl, hd, -⟩ := (bare_cons_prefix_iff isEscaped_backslash).1 hd
    exact ⟨a, b, hv, hc, hd⟩
  · rintro ⟨a, b, hv, hc, hd⟩
    exact ⟨a, d :: b, hv, hc,
      (bare_cons_prefix_iff isEscaped_backslash).2 ⟨b, rfl, hd, List.nil_prefix⟩⟩

/-- Two ampersands or two bars in a row stay bare exactly where they end a run of odd length that has
at least three of them. -/
theorem bare_pair_iff {v : Text} (hv : v ≠ []) :
    ∃ t, escape? v = some t ∧
      ∀ c, IsPairChar c → ([.bare c, .bare c] <:+: glyphs t ↔ HasOddRun c v) := by
  refine ⟨escape v, escape?_eq_some hv, fun c hc => ?_⟩
  simp only [bare_bare_infix_iff, hasOddRun_iff, isEscaped_iff_of_isPairChar hc, List.head?_cons,
    and_true, runOffset_concat_self, Nat.even_add_one]
  constructor
  · rintro ⟨a, b, hv, hodd, hend⟩
    exact ⟨a, b, hv, hodd, fun h => hend ⟨hodd, h⟩⟩
  · rintro ⟨a, b, hv, hodd, hend⟩
    exact ⟨a, b, hv, hodd, fun h => hend h.2⟩

/-- Of five bars the last two stay bare. -/
theorem bare_pair_iff_bars :
    "a|||||b".toList ≠ [] ∧ ∃ t, escape? "a|||||b".toList = some t ∧
      [.bare '|', .bare '|'] <:+: glyphs t := by
  obtain ⟨t, ht, h⟩ := bare_pair_iff (v := "a|||||b".toList) (by decide)
  have hrun : HasOddRun '|' "a|||||b".toList :=
    ⟨['a'], 5, ['b'], rfl, by decide, by decide, by decide, by decide⟩
  exact ⟨by decide, t, ht, (h '|' (.inr rfl)).2 hrun⟩

/-- Three ampersands leave a doubled operator. -/
theorem bare_pair_ampersands :
    escape? "a&&&b".toList = some "a\\&&&b".toList ∧
      [.bare '&', .bare '&'] <:+: glyphs "a\\&&&b".toList := by
  decide +kernel

end SearchGateway.Lucene
