import Mathlib.Tactic.Lemma
import SearchGateway.Json.Reader

/-!
# Strings in JSON text

An escaped text between quotes reads back as the text, with whatever stands behind it left over
(`readString_escape`). A text that needs no escaping stands for itself.
-/

namespace SearchGateway.Json

/-- The hexadecimal digits of a number below 16 read back. -/
lemma hexDigit?_digitChar {n : Nat} (h : n < 16) : hexDigit? (Nat.digitChar n) = some n := by
  have all : ∀ m < 16, hexDigit? (Nat.digitChar m) = some m := by decide
  exact all n h

/-- Whether a character stands for itself inside a JSON string. -/
def isPlain (c : Char) : Bool :=
  c ≠ '"' && c ≠ '\\' && 32 ≤ c.toNat

/-- An escaped character is a letter behind a backslash, a code point, or the character itself. The
letter is the quote or the backslash itself, or else stands for a control character. -/
lemma escapeChar_cases (c : Char) :
    (∃ l, escapeChar c = ['\\', l] ∧ l ≠ 'u' ∧ simpleEscape? l = some c ∧
      (l = c ∧ (c = '"' ∨ c = '\\') ∨ c.toNat < 32 ∧ 32 ≤ l.toNat)) ∨
    (c.toNat < 32 ∧ escapeChar c =
      ['\\', 'u', '0', '0', Nat.digitChar (c.toNat / 16), Nat.digitChar (c.toNat % 16)]) ∨
    (isPlain c = true ∧ escapeChar c = [c]) := by
  have code {n : Nat} (h : c.toNat = n) : c = Char.ofNat n := by rw [← h, Char.ofNat_toNat]
  by_cases hq : c = '"'
  · exact .inl ⟨'"', by subst hq; decide⟩
  by_cases hb : c = '\\'
  · exact .inl ⟨'\\', by subst hb; decide⟩
  by_cases hn : c = '\n'
  · exact .inl ⟨'n', by subst hn; decide⟩
  by_cases hr : c = '\r'
  · exact .inl ⟨'r', by subst hr; decide⟩
  by_cases ht : c = '\t'
  · exact .inl ⟨'t', by subst ht; decide⟩
  by_cases h8 : c.toNat = 8
  · exact .inl ⟨'b', by rw [code h8]; decide⟩
  by_cases h12 : c.toNat = 12
  · exact .inl ⟨'f', by rw [code h12]; decide⟩
  by_cases hc : c.toNat < 32
  · refine .inr (.inl ⟨hc, ?_⟩)
    simp only [escapeChar, hq, hb, hn, hr, ht, h8, h12, hc, if_true, if_false]
    rfl
  · refine .inr (.inr ⟨?_, ?_⟩)
    · simp only [isPlain, hq, hb, ne_eq, not_false_eq_true, decide_true, Bool.true_and,
        decide_eq_true_eq]
      omega
    · simp only [escapeChar, hq, hb, hn, hr, ht, h8, h12, hc, if_false]

/-- A text is escaped character by character. -/
lemma escape_cons (c : Char) (s : Text) : escape (c :: s) = escapeChar c ++ escape s := by
  exact List.flatMap_cons

/-- Escaping two texts is escaping each of them. -/
lemma escape_append (s t : Text) : escape (s ++ t) = escape s ++ escape t := by
  exact List.flatMap_append

/-- A control character reads back from its code point. -/
lemma readUnicodeEscape_code {c : Char} (h : c.toNat < 32) (s : Text) :
    readUnicodeEscape ('0' :: '0' :: Nat.digitChar (c.toNat / 16) ::
      Nat.digitChar (c.toNat % 16) :: s) = .ok (c, s) := by
  have hhigh := hexDigit?_digitChar (n := c.toNat / 16) (by omega)
  have hlow := hexDigit?_digitChar (n := c.toNat % 16) (by omega)
  have hzero : hexDigit? '0' = some 0 := by decide
  have hsum : ((0 * 16 + 0) * 16 + c.toNat / 16) * 16 + c.toNat % 16 = c.toNat := by omega
  have hl : isLowSurrogate c.toNat = false := by
    simp only [isLowSurrogate, Bool.and_eq_false_iff, decide_eq_false_iff_not]
    omega
  have hh : isHighSurrogate c.toNat = false := by
    simp only [isHighSurrogate, Bool.and_eq_false_iff, decide_eq_false_iff_not]
    omega
  simp only [readUnicodeEscape, readHex4, hzero, hhigh, hlow, hsum, hl, hh, Char.ofNat_toNat,
    Bool.false_eq_true, if_false]

/-- Behind an escaped character reading goes on with the rest. -/
lemma readStringBody_escapeChar (n : Nat) (c : Char) (s : Text) :
    readStringBody (n + 1) (escapeChar c ++ s) =
      (readStringBody n s).map fun (t, rest) => (c :: t, rest) := by
  obtain ⟨l, he, hl, hs, _⟩ | ⟨hc, he⟩ | ⟨hp, he⟩ := escapeChar_cases c
  · simp only [he, List.cons_append, List.nil_append, readStringBody, readEscape, hl, hs, if_true,
      if_false]
    cases readStringBody n s <;> rfl
  · simp only [he, List.cons_append, List.nil_append, readStringBody, readEscape,
      readUnicodeEscape_code hc, if_true, Char.reduceEq, if_false]
    cases readStringBody n s <;> rfl
  · simp only [isPlain, ne_eq, Bool.and_eq_true, decide_eq_true_eq] at hp
    have hctl : ¬ c.toNat < 32 := by omega
    simp only [he, List.cons_append, List.nil_append, readStringBody, hp.1.1, hp.1.2, hctl,
      if_false]
    cases readStringBody n s <;> rfl

/-- An escaped text reads back in as many steps as it has characters, and one for the quote. -/
lemma readStringBody_escape {n : Nat} {s : Text} (h : s.length < n) (rest : Text) :
    readStringBody n (escape s ++ '"' :: rest) = .ok (s, rest) := by
  induction s generalizing n with
  | nil =>
    obtain ⟨m, rfl⟩ := Nat.exists_eq_succ_of_ne_zero (Nat.ne_zero_of_lt h)
    rfl
  | cons c s ih =>
    obtain ⟨m, rfl⟩ := Nat.exists_eq_succ_of_ne_zero (Nat.ne_zero_of_lt h)
    have hm : s.length < m := by simpa using h
    rw [escape_cons, List.append_assoc, readStringBody_escapeChar, ih hm]
    rfl

/-- Escaping makes no text shorter. -/
lemma length_le_length_escape (s : Text) : s.length ≤ (escape s).length := by
  induction s with
  | nil => exact Nat.le_refl 0
  | cons c s ih =>
    have hc : 1 ≤ (escapeChar c).length := by
      obtain ⟨l, he, _⟩ | ⟨_, he⟩ | ⟨_, he⟩ := escapeChar_cases c <;> simp [he]
    rw [escape_cons, List.length_append, List.length_cons]
    omega

/-- An escaped text reads back up to the quote behind it. -/
lemma readString_escape (s rest : Text) : readString (escape s ++ '"' :: rest) = .ok (s, rest) := by
  have h := length_le_length_escape s
  apply readStringBody_escape
  simp only [List.length_append, List.length_cons]
  omega

/-- A plain character is not escaped. -/
lemma escapeChar_of_isPlain {c : Char} (h : isPlain c = true) : escapeChar c = [c] := by
  simp only [isPlain, ne_eq, Bool.and_eq_true, decide_eq_true_eq] at h
  obtain ⟨l, _, _, _, ⟨_, hc | hc⟩ | ⟨hc, _⟩⟩ | ⟨hc, _⟩ | ⟨_, he⟩ := escapeChar_cases c
  · exact absurd hc h.1.1
  · exact absurd hc h.1.2
  · omega
  · omega
  · exact he

/-- A text of plain characters stands for itself. -/
lemma escape_of_isPlain {s : Text} (h : s.all isPlain = true) : escape s = s := by
  induction s with
  | nil => rfl
  | cons c s ih =>
    rw [List.all_cons, Bool.and_eq_true] at h
    rw [escape_cons, escapeChar_of_isPlain h.1, ih h.2]
    rfl

/-- The characters that escapes are made of. -/
def escapeLetters : Text :=
  "\\\"/bfnrtu0123456789abcdef".toList

/-- A letter that may stand behind a backslash is one of those. -/
lemma mem_escapeLetters {l c : Char} (h : simpleEscape? l = some c) : l ∈ escapeLetters := by
  by_cases hl : l ∈ escapeLetters
  · exact hl
  · have other {m : Char} (hm : m ∈ escapeLetters) : l ≠ m := fun he => hl (he ▸ hm)
    have hq : l ≠ '"' := other (by decide)
    have hb : l ≠ '\\' := other (by decide)
    have hs : l ≠ '/' := other (by decide)
    have hletters : l ≠ 'b' ∧ l ≠ 'f' ∧ l ≠ 'n' ∧ l ≠ 'r' ∧ l ≠ 't' :=
      ⟨other (by decide), other (by decide), other (by decide), other (by decide),
        other (by decide)⟩
    simp [simpleEscape?, hq, hb, hs, hletters] at h

/-- Escaping a character brings in nothing but what escapes are made of. -/
lemma mem_escapeChar {c d : Char} (h : d ∈ escapeChar c) :
    d ∈ escapeLetters ∨ isPlain c = true ∧ d = c := by
  have digit : ∀ n < 16, Nat.digitChar n ∈ escapeLetters := by decide
  obtain ⟨l, he, _, hl, _⟩ | ⟨hc, he⟩ | ⟨hp, he⟩ := escapeChar_cases c
  · rw [he] at h
    simp only [List.mem_cons, List.not_mem_nil, or_false] at h
    rcases h with rfl | rfl
    · exact .inl (by decide)
    · exact .inl (mem_escapeLetters hl)
  · have hhigh := digit (c.toNat / 16) (by omega)
    have hlow := digit (c.toNat % 16) (by omega)
    rw [he] at h
    simp only [List.mem_cons, List.not_mem_nil, or_false] at h
    rcases h with rfl | rfl | rfl | rfl | rfl | rfl
    · exact .inl (by decide)
    · exact .inl (by decide)
    · exact .inl (by decide)
    · exact .inl (by decide)
    · exact .inl hhigh
    · exact .inl hlow
  · rw [he] at h
    exact .inr ⟨hp, List.mem_singleton.1 h⟩

/-- Escaping a text brings in nothing but what escapes are made of. -/
lemma mem_escape {s : Text} {d : Char} (h : d ∈ escape s) :
    d ∈ escapeLetters ∨ isPlain d = true ∧ d ∈ s := by
  obtain ⟨c, hc, hd⟩ := List.mem_flatMap.1 h
  obtain hd | ⟨hp, rfl⟩ := mem_escapeChar hd
  · exact .inl hd
  · exact .inr ⟨hp, hc⟩

end SearchGateway.Json
