import SearchGateway.Proofs.Error
import SearchGateway.Proofs.Json.Numbers
import SearchGateway.Proofs.Number.Count

/-!
# What readers consume

A number or an escape that is read stands at the head of the text, and what is behind it does not
matter as long as it does not go on with the number (`isLocal_readNumber`,
`isLocal_readEscape`). None of them has an angle bracket or a single quote.
-/

namespace SearchGateway.Json

/-- A text without an angle bracket and a single quote, with which the parts of a tag begin. -/
def Unmarked (t : Text) : Prop :=
  '<' ∉ t ∧ '\'' ∉ t

instance (t : Text) : Decidable (Unmarked t) :=
  inferInstanceAs (Decidable (_ ∧ _))

/-- The two marks may be missed in two texts at once. -/
lemma Unmarked.append {s t : Text} (hs : Unmarked s) (ht : Unmarked t) : Unmarked (s ++ t) := by
  exact ⟨by simp [hs.1, ht.1], by simp [hs.2, ht.2]⟩

/-- A text whose characters all satisfy a test that fails for the two marks. -/
lemma unmarked_of_all {p : Char → Bool} {t : Text} (h : ∀ c ∈ t, p c = true)
    (hangle : p '<' = false) (hquote : p '\'' = false) : Unmarked t := by
  exact ⟨fun hc => by simp [h _ hc] at hangle, fun hc => by simp [h _ hc] at hquote⟩

/-- Whether a reader depends on nothing but the unmarked text that it takes up to a boundary. -/
def IsLocal {α : Type} (boundary : Text → Prop) (read : Text → Except Failure (α × Text)) : Prop :=
  ∀ s x r, read s = .ok (x, r) → ∃ t, s = t ++ r ∧ Unmarked t ∧ Takes boundary read t x

/-- The digits at the head of a text, and no digit behind them. -/
lemma exists_of_leadingDigits (s : Text) :
    ∃ t, s = t ++ (leadingDigits s).2 ∧ t.map digit? = (leadingDigits s).1.map some ∧
      ∀ c ∈ (leadingDigits s).2.head?, c.isDigit = false := by
  induction s with
  | nil => exact ⟨[], rfl, rfl, nofun⟩
  | cons c s ih =>
    obtain ⟨t, hs, hdigits, hrest⟩ := ih
    unfold leadingDigits
    cases hc : digit? c with
    | none =>
      refine ⟨[], rfl, rfl, ?_⟩
      rintro d ⟨⟩
      rw [← isSome_digit?, hc]
      rfl
    | some d => exact ⟨c :: t, congrArg (c :: ·) hs, by simp [hc, hdigits], hrest⟩

/-- Characters with values as digits are digits. -/
lemma isDigit_of_map_digit? {t : Text} {ds : List Nat} (h : t.map digit? = ds.map some) :
    ∀ c ∈ t, c.isDigit = true := by
  intro c hc
  have hmem : digit? c ∈ ds.map some := h ▸ List.mem_map.2 ⟨c, hc, rfl⟩
  obtain ⟨d, -, hd⟩ := List.mem_map.1 hmem
  exact isDigit_of_digit? hd.symm

/-- Digits are unmarked. -/
lemma unmarked_of_isDigit {t : Text} (h : ∀ c ∈ t, c.isDigit = true) : Unmarked t :=
  unmarked_of_all h rfl rfl

/-- What is behind a text without a digit at its head does not matter to that, as long as it is
delimited. -/
lemma not_isDigit_head {t r rest : Text} (h : ∀ c ∈ (t ++ r).head?, c.isDigit = false)
    (hrest : Delimited rest) : ∀ c ∈ (t ++ rest).head?, c.isDigit = false := by
  cases t with
  | nil => exact fun c hc => (hrest c hc).1
  | cons d t => exact h

variable (negative : Bool) (significand : Nat) (exponent : Int)

/-- The end of a number takes nothing off the text. -/
lemma finishReal_of_ok {s r : Text} {x : Number}
    (h : finishReal negative significand exponent s = .ok (x, r)) :
    r = s ∧ ∀ rest, finishReal negative significand exponent rest = .ok (x, rest) := by
  unfold finishReal at h ⊢
  split at h
  · rename_i value hscale
    cases h
    exact ⟨rfl, fun rest => rfl⟩
  · cases h

/-- The digits of an exponent that is not too great. -/
lemma exists_of_readExponentDigits_inr {value e : Nat} {s r : Text}
    (h : readExponentDigits value s = .inr (e, r)) :
    ∃ t, s = t ++ r ∧ (∀ c ∈ t, c.isDigit = true) ∧ (∀ c ∈ r.head?, c.isDigit = false) ∧
      ∀ rest, (∀ c ∈ rest.head?, c.isDigit = false) →
        readExponentDigits value (t ++ rest) = .inr (e, rest) := by
  have stop {value : Nat} {rest : Text} (hrest : ∀ c ∈ rest.head?, c.isDigit = false) :
      readExponentDigits value rest = .inr (value, rest) := by
    cases rest with
    | nil => rfl
    | cons c rest =>
      simp [readExponentDigits, digit?_eq_none (hrest c rfl)]
  fun_induction readExponentDigits value s with
  | case1 =>
    cases h
    exact ⟨[], rfl, nofun, nofun, fun rest hrest => stop hrest⟩
  | case2 value c s hc =>
    cases h
    refine ⟨[], rfl, nofun, ?_, fun rest hrest => stop hrest⟩
    rintro d ⟨⟩
    rw [← isSome_digit?, hc]
    rfl
  | case3 value c s d hc hle ih =>
    obtain ⟨t, rfl, hdigits, hr, hread⟩ := ih h
    refine ⟨c :: t, rfl, ?_, hr, fun rest hrest => ?_⟩
    · intro c' hc'
      cases hc' with
      | head => exact isDigit_of_digit? hc
      | tail _ hc' => exact hdigits c' hc'
    · rw [List.cons_append, readExponentDigits, hc]
      simp only [hle, if_true]
      exact hread rest hrest
  | case4 => cases h

/-- The digits of an exponent up to the one that makes it too great. -/
lemma exists_of_readExponentDigits_inl {value : Nat} {s r : Text}
    (h : readExponentDigits value s = .inl r) :
    ∃ t, s = t ++ r ∧ t ≠ [] ∧ (∀ c ∈ t, c.isDigit = true) ∧
      ∀ rest, readExponentDigits value (t ++ rest) = .inl rest := by
  fun_induction readExponentDigits value s with
  | case1 => cases h
  | case2 => cases h
  | case3 value c s d hc hle ih =>
    obtain ⟨t, rfl, -, hdigits, hread⟩ := ih h
    refine ⟨c :: t, rfl, by simp, ?_, fun rest => ?_⟩
    · exact List.forall_mem_cons.2 ⟨isDigit_of_digit? hc, hdigits⟩
    · rw [List.cons_append, readExponentDigits, hc]
      simp only [hle, if_true]
      exact hread rest
  | case4 value c s d hc hlt =>
    cases h
    refine ⟨[c], rfl, by simp, ?_, fun rest => ?_⟩
    · exact List.forall_mem_singleton.2 (isDigit_of_digit? hc)
    · simp [readExponentDigits, hc, hlt]

/-- Reads the digits of an exponent behind its sign and ends the number with it. -/
def readUnsignedExponent (down : Bool) (s : Text) : Except Failure (Number × Text) :=
  match s with
  | [] => .error (.before .endInValue [])
  | c :: r =>
    if (digit? c).isNone then .error (.behind .invalidNumber (c :: r))
    else
      match readExponentDigits 0 s with
      | .inr (e, rest) =>
        finishReal negative significand (if down then exponent - e else exponent + e) rest
      | .inl rest =>
        if significand ≠ 0 ∧ !down then .error (.before .numberOutOfRange rest)
        else .ok (.real (Binary64.zero.withSign negative), (leadingDigits rest).2)

/-- Whether an exponent is negative, and the text behind its sign. -/
def exponentSign (s : Text) : Bool × Text :=
  match s with
  | '-' :: r => (true, r)
  | '+' :: r => (false, r)
  | _ => (false, s)

/-- An exponent is read behind its sign. -/
lemma readExponent_eq (s : Text) : readExponent negative significand exponent s =
    readUnsignedExponent negative significand exponent (exponentSign s).1 (exponentSign s).2 := by
  rfl

/-- A sign is taken off an exponent with any digits behind it. -/
lemma exists_of_exponentSign (s : Text) :
    ∃ sign, s = sign ++ (exponentSign s).2 ∧ Unmarked sign ∧
      ∀ c t, c.isDigit = true →
        exponentSign (sign ++ c :: t) = ((exponentSign s).1, c :: t) := by
  unfold exponentSign
  split
  · exact ⟨['-'], rfl, by decide, fun _ _ _ => rfl⟩
  · exact ⟨['+'], rfl, by decide, fun _ _ _ => rfl⟩
  · refine ⟨[], rfl, by decide, fun c t hc => ?_⟩
    split
    · rename_i heq
      cases heq
      cases hc
    · rename_i heq
      cases heq
      cases hc
    · rfl

/-- An exponent without a sign is digits. -/
lemma exists_of_readUnsignedExponent {down : Bool} {s r : Text} {x : Number}
    (h : readUnsignedExponent negative significand exponent down s = .ok (x, r)) :
    ∃ c t, s = c :: t ++ r ∧ (∀ d ∈ c :: t, d.isDigit = true) ∧
      Takes Delimited (readUnsignedExponent negative significand exponent down) (c :: t) x := by
  unfold readUnsignedExponent at h
  cases s with
  | nil => cases h
  | cons c s =>
    cases hc : digit? c with
    | none => simp [hc] at h
    | some d =>
      simp only [hc, Option.isNone_some, Bool.false_eq_true, if_false] at h
      cases hdigits : readExponentDigits 0 (c :: s) with
      | inr er =>
        obtain ⟨e, rest⟩ := er
        simp only [hdigits] at h
        obtain ⟨rfl, hfinish⟩ := finishReal_of_ok _ _ _ h
        obtain ⟨t, hs, ht, hrest, hread⟩ := exists_of_readExponentDigits_inr hdigits
        cases t with
        | nil =>
          have hno := hrest c (by rw [← List.nil_append r, ← hs]; rfl)
          rw [isDigit_of_digit? hc] at hno
          cases hno
        | cons c' t =>
          obtain ⟨rfl, rfl⟩ := List.cons.inj hs
          refine ⟨c, t, rfl, ht, fun rest' hrest' => ?_⟩
          have hread := hread rest' fun c hc => (hrest' c hc).1
          rw [List.cons_append] at hread ⊢
          simp only [readUnsignedExponent, hc, hread, Option.isNone_some, Bool.false_eq_true,
            if_false]
          exact hfinish rest'
      | inl rest =>
        simp only [hdigits] at h
        split at h
        · cases h
        · rename_i hno
          cases h
          obtain ⟨t, hs, hne, ht, hread⟩ := exists_of_readExponentDigits_inl hdigits
          obtain ⟨t', hrest, ht', -⟩ := exists_of_leadingDigits rest
          obtain ⟨c', t, rfl⟩ := List.exists_cons_of_ne_nil hne
          obtain ⟨rfl, rfl⟩ := List.cons.inj hs
          refine ⟨c, t ++ t', by rw [← List.cons_append, List.append_assoc, ← hrest]; rfl, ?_,
            fun rest' hrest' => ?_⟩
          · rw [← List.cons_append]
            exact List.forall_mem_append.2 ⟨ht, isDigit_of_map_digit? ht'⟩
          · have hread := hread (t' ++ rest')
            have hskip := leadingDigits_append ht' fun c hc => (hrest' c hc).1
            rw [List.cons_append] at hread
            rw [List.cons_append, List.append_assoc]
            simp only [readUnsignedExponent, hc, hread, Option.isNone_some, Bool.false_eq_true,
              if_false, hno, hskip]

/-- A number takes its exponent from the letter on, if it has one. -/
lemma isLocal_readExponent : IsLocal Delimited (readExponent negative significand exponent) := by
  intro s x r h
  rw [readExponent_eq] at h
  obtain ⟨sign, hs, hsign, hread⟩ := exists_of_exponentSign s
  obtain ⟨c, t, hdigits, ht, htakes⟩ := exists_of_readUnsignedExponent _ _ _ h
  refine ⟨sign ++ c :: t, by rw [hs, hdigits]; simp, hsign.append (unmarked_of_isDigit ht),
    fun rest hrest => ?_⟩
  rw [readExponent_eq, List.append_assoc, List.cons_append, hread c _ (ht c (.head _))]
  exact htakes rest hrest

/-- A number that ends with an exponent or without one. -/
lemma isLocal_readTail : IsLocal Delimited (readTail negative significand exponent) := by
  intro s x r h
  unfold readTail at h
  split at h
  · obtain ⟨t, rfl, ht, htakes⟩ := isLocal_readExponent _ _ _ _ _ _ h
    exact ⟨'e' :: t, rfl, (by decide : Unmarked ['e']).append ht, htakes⟩
  · obtain ⟨t, rfl, ht, htakes⟩ := isLocal_readExponent _ _ _ _ _ _ h
    exact ⟨'E' :: t, rfl, (by decide : Unmarked ['E']).append ht, htakes⟩
  · obtain ⟨rfl, hfinish⟩ := finishReal_of_ok _ _ _ h
    refine ⟨[], rfl, by decide, fun rest hrest => ?_⟩
    unfold readTail
    rw [List.nil_append]
    split
    · exact absurd rfl (hrest 'e' rfl).2.2.1
    · exact absurd rfl (hrest 'E' rfl).2.2.2
    · exact hfinish rest

/-- A number takes the digits behind its point and what follows them. -/
lemma isLocal_readFraction : IsLocal Delimited (readFraction negative significand exponent) := by
  intro s x r h
  obtain ⟨digits, hs, hmap, hhead⟩ := exists_of_leadingDigits s
  unfold readFraction at h
  cases hlead : leadingDigits s with
  | mk ds rest =>
    rw [hlead] at h hs hmap hhead
    cases ds with
    | nil => cases h
    | cons d ds =>
      obtain ⟨t, rfl, ht, htakes⟩ := isLocal_readTail _ _ _ _ _ _ h
      refine ⟨digits ++ t, by rw [hs]; simp,
        (unmarked_of_isDigit (isDigit_of_map_digit? hmap)).append ht, fun rest' hrest' => ?_⟩
      have hlead' := leadingDigits_append hmap (not_isDigit_head hhead hrest')
      unfold readFraction
      rw [List.append_assoc, hlead']
      exact htakes rest' hrest'

/-- Reads a number behind its leading digits. -/
def readSignificand (digits : List Nat) (s : Text) : Except Failure (Number × Text) :=
  let (significand, dropped) := gather 0 digits
  match s with
  | '.' :: r => readFraction negative significand dropped.length r
  | 'e' :: r => readExponent negative significand dropped.length r
  | 'E' :: r => readExponent negative significand dropped.length r
  | _ =>
    match dropped, integer? negative significand with
    | [], some n => .ok (.integer n, s)
    | _, _ => finishReal negative significand dropped.length s

/-- A number that is read has leading digits, and then every number with these is read from behind
them. -/
lemma readNumber_of_ok {s r : Text} {x : Number} (h : readNumber negative s = .ok (x, r)) :
    readSignificand negative (leadingDigits s).1 (leadingDigits s).2 = .ok (x, r) ∧
      ∀ s', (leadingDigits s').1 = (leadingDigits s).1 →
        readNumber negative s' =
          readSignificand negative (leadingDigits s).1 (leadingDigits s').2 := by
  unfold readNumber at h ⊢
  generalize leadingDigits s = p at h ⊢
  obtain ⟨digits, rest⟩ := p
  dsimp only at h ⊢
  split at h
  · split at h <;> cases h
  · cases h
  · rename_i d ds hno
    refine ⟨h, fun s' hs' => ?_⟩
    generalize leadingDigits s' = p' at hs' ⊢
    obtain ⟨digits', rest'⟩ := p'
    dsimp only at hs' ⊢
    subst hs'
    split
    · rename_i heq
      cases heq
    · rename_i heq
      cases heq
      exact (hno _ _ rfl rfl).elim
    · rfl

/-- A number behind its leading digits. -/
lemma isLocal_readSignificand (digits : List Nat) :
    IsLocal Delimited (readSignificand negative digits) := by
  intro s x r h
  unfold readSignificand at h
  dsimp only at h
  split at h
  · obtain ⟨t, rfl, ht, htakes⟩ := isLocal_readFraction _ _ _ _ _ _ h
    exact ⟨'.' :: t, rfl, (by decide : Unmarked ['.']).append ht, htakes⟩
  · obtain ⟨t, rfl, ht, htakes⟩ := isLocal_readExponent _ _ _ _ _ _ h
    exact ⟨'e' :: t, rfl, (by decide : Unmarked ['e']).append ht, htakes⟩
  · obtain ⟨t, rfl, ht, htakes⟩ := isLocal_readExponent _ _ _ _ _ _ h
    exact ⟨'E' :: t, rfl, (by decide : Unmarked ['E']).append ht, htakes⟩
  · have hend : r = s ∧ ∀ rest, (match (gather 0 digits).2,
        integer? negative (gather 0 digits).1 with
        | [], some n => .ok (.integer n, rest)
        | _, _ => finishReal negative (gather 0 digits).1 (gather 0 digits).2.length rest) =
          Except.ok (x, rest) := by
      split at h
      · cases h
        exact ⟨rfl, fun rest => rfl⟩
      · exact finishReal_of_ok _ _ _ h
    obtain ⟨rfl, hread⟩ := hend
    refine ⟨[], rfl, by decide, fun rest hrest => ?_⟩
    rw [List.nil_append]
    unfold readSignificand
    dsimp only
    split
    · exact absurd rfl (hrest '.' rfl).2.1
    · exact absurd rfl (hrest 'e' rfl).2.2.1
    · exact absurd rfl (hrest 'E' rfl).2.2.2
    · exact hread rest

/-- A number is read off whatever stands behind it. -/
lemma isLocal_readNumber : IsLocal Delimited (readNumber negative) := by
  intro s x r h
  obtain ⟨digits, hs, hmap, hhead⟩ := exists_of_leadingDigits s
  obtain ⟨hread, hall⟩ := readNumber_of_ok _ h
  obtain ⟨t, hrest, ht, htakes⟩ := isLocal_readSignificand _ _ _ _ _ hread
  rw [hrest] at hs hhead
  refine ⟨digits ++ t, by rw [hs]; simp,
    (unmarked_of_isDigit (isDigit_of_map_digit? hmap)).append ht, fun rest hr => ?_⟩
  have hlead := leadingDigits_append hmap (not_isDigit_head hhead hr)
  rw [List.append_assoc, hall _ (by rw [hlead]), hlead]
  exact htakes rest hr

/-- A word that is read stands at the head of the text. -/
lemma eq_append_of_readWord {word s r : Text} (h : readWord word s = .ok r) : s = word ++ r := by
  induction word generalizing s with
  | nil =>
    cases s <;> exact Except.ok.inj h
  | cons w word ih =>
    cases s with
    | nil => cases h
    | cons c s =>
      unfold readWord at h
      split at h
      · rename_i hc
        rw [hc, ih h]
        rfl
      · cases h

/-- Hexadecimal digits are unmarked. -/
lemma unmarked_of_hexDigit? {t : Text} (h : ∀ c ∈ t, (hexDigit? c).isSome = true) : Unmarked t :=
  unmarked_of_all h rfl rfl

/-- A code unit is four hexadecimal digits. -/
lemma isLocal_readHex4 : IsLocal (fun _ => True) readHex4 := by
  intro s n r h
  unfold readHex4 at h
  split at h
  · rename_i a b c d rest
    split at h
    · rename_i ha hb hc hd
      cases h
      refine ⟨[a, b, c, d], rfl, unmarked_of_hexDigit? ?_, fun rest _ => ?_⟩
      · simp [ha, hb, hc, hd]
      · simp [readHex4, ha, hb, hc, hd]
    · cases h
  · split at h <;> cases h

/-- The second half of a surrogate pair is an escape. -/
lemma isLocal_readLowSurrogate (high : Nat) : IsLocal (fun _ => True) (readLowSurrogate high) := by
  intro s x r h
  cases s with
  | nil => cases h
  | cons c s =>
    by_cases hc : c = '\\'
    · subst hc
      cases s with
      | nil => cases h
      | cons d s =>
        by_cases hd : d = 'u'
        · subst hd
          simp only [readLowSurrogate, ne_eq, not_true_eq_false, if_false] at h
          cases hhex : readHex4 s with
          | error e => simp [hhex] at h
          | ok low =>
            obtain ⟨low, rest⟩ := low
            simp only [hhex] at h
            split at h
            · rename_i hlow
              obtain ⟨hx, rfl⟩ := Prod.mk.inj (Except.ok.inj h)
              obtain ⟨t, rfl, ht, htakes⟩ := isLocal_readHex4 _ _ _ hhex
              refine ⟨'\\' :: 'u' :: t, rfl, (by decide : Unmarked ['\\', 'u']).append ht,
                fun rest _ => ?_⟩
              simp only [List.cons_append, readLowSurrogate, ne_eq, not_true_eq_false, if_false,
                htakes rest trivial, hlow, if_true, hx]
            · cases h
        · simp [readLowSurrogate, hd] at h
    · simp [readLowSurrogate, hc] at h

/-- An escape by code units ends with its last one. -/
lemma isLocal_readUnicodeEscape : IsLocal (fun _ => True) readUnicodeEscape := by
  intro s x r h
  unfold readUnicodeEscape at h
  cases hhex : readHex4 s with
  | error e => simp [hhex] at h
  | ok n =>
    obtain ⟨n, rest⟩ := n
    obtain ⟨t, rfl, ht, htakes⟩ := isLocal_readHex4 _ _ _ hhex
    simp only [hhex] at h
    split at h
    · cases h
    · rename_i hlow
      split at h
      · rename_i hhigh
        obtain ⟨t', rfl, ht', htakes'⟩ := isLocal_readLowSurrogate n _ _ _ h
        refine ⟨t ++ t', by simp, ht.append ht', fun rest _ => ?_⟩
        simp [readUnicodeEscape, htakes _ trivial, hlow, hhigh, htakes' _ trivial]
      · rename_i hhigh
        cases h
        refine ⟨t, rfl, ht, fun rest _ => ?_⟩
        simp [readUnicodeEscape, htakes _ trivial, hlow, hhigh]

/-- An escape is read off whatever stands behind it. -/
lemma isLocal_readEscape : IsLocal (fun _ => True) readEscape := by
  intro s x r h
  cases s with
  | nil => cases h
  | cons c s =>
    by_cases hc : c = 'u'
    · subst hc
      obtain ⟨t, rfl, ht, htakes⟩ := isLocal_readUnicodeEscape _ _ _ h
      exact ⟨'u' :: t, rfl, (by decide : Unmarked ['u']).append ht, htakes⟩
    · simp only [readEscape, hc, if_false] at h
      cases hletter : simpleEscape? c with
      | none => simp [hletter] at h
      | some d =>
        simp only [hletter] at h
        cases h
        have hunmarked : Unmarked [c] := by
          apply unmarked_of_all (p := fun c => (simpleEscape? c).isSome) _ rfl rfl
          simp [hletter]
        exact ⟨[c], rfl, hunmarked, fun rest _ => by simp [readEscape, hc, hletter]⟩

section Scalars

variable {α β : Type} {boundary : Text → Prop} {read : Text → Except Failure (α × Text)}

/-- What is made of a value does not matter to what is read off the text. -/
lemma IsLocal.map (h : IsLocal boundary read) (f : α → β) :
    IsLocal boundary fun s => (read s).map fun x => (f x.1, x.2) := by
  intro s y r hs
  cases hread : read s with
  | error e => simp [hread, Except.map] at hs
  | ok x =>
    simp only [hread, Except.map] at hs
    cases hs
    obtain ⟨t, ht, hunmarked, htakes⟩ := h _ _ _ hread
    refine ⟨t, ht, hunmarked, fun rest hrest => ?_⟩
    simp only [htakes rest hrest, Except.map]

/-- A reader that takes at least one character may have its first one given apart. -/
lemma IsLocal.of_cons (h : IsLocal boundary read) {rest : Text} (hrest : boundary rest)
    (hne : ∀ x, read rest ≠ .ok (x, rest)) (c : Char) :
    IsLocal boundary fun s => read (c :: s) := by
  intro s x r hs
  obtain ⟨t, ht, hunmarked, htakes⟩ := h _ _ _ hs
  cases t with
  | nil => exact absurd (htakes rest hrest) (hne x)
  | cons d t =>
    obtain ⟨rfl, rfl⟩ := List.cons.inj ht
    exact ⟨t, rfl, ⟨List.not_mem_of_not_mem_cons hunmarked.1,
      List.not_mem_of_not_mem_cons hunmarked.2⟩, htakes⟩

/-- A word is read off whatever stands behind it. -/
lemma isLocal_readWord {word : Text} (hword : Unmarked word) (found : Found) :
    IsLocal Delimited fun s => do
      let s ← readWord word s
      return (found, s) := by
  intro s x r h
  obtain ⟨r', hs, h⟩ := bind_eq_ok.1 h
  cases h
  exact ⟨word, eq_append_of_readWord hs, hword, fun rest _ =>
    bind_eq_ok.2 ⟨rest, readWord_append word rest, rfl⟩⟩

/-- Every scalar but a string is read off whatever delimited text stands behind it. -/
lemma isLocal_readScalar {c : Char} (hc : c ≠ '"') : IsLocal Delimited (readScalar c) := by
  by_cases hn : c = 'n'
  · subst hn
    exact isLocal_readWord (by decide) .null
  by_cases ht : c = 't'
  · subst ht
    exact isLocal_readWord (by decide) (.bool true)
  by_cases hf : c = 'f'
  · subst hf
    exact isLocal_readWord (by decide) (.bool false)
  by_cases hm : c = '-'
  · subst hm
    exact (isLocal_readNumber true).map Found.number
  have hscalar : readScalar c = fun s =>
      if c.isDigit then (readNumber false (c :: s)).map fun x => (.number x.1, x.2)
      else .error (.behind .expectedValue (c :: s)) := by
    funext s
    simp only [readScalar, hn, ht, hf, hm, hc, if_false]
    rfl
  rw [hscalar]
  cases hd : c.isDigit with
  | true =>
    exact ((isLocal_readNumber false).of_cons delimited_nil nofun c).map Found.number
  | false =>
    intro s x r h
    cases h

end Scalars

end SearchGateway.Json
