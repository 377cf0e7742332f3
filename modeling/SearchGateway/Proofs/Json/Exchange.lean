import Mathlib.Data.List.Forall2
import SearchGateway.Proofs.Json.Consumption
import SearchGateway.Proofs.Json.Hole

/-!
# Exchanged runs

A run of characters that begins with a mark and has neither quotes nor backslashes can stand in JSON
text nowhere but inside of one string. So a text that reads as an object still does so when such
runs give way to plain ones: it is written with the same structure, and its keys differ in these
runs at most (`exists_of_readObject`). With no runs at all this says how a text is written that
reads as an object (`exists_of_parseObject`).
-/

namespace SearchGateway.Json

/-- Texts that are alike but for runs that are exchanged. -/
inductive Exchanged (Run : Text → Text → Prop) : Text → Text → Prop where
  | nil : Exchanged Run [] []
  | cons (c : Char) {s s' : Text} : Exchanged Run s s' → Exchanged Run (c :: s) (c :: s')
  | run {p p' s s' : Text} : Run p p' → Exchanged Run s s' → Exchanged Run (p ++ s) (p' ++ s')

/-- Whether runs stand inside of strings, before they are exchanged and after that. -/
structure Exchangeable (Run : Text → Text → Prop) : Prop where
  mark {p p' : Text} : Run p p' → ∃ c q, p = c :: q ∧ (c = '<' ∨ c = '\'')
  quote {p p' : Text} : Run p p' → '"' ∉ p
  backslash {p p' : Text} : Run p p' → '\\' ∉ p
  plain {p p' : Text} : Run p p' → p'.all isPlain = true

namespace Exchanged

variable {Run : Text → Text → Prop} {s s' t t' : Text}

/-- A text where nothing is exchanged. -/
lemma refl (s : Text) : Exchanged Run s s := by
  induction s with
  | nil => exact .nil
  | cons c s ih => exact .cons c ih

/-- Two texts may be exchanged one after the other. -/
lemma append (hs : Exchanged Run s s') (ht : Exchanged Run t t') :
    Exchanged Run (s ++ t) (s' ++ t') := by
  induction hs with
  | nil => exact ht
  | cons c _ ih => exact .cons c ih
  | run hp _ ih =>
    rw [List.append_assoc, List.append_assoc]
    exact .run hp ih

/-- A text begins with a character that is kept or with a run. -/
lemma of_cons {c : Char} (h : Exchanged Run (c :: s) t) :
    (∃ t₁, t = c :: t₁ ∧ Exchanged Run s t₁) ∨
      ∃ p p' s₁ t₁, Run p p' ∧ c :: s = p ++ s₁ ∧ t = p' ++ t₁ ∧ Exchanged Run s₁ t₁ := by
  generalize hcs : c :: s = cs at h
  cases h with
  | nil => cases hcs
  | cons d h =>
    obtain ⟨rfl, rfl⟩ := List.cons.inj hcs
    exact .inl ⟨_, rfl, h⟩
  | run hp h => exact .inr ⟨_, _, _, _, hp, rfl, rfl, h⟩

variable (hrun : Exchangeable Run)
include hrun

/-- The end of the text is kept. -/
lemma of_nil (h : Exchanged Run [] t) : t = [] := by
  generalize hs : [] = s at h
  cases h with
  | nil => rfl
  | cons c _ => cases hs
  | run hp _ =>
    obtain ⟨c, q, rfl, -⟩ := hrun.mark hp
    cases hs

/-- An unmarked text is kept. -/
lemma of_unmarked (hs : Unmarked s) (h : Exchanged Run (s ++ s') t) :
    ∃ t₁, t = s ++ t₁ ∧ Exchanged Run s' t₁ := by
  induction s generalizing t with
  | nil => exact ⟨t, rfl, h⟩
  | cons c s ih =>
    obtain ⟨hangle, hangle'⟩ := List.ne_and_not_mem_of_not_mem_cons hs.1
    obtain ⟨hquote, hquote'⟩ := List.ne_and_not_mem_of_not_mem_cons hs.2
    obtain ⟨t₁, rfl, h₁⟩ | ⟨p, p', s₁, t₁, hp, hcs, -, -⟩ := of_cons h
    · obtain ⟨t₂, rfl, h₂⟩ := ih ⟨hangle', hquote'⟩ h₁
      exact ⟨t₂, rfl, h₂⟩
    · obtain ⟨d, q, rfl, hd⟩ := hrun.mark hp
      obtain ⟨rfl, -⟩ := List.cons.inj hcs
      rcases hd with rfl | rfl
      · exact absurd rfl hangle
      · exact absurd rfl hquote

/-- White space between lexemes is kept. -/
lemma of_skipSpaces (h : Exchanged Run s t) :
    ∃ b t₁, b.all isSpace = true ∧ s = b ++ skipSpaces s ∧ t = b ++ t₁ ∧
      Exchanged Run (skipSpaces s) t₁ := by
  obtain ⟨b, hb, hs⟩ := exists_spaces s
  have hunmarked : Unmarked b := unmarked_of_all (List.all_eq_true.1 hb) rfl rfl
  rw [hs] at h
  obtain ⟨t₁, rfl, h₁⟩ := of_unmarked hrun hunmarked h
  exact ⟨b, t₁, hb, hs, rfl, h₁⟩

end Exchanged

/-- A text that reads as a string up to the quote behind it. -/
def Body (raw x : Text) : Prop :=
  ∀ n rest, raw.length < n → readStringBody n (raw ++ '"' :: rest) = .ok (x, rest)

namespace Body

variable {raw x : Text}

/-- A body between quotes is a string. -/
lemma readString (h : Body raw x) (rest : Text) :
    readString (raw ++ '"' :: rest) = .ok (x, rest) := by
  apply h
  simp only [List.length_append, List.length_cons]
  omega

/-- The empty body. -/
lemma nil : Body [] [] := by
  intro n rest hn
  obtain ⟨m, rfl⟩ := Nat.exists_eq_succ_of_ne_zero (Nat.ne_zero_of_lt hn)
  rfl

/-- A plain character stands for itself. -/
lemma cons {c : Char} (hc : isPlain c = true) (h : Body raw x) : Body (c :: raw) (c :: x) := by
  intro n rest hn
  obtain ⟨m, rfl⟩ := Nat.exists_eq_succ_of_ne_zero (Nat.ne_zero_of_lt hn)
  have hchar := readStringBody_escapeChar m c (raw ++ '"' :: rest)
  rw [escapeChar_of_isPlain hc, h m rest (by simpa using hn)] at hchar
  exact hchar

/-- Plain characters stand for themselves. -/
lemma append {p : Text} (hp : p.all isPlain = true) (h : Body raw x) :
    Body (p ++ raw) (p ++ x) := by
  induction p with
  | nil => exact h
  | cons c p ih =>
    rw [List.all_cons, Bool.and_eq_true] at hp
    exact (ih hp.2).cons hp.1

/-- An escape stands for the character that it reads as. -/
lemma escape {e : Text} {c : Char} (he : Takes (fun _ => True) readEscape e c) (h : Body raw x) :
    Body ('\\' :: (e ++ raw)) (c :: x) := by
  intro n rest hn
  obtain ⟨m, rfl⟩ := Nat.exists_eq_succ_of_ne_zero (Nat.ne_zero_of_lt hn)
  have hread := he (raw ++ '"' :: rest) trivial
  have hbody := h m rest (by simp only [List.length_cons, List.length_append] at hn; omega)
  rw [List.cons_append, List.append_assoc, readStringBody]
  simp only [Char.reduceEq, if_false, if_true, hread, hbody]

end Body

/-- A string that goes on with neither a quote nor a backslash goes on with a plain character. -/
lemma exists_of_readStringBody_cons {n : Nat} {c : Char} {s x r : Text} (hquote : c ≠ '"')
    (hbackslash : c ≠ '\\') (h : readStringBody n (c :: s) = .ok (x, r)) :
    isPlain c = true ∧ ∃ m x₁, n = m + 1 ∧ x = c :: x₁ ∧ readStringBody m s = .ok (x₁, r) := by
  cases n with
  | zero => cases h
  | succ m =>
    rw [readStringBody, if_neg hquote, if_neg hbackslash] at h
    split at h
    · cases h
    · rename_i hcontrol
      cases hs : readStringBody m s with
      | error e => simp [hs] at h
      | ok y =>
        obtain ⟨x₁, r'⟩ := y
        rw [hs] at h
        cases h
        have hplain : isPlain c = true := by
          simp only [isPlain, hquote, hbackslash, ne_eq, not_false_eq_true, decide_true,
            Bool.true_and, decide_eq_true_eq]
          omega
        exact ⟨hplain, m, x₁, rfl, rfl, hs⟩

/-- A string that goes on with a text without quotes and backslashes holds it as it is. -/
lemma exists_of_readStringBody_append {n : Nat} {p s x r : Text} (hquote : '"' ∉ p)
    (hbackslash : '\\' ∉ p) (h : readStringBody n (p ++ s) = .ok (x, r)) :
    ∃ m x₁, n = m + p.length ∧ x = p ++ x₁ ∧ readStringBody m s = .ok (x₁, r) := by
  induction p generalizing n x with
  | nil => exact ⟨n, x, rfl, rfl, h⟩
  | cons c p ih =>
    obtain ⟨hc, hquote⟩ := List.ne_and_not_mem_of_not_mem_cons hquote
    obtain ⟨hc', hbackslash⟩ := List.ne_and_not_mem_of_not_mem_cons hbackslash
    obtain ⟨-, m, x₁, rfl, rfl, h₁⟩ := exists_of_readStringBody_cons (Ne.symm hc) (Ne.symm hc') h
    obtain ⟨m', x₂, rfl, rfl, h₂⟩ := ih hquote hbackslash h₁
    exact ⟨m', x₂, rfl, rfl, h₂⟩

section Readers

variable {Run : Text → Text → Prop} (hrun : Exchangeable Run)
include hrun

/-- A string stays one when runs are exchanged, and they are exchanged in what it stands for. -/
lemma exists_of_readStringBody {n : Nat} {s s' x r : Text}
    (h : readStringBody n s = .ok (x, r)) (hs : Exchanged Run s s') :
    ∃ raw x' r', s' = raw ++ '"' :: r' ∧ Body raw x' ∧ Exchanged Run x x' ∧
      Exchanged Run r r' := by
  -- A run takes as many rounds as it has characters, of which there is at least one.
  induction n using Nat.strongRecOn generalizing s s' x with
  | ind n ih =>
    cases s with
    | nil => cases n <;> cases h
    | cons c s =>
      by_cases hquote : c = '"'
      · subst hquote
        obtain ⟨r', rfl, hr⟩ := hs.of_unmarked hrun (s := ['"']) (by decide)
        cases n with
        | zero => cases h
        | succ m =>
          cases h
          exact ⟨[], [], r', rfl, .nil, .nil, hr⟩
      by_cases hbackslash : c = '\\'
      · subst hbackslash
        cases n with
        | zero => cases h
        | succ m =>
          rw [readStringBody, if_neg (by decide), if_pos rfl] at h
          cases hescape : readEscape s with
          | error e => simp [hescape] at h
          | ok y =>
            obtain ⟨d, rest⟩ := y
            rw [hescape] at h
            obtain ⟨e, rfl, he, htakes⟩ := isLocal_readEscape _ _ _ hescape
            cases hbody : readStringBody m rest with
            | error e => simp [hbody] at h
            | ok y =>
              obtain ⟨x₁, r₁⟩ := y
              simp only [hbody] at h
              cases h
              have hunmarked : Unmarked ('\\' :: e) := (by decide : Unmarked ['\\']).append he
              obtain ⟨t, rfl, ht⟩ := hs.of_unmarked hrun hunmarked
              obtain ⟨raw, x', r', rfl, hraw, hx, hr⟩ := ih m (Nat.lt_succ_self m) hbody ht
              exact ⟨'\\' :: (e ++ raw), d :: x', r', by simp, hraw.escape htakes, .cons d hx, hr⟩
      obtain ⟨t, rfl, ht⟩ | ⟨p, p', s₁, t, hp, hcs, rfl, ht⟩ := hs.of_cons
      · obtain ⟨hplain, m, x₁, rfl, rfl, hbody⟩ := exists_of_readStringBody_cons hquote hbackslash h
        obtain ⟨raw, x', r', rfl, hraw, hx, hr⟩ := ih m (Nat.lt_succ_self m) hbody ht
        exact ⟨c :: raw, c :: x', r', rfl, hraw.cons hplain, .cons c hx, hr⟩
      · rw [hcs] at h
        obtain ⟨m, x₁, rfl, rfl, hbody⟩ :=
          exists_of_readStringBody_append (hrun.quote hp) (hrun.backslash hp) h
        obtain ⟨d, q, rfl, -⟩ := hrun.mark hp
        have hlt : m < m + (d :: q).length := by
          rw [List.length_cons]
          omega
        obtain ⟨raw, x', r', rfl, hraw, hx, hr⟩ := ih m hlt hbody ht
        exact ⟨p' ++ raw, p' ++ x', r', by simp, hraw.append (hrun.plain hp), .run hp hx, hr⟩

/-- A scalar stays one when runs are exchanged. -/
lemma exists_of_readScalar {c : Char} {s s' r : Text} {found : Found}
    (h : readScalar c s = .ok (found, r)) (hs : Exchanged Run s s') :
    ∃ t found' r', s' = t ++ r' ∧ Takes Delimited (readScalar c) t found' ∧
      Exchanged Run r r' := by
  by_cases hc : c = '"'
  · subst hc
    have hread (s : Text) : readScalar '"' s = (readString s).map fun x => (.string x.1, x.2) :=
      rfl
    rw [hread] at h
    cases hstring : readString s with
    | error e => simp [hstring, Except.map] at h
    | ok y =>
      simp only [hstring, Except.map] at h
      cases h
      obtain ⟨raw, x', r', rfl, hraw, -, hr⟩ := exists_of_readStringBody hrun hstring hs
      refine ⟨raw ++ ['"'], .string x', r', by simp, fun rest _ => ?_, hr⟩
      rw [hread, List.append_assoc, List.singleton_append, hraw.readString]
      rfl
  · obtain ⟨t, rfl, ht, htakes⟩ := isLocal_readScalar hc _ _ _ h
    obtain ⟨r', rfl, hr⟩ := hs.of_unmarked hrun ht
    exact ⟨t, found, r', rfl, htakes, hr⟩

omit hrun in
/-- No scalar begins with a mark. -/
lemma unmarked_of_readScalar {c : Char} {s : Text} {x : Found × Text}
    (h : readScalar c s = .ok x) : Unmarked [c] := by
  have hangle : c ≠ '<' := by
    rintro rfl
    cases h
  have hquote : c ≠ '\'' := by
    rintro rfl
    cases h
  exact ⟨by simp [Ne.symm hangle], by simp [Ne.symm hquote]⟩

end Readers

/-- An array goes on with an item, behind a comma unless the item is the first one, or it ends. -/
lemma nextItem_of_ok {first more : Bool} {s r : Text} (h : nextItem first s = .ok (more, r)) :
    (more = false ∧ skipSpaces s = r ∧ ∃ r₁, r = ']' :: r₁) ∨
      more = true ∧ if first then r = skipSpaces s
        else ∃ u, skipSpaces s = ',' :: u ∧ r = skipSpaces u := by
  unfold nextItem at h
  cases hs : skipSpaces s with
  | nil => simp [hs] at h
  | cons c s₁ =>
    simp only [hs] at h
    split at h
    · rename_i hc
      cases h
      exact .inl ⟨rfl, rfl, s₁, by rw [hc]⟩
    · split at h
      · rename_i hfirst
        cases h
        exact .inr ⟨rfl, by rw [if_pos hfirst]⟩
      · rename_i hfirst
        split at h
        · rename_i hc
          cases hu : skipSpaces s₁ with
          | nil => simp [hu] at h
          | cons d u =>
            simp only [hu] at h
            split at h
            · cases h
            · cases h
              exact .inr ⟨rfl, by rw [if_neg hfirst]; exact ⟨s₁, by rw [hc], hu.symm⟩⟩
        · cases h

/-- An object goes on with a key, with a comma in front of it unless it is the first, or it ends. -/
lemma nextKey_of_ok {first more : Bool} {s r : Text} (h : nextKey first s = .ok (more, r)) :
    (more = false ∧ skipSpaces s = r ∧ ∃ r₁, r = '}' :: r₁) ∨
      more = true ∧ if first then skipSpaces s = '"' :: r
        else ∃ u, skipSpaces s = ',' :: u ∧ skipSpaces u = '"' :: r := by
  unfold nextKey at h
  cases hs : skipSpaces s with
  | nil => simp [hs] at h
  | cons c s₁ =>
    simp only [hs] at h
    split at h
    · rename_i hc
      cases h
      exact .inl ⟨rfl, rfl, s₁, by rw [hc]⟩
    · split at h
      · rename_i hfirst
        split at h
        · rename_i hc
          cases h
          exact .inr ⟨rfl, by rw [if_pos hfirst, hc]⟩
        · cases h
      · rename_i hfirst
        split at h
        · rename_i hc
          cases hu : skipSpaces s₁ with
          | nil => simp [hu] at h
          | cons d u =>
            simp only [hu] at h
            split at h
            · rename_i hd
              cases h
              exact .inr ⟨rfl, by rw [if_neg hfirst]; exact ⟨s₁, by rw [hc], by rw [hu, hd]⟩⟩
            · split at h <;> cases h
        · cases h

/-- The text of items, with a comma in front of each unless it is the first of all. -/
def Item.textFrom {depth : Nat} (first : Bool) (is : List (Item depth)) : Text :=
  if first then Item.listText is else is.flatMap fun i => ',' :: i.text

/-- The text of an item with its comma stands in front of the others. -/
lemma Item.textFrom_cons {depth : Nat} (first : Bool) (i : Item depth) (is : List (Item depth)) :
    Item.textFrom first (i :: is) =
      (if first then [] else [',']) ++ (i.text ++ Item.textFrom false is) := by
  cases first <;> rfl

/-- The text of members, with a comma in front of each unless it is the first of all. -/
def Member.textFrom {depth : Nat} (first : Bool) (ms : List (Member depth)) : Text :=
  if first then Member.listText ms else ms.flatMap fun m => ',' :: m.text

/-- The text of a member with its comma stands in front of the others. -/
lemma Member.textFrom_cons {depth : Nat} (first : Bool) (m : Member depth)
    (ms : List (Member depth)) :
    Member.textFrom first (m :: ms) =
      (if first then [] else [',']) ++ (m.text ++ Member.textFrom false ms) := by
  cases first <;> rfl

section Values

variable {Run : Text → Text → Prop} (hrun : Exchangeable Run) {depth : Nat}

/-- Whether values that nest to a given depth stay values when runs are exchanged. -/
def KeepsValues (Run : Text → Text → Prop) (depth : Nat) : Prop :=
  ∀ {s s' r : Text} {j : Json}, readValue depth s = .ok (j, r) → Exchanged Run s s' →
    ∃ t j' r', s' = t ++ r' ∧ Reads depth t j' ∧ Exchanged Run r r'

include hrun

/-- An array ends, or it goes on with an item, in the same way when runs are exchanged. -/
lemma exists_of_nextItem {first more : Bool} {s s' r : Text} (h : nextItem first s = .ok (more, r))
    (hs : Exchanged Run s s') :
    ∃ b t, b.all isSpace = true ∧ if more then ∃ b₁, b₁.all isSpace = true ∧
        s' = b ++ ((if first then [] else [',']) ++ (b₁ ++ t)) ∧ Exchanged Run r t
      else ∃ r₁, r = ']' :: r₁ ∧ s' = b ++ ']' :: t ∧ Exchanged Run r₁ t := by
  obtain ⟨b, t, hb, -, rfl, ht⟩ := hs.of_skipSpaces hrun
  obtain ⟨rfl, hskip, r₁, rfl⟩ | ⟨rfl, hfirst⟩ := nextItem_of_ok h
  · rw [hskip] at ht
    obtain ⟨t₁, rfl, ht₁⟩ := ht.of_unmarked hrun (s := [']']) (by decide)
    exact ⟨b, t₁, hb, r₁, rfl, rfl, ht₁⟩
  · cases first with
    | true =>
      rw [if_pos rfl] at hfirst
      rw [← hfirst] at ht
      exact ⟨b, t, hb, [], rfl, rfl, ht⟩
    | false =>
      rw [if_neg Bool.false_ne_true] at hfirst
      obtain ⟨u, hu, rfl⟩ := hfirst
      rw [hu] at ht
      obtain ⟨t₁, rfl, ht₁⟩ := ht.of_unmarked hrun (s := [',']) (by decide)
      obtain ⟨b₁, t₂, hb₁, -, rfl, ht₂⟩ := ht₁.of_skipSpaces hrun
      exact ⟨b, t₂, hb, b₁, hb₁, rfl, ht₂⟩

/-- Items stay items when runs are exchanged, as far as their values stay values. -/
lemma exists_of_readItems (hkeeps : KeepsValues Run depth) {n : Nat} {first : Bool}
    {s s' r : Text} {items : List Json}
    (h : readItems (readValue depth) n first s = .ok (items, r)) (hs : Exchanged Run s s') :
    ∃ (b : Text) (is : List (Item depth)) (r₁ r' : Text), b.all isSpace = true ∧ r = ']' :: r₁ ∧
      s' = b ++ (Item.textFrom first is ++ ']' :: r') ∧ Exchanged Run r₁ r' := by
  induction n generalizing first s s' items with
  | zero => cases h
  | succ n ih =>
    rw [readItems] at h
    obtain ⟨⟨more, s₁⟩, hnext, h⟩ := bind_eq_ok.1 h
    obtain ⟨b, t, hb, ht⟩ := exists_of_nextItem hrun hnext hs
    cases more with
    | false =>
      obtain ⟨r₁, rfl, rfl, hr⟩ := ht
      cases h
      exact ⟨b, [], r₁, t, hb, rfl, by cases first <;> rfl, hr⟩
    | true =>
      obtain ⟨b₁, hb₁, rfl, ht⟩ := ht
      obtain ⟨⟨j, s₂⟩, hvalue, h⟩ := bind_eq_ok.1 h
      obtain ⟨⟨js, s₃⟩, hitems, h⟩ := bind_eq_ok.1 h
      cases h
      obtain ⟨raw, j', t₁, rfl, hraw, ht₁⟩ := hkeeps hvalue ht
      -- White space in front of the item is its own, that behind it is in front of the others.
      obtain ⟨b', is, r₁, r', hb', rfl, rfl, hr⟩ := ih hitems ht₁
      refine ⟨b, ⟨b₁ ++ raw, j', b', hraw.append hb₁, hb'⟩ :: is, r₁, r', hb, rfl, ?_, hr⟩
      rw [Item.textFrom_cons]
      simp [Item.text]

omit hrun in
/-- A member is set with the value that is read behind its colon. -/
lemma exists_of_putMember {members members' : Entries Json} {key s r : Text}
    (h : putMember (readValue depth) members key s = .ok (members', r)) :
    ∃ s₁ j, skipSpaces s = ':' :: s₁ ∧ readValue depth s₁ = .ok (j, r) ∧
      members' = members.put key j := by
  obtain ⟨s₁, hcolon, h⟩ := bind_eq_ok.1 h
  obtain ⟨⟨j, r₁⟩, hvalue, h⟩ := bind_eq_ok.1 h
  cases h
  refine ⟨s₁, j, ?_, hvalue, rfl⟩
  unfold readColon at hcolon
  split at hcolon
  · cases hcolon
  · rename_i c r hs
    split at hcolon
    · rename_i hc
      cases hcolon
      rw [hs, hc]
    · cases hcolon

/-- A member stays one when runs are exchanged, behind the quote that opens its key. -/
lemma exists_of_member (hkeeps : KeepsValues Run depth) {members members' : Entries Json}
    {key s s₁ s' r : Text} (hkey : readString s = .ok (key, s₁))
    (hput : putMember (readValue depth) members key s₁ = .ok (members', r))
    (hs : Exchanged Run s s') :
    ∃ (raw key' beforeColon t : Text) (j' : Json) (r' : Text),
      s' = raw ++ '"' :: (beforeColon ++ ':' :: (t ++ r')) ∧ Body raw key' ∧
      beforeColon.all isSpace = true ∧ Reads depth t j' ∧ Exchanged Run key key' ∧
      Exchanged Run r r' ∧ members'.keys = Entries.putKey members.keys key := by
  obtain ⟨s₂, j, hcolon, hvalue, rfl⟩ := exists_of_putMember hput
  obtain ⟨raw, key', t₁, rfl, hraw, hkeys, ht₁⟩ := exists_of_readStringBody hrun hkey hs
  obtain ⟨b, t₂, hb, -, rfl, ht₂⟩ := ht₁.of_skipSpaces hrun
  rw [hcolon] at ht₂
  obtain ⟨t₃, rfl, ht₃⟩ := ht₂.of_unmarked hrun (s := [':']) (by decide)
  obtain ⟨t, j', r', rfl, ht, hr⟩ := hkeeps hvalue ht₃
  exact ⟨raw, key', b, t, j', r', rfl, hraw, hb, ht, hkeys, hr, Entries.keys_put _ _ _⟩

/-- An object ends, or it goes on with a key, in the same way when runs are exchanged. -/
lemma exists_of_nextKey {first more : Bool} {s s' r : Text} (h : nextKey first s = .ok (more, r))
    (hs : Exchanged Run s s') :
    ∃ b t, b.all isSpace = true ∧ if more then ∃ b₁, b₁.all isSpace = true ∧
        s' = b ++ ((if first then [] else [',']) ++ (b₁ ++ '"' :: t)) ∧ Exchanged Run r t
      else ∃ r₁, r = '}' :: r₁ ∧ s' = b ++ '}' :: t ∧ Exchanged Run r₁ t := by
  obtain ⟨b, t, hb, -, rfl, ht⟩ := hs.of_skipSpaces hrun
  obtain ⟨rfl, hskip, r₁, rfl⟩ | ⟨rfl, hfirst⟩ := nextKey_of_ok h
  · rw [hskip] at ht
    obtain ⟨t₁, rfl, ht₁⟩ := ht.of_unmarked hrun (s := ['}']) (by decide)
    exact ⟨b, t₁, hb, r₁, rfl, rfl, ht₁⟩
  · cases first with
    | true =>
      rw [if_pos rfl] at hfirst
      rw [hfirst] at ht
      obtain ⟨t₁, rfl, ht₁⟩ := ht.of_unmarked hrun (s := ['"']) (by decide)
      exact ⟨b, t₁, hb, [], rfl, rfl, ht₁⟩
    | false =>
      rw [if_neg Bool.false_ne_true] at hfirst
      obtain ⟨u, hu, hquote⟩ := hfirst
      rw [hu] at ht
      obtain ⟨t₁, rfl, ht₁⟩ := ht.of_unmarked hrun (s := [',']) (by decide)
      obtain ⟨b₁, t₂, hb₁, -, rfl, ht₂⟩ := ht₁.of_skipSpaces hrun
      rw [hquote] at ht₂
      obtain ⟨t₃, rfl, ht₃⟩ := ht₂.of_unmarked hrun (s := ['"']) (by decide)
      exact ⟨b, t₃, hb, b₁, hb₁, rfl, ht₃⟩

/-- Members stay members when runs are exchanged, as far as their values stay values, and the runs
are exchanged in their keys. -/
lemma exists_of_readMembers (hkeeps : KeepsValues Run depth) {n : Nat} {first : Bool}
    {s s' r : Text} {members members' : Entries Json}
    (h : readMembers (putMember (readValue depth)) n first members s = .ok (members', r))
    (hs : Exchanged Run s s') :
    ∃ (b : Text) (ms : List (Member depth)) (ks : List Text) (r₁ r' : Text),
      b.all isSpace = true ∧ r = '}' :: r₁ ∧
      s' = b ++ (Member.textFrom first ms ++ '}' :: r') ∧ Exchanged Run r₁ r' ∧
      List.Forall₂ (Exchanged Run) ks (ms.map fun m => m.key) ∧
      members'.keys = ks.foldl Entries.putKey members.keys := by
  induction n generalizing first s s' members with
  | zero => cases h
  | succ n ih =>
    rw [readMembers] at h
    obtain ⟨⟨more, s₁⟩, hnext, h⟩ := bind_eq_ok.1 h
    obtain ⟨b, t, hb, ht⟩ := exists_of_nextKey hrun hnext hs
    cases more with
    | false =>
      obtain ⟨r₁, rfl, rfl, hr⟩ := ht
      cases h
      exact ⟨b, [], [], r₁, t, hb, rfl, by cases first <;> rfl, hr, .nil, rfl⟩
    | true =>
      obtain ⟨b₁, hb₁, rfl, ht⟩ := ht
      obtain ⟨⟨key, s₂⟩, hkey, h⟩ := bind_eq_ok.1 h
      obtain ⟨⟨members₁, s₃⟩, hput, h⟩ := bind_eq_ok.1 h
      obtain ⟨raw, key', b₂, u, j', t₁, rfl, hraw, hb₂, hreads, hkeys, ht₁, hset⟩ :=
        exists_of_member hrun hkeeps hkey hput ht
      obtain ⟨b', ms, ks, r₁, r', hb', rfl, rfl, hr, hks, hfold⟩ := ih h ht₁
      let member : Member depth :=
        ⟨⟨b₁, raw, key', b₂, hb₁, hraw.readString, hb₂⟩, u, j', b', hreads, hb'⟩
      refine ⟨b, member :: ms, key :: ks, r₁, r', hb, rfl, ?_, hr, .cons hkeys hks, ?_⟩
      · rw [Member.textFrom_cons]
        simp [member, Member.text, Key.text]
      · rw [List.foldl_cons, ← hset, hfold]

/-- An object stays one when runs are exchanged, as far as its values stay values, and the runs are
exchanged in its keys. -/
lemma exists_of_readObject (hkeeps : KeepsValues Run depth) {s s' r : Text} {members : Entries Json}
    (h : readObject (putMember (readValue depth)) [] s = .ok (members, r))
    (hs : Exchanged Run s s') :
    ∃ (b : Text) (ms : List (Member depth)) (ks : List Text) (r' : Text), b.all isSpace = true ∧
      s' = b ++ (Member.listText ms ++ '}' :: r') ∧ Exchanged Run r r' ∧
      List.Forall₂ (Exchanged Run) ks (ms.map fun m => m.key) ∧
      members.keys = ks.foldl Entries.putKey [] := by
  obtain ⟨⟨members₁, s₁⟩, hmembers, h⟩ := bind_eq_ok.1 h
  obtain ⟨b, ms, ks, r₁, r', hb, rfl, rfl, hr, hks, hfold⟩ :=
    exists_of_readMembers hrun hkeeps hmembers hs
  cases h
  exact ⟨b, ms, ks, r', hb, rfl, hr, hks, hfold⟩

/-- An array stays one when runs are exchanged, as far as its items stay values. -/
lemma exists_of_readArray (hkeeps : KeepsValues Run depth) {s s' r : Text} {items : List Json}
    (h : readArray (readValue depth) s = .ok (items, r)) (hs : Exchanged Run s s') :
    ∃ (b : Text) (is : List (Item depth)) (r' : Text), b.all isSpace = true ∧
      s' = b ++ (Item.listText is ++ ']' :: r') ∧ Exchanged Run r r' := by
  obtain ⟨⟨items₁, s₁⟩, hitems, h⟩ := bind_eq_ok.1 h
  obtain ⟨b, is, r₁, r', hb, rfl, rfl, hr⟩ := exists_of_readItems hrun hkeeps hitems hs
  cases h
  exact ⟨b, is, r', hb, rfl, hr⟩

/-- A scalar value stays one when runs are exchanged. -/
lemma exists_of_scalar {c : Char} {s s' t r : Text} {found : Found} (hskip : skipSpaces s = c :: t)
    (hopen : c ≠ '[' ∧ c ≠ '{') (h : readScalar c t = .ok (found, r)) (hs : Exchanged Run s s') :
    ∃ t' j' r', s' = t' ++ r' ∧ Reads depth t' j' ∧ Exchanged Run r r' := by
  obtain ⟨b, t₁, hb, -, rfl, ht₁⟩ := hs.of_skipSpaces hrun
  rw [hskip] at ht₁
  obtain ⟨t₂, rfl, ht₂⟩ := ht₁.of_unmarked hrun (s := [c]) (unmarked_of_readScalar h)
  obtain ⟨t', found', r', rfl, htakes, hr⟩ := exists_of_readScalar hrun h ht₂
  have hreads : Reads depth (c :: t') found'.scalar :=
    reads_scalar found' (isSpace_of_skipSpaces hskip) hopen htakes
  exact ⟨b ++ c :: t', found'.scalar, r', by simp, hreads.append hb, hr⟩

/-- Values stay values when runs are exchanged. -/
lemma keepsValues (depth : Nat) : KeepsValues Run depth := by
  -- What arrays and objects hold is read to one depth less, so the hypothesis is the one on their
  -- values that the lemmas above ask for.
  induction depth with
  | zero =>
    intro s s' r j h hs
    unfold readValue at h
    cases hskip : skipSpaces s with
    | nil => simp [hskip] at h
    | cons c t =>
      simp only [hskip] at h
      split at h
      · cases h
      · rename_i hopen
        obtain ⟨⟨found, r₁⟩, hscalar, h⟩ := bind_eq_ok.1 h
        cases h
        exact exists_of_scalar hrun hskip (not_or.1 hopen) hscalar hs
  | succ depth ih =>
    intro s s' r j h hs
    unfold readValue at h
    cases hskip : skipSpaces s with
    | nil => simp [hskip] at h
    | cons c t =>
      simp only [hskip] at h
      obtain ⟨b, t₁, hb, -, rfl, ht₁⟩ := hs.of_skipSpaces hrun
      rw [hskip] at ht₁
      split at h
      · rename_i hc
        subst hc
        obtain ⟨t₂, rfl, ht₂⟩ := ht₁.of_unmarked hrun (s := ['[']) (by decide)
        obtain ⟨⟨items, r₁⟩, harray, h⟩ := bind_eq_ok.1 h
        cases h
        obtain ⟨b', is, r', hb', rfl, hr⟩ := exists_of_readArray hrun ih harray ht₂
        exact ⟨_, _, r', by simp, (reads_array is hb').append hb, hr⟩
      · rename_i hbracket
        split at h
        · rename_i hc
          subst hc
          obtain ⟨t₂, rfl, ht₂⟩ := ht₁.of_unmarked hrun (s := ['{']) (by decide)
          obtain ⟨⟨members, r₁⟩, hobject, h⟩ := bind_eq_ok.1 h
          cases h
          obtain ⟨b', ms, _, r', hb', rfl, hr, -⟩ := exists_of_readObject hrun ih hobject ht₂
          exact ⟨_, _, r', by simp, (reads_object ms hb').append hb, hr⟩
        · rename_i hbrace
          obtain ⟨⟨found, r₁⟩, hscalar, h⟩ := bind_eq_ok.1 h
          cases h
          exact exists_of_scalar hrun hskip ⟨hbracket, hbrace⟩ hscalar hs

end Values

/-- Runs of which there are none can be exchanged. -/
lemma exchangeable_no_run : Exchangeable fun _ _ => False :=
  ⟨False.elim, False.elim, False.elim, False.elim⟩

/-- The keys of an object are those of its members. -/
lemma Member.keys_entriesFrom {depth : Nat} (members : Entries Json) (ms : List (Member depth)) :
    (entriesFrom members ms).keys = (ms.map fun m => m.key).foldl Entries.putKey members.keys := by
  induction ms generalizing members with
  | nil => rfl
  | cons m ms ih =>
    rw [List.map_cons, List.foldl_cons, ← Entries.keys_put _ m.value]
    exact ih _

/-- A text that reads as an object is written as its members between curly braces. -/
lemma exists_of_parseObject {s : Text} {fields : Entries Json} (h : parseObject s = .ok fields) :
    ∃ (b b' b'' : Text) (ms : List (Member (maxDepth - 1))), b.all isSpace = true ∧
      b'.all isSpace = true ∧ b''.all isSpace = true ∧
      s = b ++ '{' :: (b' ++ (Member.listText ms ++ '}' :: b'')) ∧
      fields = Member.entriesFrom [] ms := by
  unfold parseObject readWhole at h
  cases hmap : readMap s with
  | error e => simp [hmap] at h
  | ok y =>
    obtain ⟨fields', r⟩ := y
    simp only [hmap] at h
    obtain ⟨b, hb, hs⟩ := exists_spaces s
    obtain ⟨b'', hb'', hr⟩ := exists_spaces r
    cases hend : skipSpaces r with
    | cons c t => simp [hend] at h
    | nil =>
      simp only [hend] at h
      cases h
      rw [hend, List.append_nil] at hr
      subst hr
      unfold readMap at hmap
      cases hskip : skipSpaces s with
      | nil => simp [hskip] at hmap
      | cons c t =>
        simp only [hskip] at hmap
        split at hmap
        · rename_i hc
          subst hc
          have hrun := exchangeable_no_run
          obtain ⟨b', ms, _, r', hb', rfl, hr', -⟩ :=
            exists_of_readObject hrun (keepsValues hrun _) hmap (.refl t)
          have hobject := readObject_listText ms hb' r'
          rw [hobject] at hmap
          cases hmap
          exact ⟨b, b', r, ms, hb, hb', hb'', by rw [hskip] at hs; exact hs, rfl⟩
        · cases hmap

/-- An object that is read has each key once. -/
lemma nodup_keys_of_parseObject {s : Text} {fields : Entries Json}
    (h : parseObject s = .ok fields) : fields.keys.Nodup := by
  obtain ⟨_, _, _, ms, _, _, _, _, rfl⟩ := exists_of_parseObject h
  rw [Member.keys_entriesFrom]
  exact Entries.nodup_foldl_putKey .nil

end SearchGateway.Json
