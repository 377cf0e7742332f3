import Mathlib.Tactic.Lemma
import SearchGateway.Error

/-!
# Computations that may fail

What a computation in steps succeeds with and fails with. It succeeds where all its steps do
(`bind_eq_ok`), and it fails with errors of one kind where all its steps fail with errors of this
kind (`FailsBy.bind`).
-/

namespace SearchGateway

/-- A bind that succeeds has succeeded in both of its parts. -/
lemma bind_eq_ok {ε α β : Type} {x : Except ε α} {f : α → Except ε β} {b : β} :
    (x >>= f) = .ok b ↔ ∃ a, x = .ok a ∧ f a = .ok b := by
  cases x <;> simp [bind, Except.bind]

/-- A bind that fails has failed in one of its parts. -/
lemma bind_eq_error {ε α β : Type} {x : Except ε α} {f : α → Except ε β} {e : ε} :
    (x >>= f) = .error e ↔ x = .error e ∨ ∃ a, x = .ok a ∧ f a = .error e := by
  cases x <;> simp [bind, Except.bind]

/-- Whether a computation fails with errors of one kind only. -/
def FailsBy {α : Type} (kind : Error → Prop) (x : Except Error α) : Prop :=
  ∀ e, x = .error e → kind e

namespace FailsBy

variable {α β : Type} {kind : Error → Prop}

/-- What succeeds does not fail. -/
lemma ok (a : α) : FailsBy kind (.ok a) := by
  intro e h
  cases h

/-- What fails with an error of the kind does so. -/
lemma error {e : Error} (h : kind e) : FailsBy kind (.error e : Except Error α) := by
  intro e' he
  cases he
  exact h

/-- Errors of a kind are also of every kind that includes it. -/
lemma mono {kind' : Error → Prop} {x : Except Error α} (hx : FailsBy kind x)
    (h : ∀ e, kind e → kind' e) : FailsBy kind' x :=
  fun e he => h e (hx e he)

/-- A bind fails like its parts. -/
lemma bind {x : Except Error α} {f : α → Except Error β} (hx : FailsBy kind x)
    (hf : ∀ a, x = .ok a → FailsBy kind (f a)) : FailsBy kind (x >>= f) := by
  intro e h
  cases hx' : x with
  | error e' =>
    rw [hx'] at h
    cases h
    exact hx e hx'
  | ok a =>
    rw [hx'] at h
    exact hf a hx' e h

/-- What is made of a result does not matter to the errors. -/
lemma map {x : Except Error α} (hx : FailsBy kind x) (f : α → β) : FailsBy kind (x.map f) := by
  intro e h
  cases hx' : x with
  | error e' =>
    rw [hx'] at h
    cases h
    exact hx e hx'
  | ok a =>
    rw [hx'] at h
    cases h

end FailsBy

/-- Another attempt at a query does not succeed. -/
lemma Error.isRetryable_of_isQueryError {e : Error} (h : e.isQueryError = true) :
    e.isRetryable = false := by
  cases e with
  | network reason => cases h
  | httpStatus status => cases h
  | _ => rfl

end SearchGateway
