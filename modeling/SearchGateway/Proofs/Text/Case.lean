import Mathlib.Tactic.Lemma
import SearchGateway.Text.Basic

/-!
# Case of letters

A text that differs from a word in the case of its letters has only these letters and their
capitals.
-/

namespace SearchGateway.Text

/-- A character with a given small form is that form or a capital letter. -/
lemma eq_or_of_toLower_eq {c d : Char} (h : c.toLower = d) :
    c = d ∨ c.toNat + 32 = d.toNat ∧ 65 ≤ c.toNat ∧ c.toNat ≤ 90 := by
  subst h
  unfold Char.toLower
  split
  · rename_i hupper
    have hlow : 65 ≤ c.toNat := hupper.1
    have hhigh : c.toNat ≤ 90 := hupper.2
    have hsum : (c.val + ('a'.val - 'A'.val)).toNat = (c.toNat + 32) % 2 ^ 32 :=
      UInt32.toNat_add c.val 32
    exact .inr ⟨(hsum.trans (Nat.mod_eq_of_lt (by omega))).symm, hlow, hhigh⟩
  · exact .inl rfl

/-- A text in another case has the letters of a word in small form, and their capitals. -/
lemma mem_of_toLowerAscii_eq {s word : Text} (h : s.toLowerAscii = word) {c : Char} (hc : c ∈ s) :
    c ∈ word ++ word.map fun d => Char.ofNat (d.toNat - 32) := by
  have hlower : c.toLower ∈ word := by
    rw [← h]
    exact List.mem_map_of_mem hc
  obtain heq | ⟨hsum, _, _⟩ := eq_or_of_toLower_eq (d := c.toLower) rfl
  · exact List.mem_append_left _ (heq ▸ hlower)
  · refine List.mem_append_right _ (List.mem_map.2 ⟨c.toLower, hlower, ?_⟩)
    rw [← hsum, Nat.add_sub_cancel, Char.ofNat_toNat]

end SearchGateway.Text
