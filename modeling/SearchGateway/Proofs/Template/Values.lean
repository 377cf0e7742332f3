import SearchGateway.Proofs.Json.Numbers
import SearchGateway.Proofs.Template.Normal
import SearchGateway.Proofs.Template.Quoted

/-!
# Values without tags

A JSON value whose strings and keys are free of tags has a compact text that is free of tags
(`tagFree_text`): what stands around the strings holds no angle bracket, and escaping makes no tag.
-/

namespace SearchGateway

namespace Json

mutual

/-- The strings of a value and the keys of its objects, at any depth. -/
def strings : Json → List Text
  | .null | .bool _ | .number _ => []
  | .string s => [s]
  | .array items => itemsStrings items
  | .object members => membersStrings members

/-- The strings of items. -/
def itemsStrings : List Json → List Text
  | [] => []
  | j :: js => strings j ++ itemsStrings js

/-- The keys of members and the strings of their values. -/
def membersStrings : List (Text × Json) → List Text
  | [] => []
  | (k, j) :: ms => k :: (strings j ++ membersStrings ms)

end

/-- A natural number is written without an angle bracket. -/
lemma angle_not_mem_ofNat (n : Nat) : '<' ∉ Text.ofNat n :=
  not_mem_ofInt rfl (by decide) n

/-- A decimal is written without an angle bracket. -/
lemma angle_not_mem_decimal (d : Decimal) : '<' ∉ d.text := by
  have hdigits := angle_not_mem_ofNat d.digits
  unfold Decimal.text
  simp only
  split
  · have hexponent (below : Prop) [Decidable below] :
        '<' ∉ (if below then "e-".toList else "e+".toList) := by
      split <;> decide
    refine List.not_mem_append (List.not_mem_append ?_ (hexponent _)) (angle_not_mem_ofNat _)
    -- The mantissa has the digits and a point behind the first one.
    split
    · exact List.not_mem_nil
    · rename_i h
      rwa [h] at hdigits
    · rename_i h
      rw [h] at hdigits
      obtain ⟨hc, hr⟩ := List.ne_and_not_mem_of_not_mem_cons hdigits
      simp [hc, hr]
  · split
    · simp [hdigits]
    · split
      · have htake (n : Nat) : '<' ∉ (Text.ofNat d.digits).take n :=
          fun h => hdigits (List.mem_of_mem_take h)
        have hdrop (n : Nat) : '<' ∉ (Text.ofNat d.digits).drop n :=
          fun h => hdigits (List.mem_of_mem_drop h)
        simp [htake, hdrop]
      · simp [hdigits]

/-- A number is written without an angle bracket. -/
lemma angle_not_mem_number (n : Number) : '<' ∉ n.text := by
  cases n with
  | integer i => exact not_mem_ofInt rfl (by decide) i
  | real x =>
    have hsign : '<' ∉ (if x.negative then ['-'] else []) := by
      split <;> decide
    change '<' ∉ x.text
    unfold Binary64.text
    simp only
    split
    · exact List.not_mem_append hsign (by decide)
    · exact List.not_mem_append hsign (angle_not_mem_decimal _)

end Json

namespace Template

/-- Texts without tags have none together where a character between them is not part of the
beginning of a tag. -/
lemma TagFree.append_cons {s t : Text} {c : Char} (hs : TagFree s) (ht : TagFree t)
    (hc : c ∉ "<%=".toList) : TagFree (s ++ c :: t) := by
  induction s with
  | nil =>
    refine tagFree_cons.2 ⟨?_, ht⟩
    rintro ⟨r, hr⟩
    exact hc ((List.cons.inj hr).1 ▸ .head _)
  | cons d s ih =>
    obtain ⟨hd, hs⟩ := tagFree_cons.1 hs
    refine tagFree_cons.2 ⟨?_, ih hs⟩
    -- What the text begins with does not reach the character.
    rintro ⟨r, (hr : "<%=".toList ++ r = (d :: s) ++ c :: t)⟩
    have hafter := Text.after?_append "<%=".toList r
    rw [hr, Text.after?_append_cons hc] at hafter
    obtain ⟨r', hr', -⟩ := Option.map_eq_some_iff.1 hafter
    exact hd ⟨r', (Text.eq_append_of_after? hr').symm⟩

/-- A text without tags has none between quotes, whatever is written behind it. -/
lemma TagFree.quote_append {s t : Text} (hs : TagFree s) (ht : TagFree t) :
    TagFree (Json.quote s ++ t) := by
  have hclosed : TagFree (Json.escape s ++ '"' :: t) :=
    (tagFree_escape hs).append_cons ht (by decide)
  unfold Json.quote
  rw [List.cons_append, List.append_assoc]
  exact TagFree.append (b := ['"']) (by decide) hclosed

mutual

/-- The text of a value whose strings are free of tags is free of tags, and so is what is written
in front of a text without tags. -/
lemma tagFree_text_append (j : Json) {t : Text} (hj : ∀ s ∈ j.strings, TagFree s)
    (ht : TagFree t) : TagFree (j.text ++ t) := by
  match j with
  | .null => exact TagFree.append (by decide) ht
  | .bool b => cases b <;> exact TagFree.append (by decide) ht
  | .number n => exact TagFree.append (Json.angle_not_mem_number n) ht
  | .string s => exact TagFree.quote_append (hj s (.head _)) ht
  | .array [] => exact TagFree.append (by decide) ht
  | .array (j :: js) =>
    have hitems := tagFree_itemsText_append js
      (fun s hs => hj s (List.mem_append_right _ hs)) (TagFree.append (b := [']']) (by decide) ht)
    have hfirst := tagFree_text_append j (fun s hs => hj s (List.mem_append_left _ hs)) hitems
    rw [Json.text]
    simpa using TagFree.append (b := ['[']) (by decide) hfirst
  | .object [] => exact TagFree.append (by decide) ht
  | .object ((k, j) :: ms) =>
    have hmembers := tagFree_membersText_append ms
      (fun s hs => hj s (.tail _ (List.mem_append_right _ hs)))
      (TagFree.append (b := ['}']) (by decide) ht)
    have hvalue := tagFree_text_append j
      (fun s hs => hj s (.tail _ (List.mem_append_left _ hs))) hmembers
    have hmember := TagFree.quote_append (hj k (.head _))
      (TagFree.append (b := [':']) (by decide) hvalue)
    rw [Json.text]
    simpa using TagFree.append (b := ['{']) (by decide) hmember

/-- Items whose strings are free of tags are written without tags. -/
lemma tagFree_itemsText_append (js : List Json) {t : Text}
    (hj : ∀ s ∈ Json.itemsStrings js, TagFree s) (ht : TagFree t) :
    TagFree (Json.itemsText js ++ t) := by
  match js with
  | [] => exact ht
  | j :: js =>
    have hitems := tagFree_itemsText_append js
      (fun s hs => hj s (List.mem_append_right _ hs)) ht
    have hfirst := tagFree_text_append j (fun s hs => hj s (List.mem_append_left _ hs)) hitems
    rw [Json.itemsText]
    simpa using TagFree.append (b := [',']) (by decide) hfirst

/-- Members whose keys and strings are free of tags are written without tags. -/
lemma tagFree_membersText_append (ms : List (Text × Json)) {t : Text}
    (hj : ∀ s ∈ Json.membersStrings ms, TagFree s) (ht : TagFree t) :
    TagFree (Json.membersText ms ++ t) := by
  match ms with
  | [] => exact ht
  | (k, j) :: ms =>
    have hmembers := tagFree_membersText_append ms
      (fun s hs => hj s (.tail _ (List.mem_append_right _ hs))) ht
    have hvalue := tagFree_text_append j
      (fun s hs => hj s (.tail _ (List.mem_append_left _ hs))) hmembers
    have hmember := TagFree.quote_append (hj k (.head _))
      (TagFree.append (b := [':']) (by decide) hvalue)
    rw [Json.membersText]
    simpa using TagFree.append (b := [',']) (by decide) hmember

end

/-- The text of a value whose strings are free of tags is free of tags. -/
lemma tagFree_text {j : Json} (hj : ∀ s ∈ j.strings, TagFree s) : TagFree j.text := by
  simpa using tagFree_text_append j hj tagFree_nil

end Template

end SearchGateway
