import Mathlib.Tactic.Lemma
import SearchGateway.Url.Percent

/-!
# Percent decoding

Decoding undoes encoding, whatever characters stand as themselves, as long as the percent sign does
not (`decode_encode`). The encoded form of a value has only letters, digits, four marks and percent
signs (`mem_encodeValue`), so it passes unchanged through every part of a URL.
-/

namespace SearchGateway.Percent

/-- A hexadecimal digit reads as its value. -/
lemma hexDigit?_upperHexDigit : ∀ n < 16, hexDigit? (upperHexDigit n) = some n := by
  decide

/-- An escaped byte is decoded as the byte. -/
lemma decode_escapeByte_append (b : UInt8) (rest : Text) :
    decode (escapeByte b ++ rest) = b :: decode rest := by
  have hb : b.toNat < 256 := b.toNat_lt
  have hvalue : UInt8.ofNat (b.toNat / 16 * 16 + b.toNat % 16) = b := by
    rw [Nat.div_add_mod']
    exact UInt8.ofNat_toNat
  simp only [escapeByte, List.cons_append, List.nil_append, decode,
    hexDigit?_upperHexDigit _ (show b.toNat / 16 < 16 by omega),
    hexDigit?_upperHexDigit _ (show b.toNat % 16 < 16 by omega), hvalue]

/-- A character that is no percent sign is decoded as itself. -/
lemma decode_cons {c : Char} (h : c ≠ '%') (rest : Text) :
    decode (c :: rest) = String.utf8EncodeChar c ++ decode rest := by
  rw [decode]
  exact fun _ _ _ hc => absurd hc h

/-- An encoded character is decoded as its bytes, whatever stands behind it. -/
lemma decode_encodeChar_append {stays : Char → Bool} (h : stays '%' = false) (c : Char)
    (rest : Text) :
    decode (encodeChar stays c ++ rest) = String.utf8EncodeChar c ++ decode rest := by
  have bytes (bs : List UInt8) : decode (bs.flatMap escapeByte ++ rest) = bs ++ decode rest := by
    induction bs with
    | nil => rfl
    | cons b bs ih =>
      rw [List.flatMap_cons, List.append_assoc, decode_escapeByte_append, ih, List.cons_append]
  unfold encodeChar
  split
  · rename_i hc
    have hne : c ≠ '%' := by
      rintro rfl
      rw [h] at hc
      cases hc
    exact decode_cons hne rest
  · exact bytes _

/-- An encoded text is decoded as its bytes, whatever stands behind it. -/
lemma decode_encode_append {stays : Char → Bool} (h : stays '%' = false) (s rest : Text) :
    decode (encode stays s ++ rest) = s.flatMap String.utf8EncodeChar ++ decode rest := by
  induction s with
  | nil => rfl
  | cons c s ih =>
    unfold encode at ih ⊢
    rw [List.flatMap_cons, List.flatMap_cons, List.append_assoc, List.append_assoc,
      decode_encodeChar_append h, ih]

/-- An encoded text is decoded as its bytes. -/
lemma decode_encode {stays : Char → Bool} (h : stays '%' = false) (s : Text) :
    decode (encode stays s) = s.flatMap String.utf8EncodeChar := by
  have hdecode := decode_encode_append h s []
  rwa [List.append_nil, show decode [] = [] from rfl, List.append_nil] at hdecode

/-- An encoded text is decoded as the text. -/
lemma decodeText?_encode {stays : Char → Bool} (h : stays '%' = false) (s : Text) :
    decodeText? (encode stays s) = some s := by
  have hbytes : (decode (encode stays s)).toByteArray = (String.ofList s).toByteArray := by
    rw [decode_encode h, String.toByteArray_ofList]
    rfl
  unfold decodeText? String.fromUTF8?
  rw [hbytes, dif_pos (String.ofList s).isValidUTF8]
  exact congrArg some String.toList_ofList

/-- An encoded text of a value is decoded as the value. -/
lemma decodeText?_encodeValue (s : Text) : decodeText? (encodeValue s) = some s :=
  decodeText?_encode rfl s

/-- Characters are encoded one by one. -/
lemma encode_append (stays : Char → Bool) (s t : Text) :
    encode stays (s ++ t) = encode stays s ++ encode stays t :=
  List.flatMap_append

/-- A text whose characters all stand as themselves is its own encoded form. -/
lemma encode_eq_self {stays : Char → Bool} {s : Text} (h : ∀ c ∈ s, stays c = true) :
    encode stays s = s := by
  induction s with
  | nil => rfl
  | cons c s ih =>
    have ih := ih fun d hd => h d (.tail _ hd)
    unfold encode encodeChar at ih ⊢
    rw [List.flatMap_cons, if_pos (h c (.head _)), ih, List.singleton_append]

/-- The encoded form of a value has percent signs and characters that stand as themselves. -/
lemma mem_encodeValue {c : Char} {s : Text} (h : c ∈ encodeValue s) :
    staysInValue c = true ∨ c = '%' := by
  have digit : ∀ n < 16, staysInValue (upperHexDigit n) = true := by decide
  obtain ⟨d, _, hd⟩ := List.mem_flatMap.1 h
  unfold encodeChar at hd
  split at hd
  · rename_i hstays
    exact .inl (by rwa [List.mem_singleton.1 hd])
  · obtain ⟨b, _, hb⟩ := List.mem_flatMap.1 hd
    have hlt : b.toNat < 256 := b.toNat_lt
    simp only [escapeByte, List.mem_cons, List.not_mem_nil, or_false] at hb
    obtain rfl | rfl | rfl := hb
    · exact .inr rfl
    · exact .inl (digit _ (by omega))
    · exact .inl (digit _ (by omega))

/-- Whether a character may stand in encoded values and in what sets them apart in a query. -/
def isSent (c : Char) : Bool :=
  staysInValue c || c == '%' || c == '&' || c == '='

/-- What the encoded form of a value has can be sent. -/
lemma isSent_of_mem_encodeValue {c : Char} {s : Text} (h : c ∈ encodeValue s) :
    isSent c = true := by
  unfold isSent
  obtain hc | rfl := mem_encodeValue h
  · rw [hc, Bool.true_or, Bool.true_or, Bool.true_or]
  · rfl

/-- Where the ASCII letters stand. -/
lemma toNat_of_isAlpha {c : Char} (h : c.isAlpha = true) : 65 ≤ c.toNat ∧ c.toNat ≤ 122 := by
  obtain hupper | hlower := Bool.or_eq_true_iff.1 h
  · have hrange : 65 ≤ c.toNat ∧ c.toNat ≤ 90 := of_decide_eq_true hupper
    omega
  · obtain ⟨hlow, hhigh⟩ := Bool.and_eq_true_iff.1 hlower
    have hrange : 97 ≤ c.toNat ∧ c.toNat ≤ 122 :=
      ⟨of_decide_eq_true hlow, of_decide_eq_true hhigh⟩
    omega

/-- Where the ASCII digits stand. -/
lemma toNat_of_isDigit {c : Char} (h : c.isDigit = true) : 48 ≤ c.toNat ∧ c.toNat ≤ 57 := by
  obtain ⟨hlow, hhigh⟩ := Bool.and_eq_true_iff.1 h
  exact ⟨of_decide_eq_true hlow, of_decide_eq_true hhigh⟩

/-- A character that is sent is visible. -/
lemma toNat_of_isSent {c : Char} (h : isSent c = true) : 32 < c.toNat ∧ c.toNat < 127 := by
  have hmarks : "-_.~%&=".toList.all (fun d => 32 < d.toNat ∧ d.toNat < 127) = true := by decide
  unfold isSent staysInValue at h
  simp only [Bool.or_eq_true, beq_iff_eq, or_assoc] at h
  obtain halnum | hmark := h
  · obtain halpha | hdigit := Bool.or_eq_true_iff.1 halnum
    · have hrange := toNat_of_isAlpha halpha
      omega
    · have hrange := toNat_of_isDigit hdigit
      omega
  · exact of_decide_eq_true (List.all_eq_true.1 hmarks c (by simpa using hmark))

/-- A character that is sent is visible ASCII. -/
lemma isVisibleAscii_of_isSent {c : Char} (h : isSent c = true) : isVisibleAscii c = true := by
  have hrange := toNat_of_isSent h
  unfold isVisibleAscii
  simp only [Bool.and_eq_true, decide_eq_true_eq]
  omega

/-- A character that is sent is none of some that are not. -/
lemma contains_of_isSent {c : Char} {others : Text} (hothers : others.any isSent = false)
    (h : isSent c = true) : others.contains c = false := by
  rw [Bool.eq_false_iff]
  intro hc
  exact List.any_eq_false.1 hothers c (List.contains_iff_mem.1 hc) h

/-- A query keeps what is sent. -/
lemma staysInQuery_of_isSent {c : Char} (special : Bool) (h : isSent c = true) :
    staysInQuery special c = true := by
  have hquote : c ≠ '\'' := by
    rintro rfl
    exact absurd h (by decide)
  unfold staysInQuery
  rw [isVisibleAscii_of_isSent h, contains_of_isSent (by decide) h, beq_false_of_ne hquote,
    Bool.and_false]
  rfl

/-- A fragment keeps what is sent. -/
lemma staysInFragment_of_isSent {c : Char} (h : isSent c = true) : staysInFragment c = true := by
  unfold staysInFragment
  rw [isVisibleAscii_of_isSent h, contains_of_isSent (by decide) h]
  rfl

/-- A path segment keeps what is sent. -/
lemma staysInPath_of_isSent {c : Char} (h : isSent c = true) : staysInPath c = true := by
  unfold staysInPath
  rw [staysInFragment_of_isSent h, contains_of_isSent (by decide) h]
  rfl

end SearchGateway.Percent
