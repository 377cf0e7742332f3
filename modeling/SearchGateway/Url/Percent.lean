import SearchGateway.Text.Basic

/-!
# Percent encoding

A character that may not stand as itself is written as its UTF-8 bytes, each as a percent sign and
two upper-case hexadecimal digits. Which characters stand as themselves differs from part to part
of a URL; none outside ASCII does.
-/

namespace SearchGateway.Percent

/-- A number below sixteen as an upper-case hexadecimal digit. -/
def upperHexDigit (n : Nat) : Char :=
  (Nat.digitChar n).toUpper

/-- A byte as a percent sign and two hexadecimal digits. -/
def escapeByte (b : UInt8) : Text :=
  ['%', upperHexDigit (b.toNat / 16), upperHexDigit (b.toNat % 16)]

/-- A character as it stands in encoded text. -/
def encodeChar (stays : Char → Bool) (c : Char) : Text :=
  if stays c then [c] else (String.utf8EncodeChar c).flatMap escapeByte

/-- A text with every character encoded that may not stand as itself. -/
def encode (stays : Char → Bool) (s : Text) : Text :=
  s.flatMap (encodeChar stays)

/-- The bytes of a text in which each percent sign before two hexadecimal digits gives a byte. -/
def decode : Text → List UInt8
  | [] => []
  | '%' :: a :: b :: r =>
    match hexDigit? a, hexDigit? b with
    | some m, some n => UInt8.ofNat (m * 16 + n) :: decode r
    | _, _ => String.utf8EncodeChar '%' ++ decode (a :: b :: r)
  | c :: r => String.utf8EncodeChar c ++ decode r

/-- The text of the bytes that an encoded text stands for, if they are UTF-8. -/
def decodeText? (s : Text) : Option Text :=
  (String.fromUTF8? (decode s).toByteArray).map String.toList

/-- The characters that stand as themselves in a value: letters, digits and four marks. -/
def staysInValue (c : Char) : Bool :=
  c.isAlphanum || c == '-' || c == '_' || c == '.' || c == '~'

/-- A value encoded for any place in a URL. -/
def encodeValue (s : Text) : Text :=
  encode staysInValue s

/-- Whether a character is ASCII and not a control. -/
def isVisibleAscii (c : Char) : Bool :=
  32 ≤ c.toNat && c.toNat < 127

/-- The characters that stand as themselves in a path that has no segments, and in a host of a
scheme without hosts of its own. -/
def staysInPlain (c : Char) : Bool :=
  isVisibleAscii c

/-- The characters that stand as themselves in a fragment. -/
def staysInFragment (c : Char) : Bool :=
  isVisibleAscii c && !(" \"<>\x60".toList.contains c)

/-- The characters that stand as themselves in a path segment. -/
def staysInPath (c : Char) : Bool :=
  staysInFragment c && !("#?\x7b\x7d".toList.contains c)

/-- The characters that stand as themselves in a user name or password. -/
def staysInUser (c : Char) : Bool :=
  staysInPath c && !("/:;=@[\\]^|".toList.contains c)

/-- The characters that stand as themselves in a query; in one of a special scheme the single
quote does not. -/
def staysInQuery (special : Bool) (c : Char) : Bool :=
  isVisibleAscii c && !(" \"#<>".toList.contains c) && !(special && c == '\'')

end SearchGateway.Percent
