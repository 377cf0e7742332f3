import SearchGateway.Text.Hidden

/-!
# Quoted text

Text between double quotes for messages: quotes and backslashes get a backslash, and a character
that would not show is named by its code point in hexadecimal between braces.
-/

namespace SearchGateway.Text

/-- The lower-case hexadecimal digits of a number. -/
def hex (n : Nat) : Text :=
  Nat.toDigits 16 n

/-- A character as it stands between the quotes. -/
def quotedChar (c : Char) : Text :=
  if c = '\t' then "\\t".toList
  else if c = '\n' then "\\n".toList
  else if c = '\r' then "\\r".toList
  else if c = '"' then "\\\"".toList
  else if c = '\\' then "\\\\".toList
  else if c.toNat = 0 then "\\0".toList
  else if isHidden c then "\\u\x7b".toList ++ hex c.toNat ++ "\x7d".toList
  else [c]

/-- A text between double quotes, with every character of it visible. -/
def quoted (s : Text) : Text :=
  '"' :: (s.flatMap quotedChar ++ ['"'])

end SearchGateway.Text
