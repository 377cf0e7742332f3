import SearchGateway.Json.Basic
import SearchGateway.Number.Shortest

/-!
# JSON text

The compact text of a JSON value and its indented text. Strings escape the quote, the backslash
and the control characters below U+0020, and nothing else. A real number is written with the
fewest digits that read back, with all its places when its leading digit stands between the fifth
place behind the point and the sixteenth before it, and with a power of ten otherwise.
-/

namespace SearchGateway

/-- A decimal written out, with at least one digit on either side of the point, or with a power of
ten. -/
def Decimal.text (d : Decimal) : Text :=
  let digits := Text.ofNat d.digits
  let lead : Int := digits.length - 1 + d.exponent
  if lead < -5 ∨ 15 < lead then
    let mantissa := match digits with
      | [] => []
      | [c] => [c]
      | c :: r => c :: '.' :: r
    mantissa ++ (if lead < 0 then "e-".toList else "e+".toList) ++ Text.ofNat lead.natAbs
  else if 0 ≤ d.exponent then
    digits ++ List.replicate d.exponent.toNat '0' ++ ".0".toList
  else if 0 ≤ lead then
    digits.take (lead.toNat + 1) ++ '.' :: digits.drop (lead.toNat + 1)
  else
    "0.".toList ++ List.replicate (-lead - 1).toNat '0' ++ digits

/-- The shortest text of a binary number. -/
def Binary64.text (x : Binary64) : Text :=
  let sign := if x.negative then ['-'] else []
  if x.isZero then sign ++ "0.0".toList
  else sign ++ x.shortest.stripZeros.text

/-- The text of a number. -/
def Number.text : Number → Text
  | .integer n => Text.ofInt n
  | .real x => x.text

/-- The text of a truth value. -/
def boolText (b : Bool) : Text :=
  if b then "true".toList else "false".toList

namespace Json

/-- A character as it stands inside a JSON string. -/
def escapeChar (c : Char) : Text :=
  if c = '"' then "\\\"".toList
  else if c = '\\' then "\\\\".toList
  else if c = '\n' then "\\n".toList
  else if c = '\r' then "\\r".toList
  else if c = '\t' then "\\t".toList
  else if c.toNat = 8 then "\\b".toList
  else if c.toNat = 12 then "\\f".toList
  else if c.toNat < 32 then
    "\\u00".toList ++ [Nat.digitChar (c.toNat / 16), Nat.digitChar (c.toNat % 16)]
  else [c]

/-- A text as it stands between the quotes of a JSON string. -/
def escape (s : Text) : Text :=
  s.flatMap escapeChar

/-- A text as a JSON string. -/
def quote (s : Text) : Text :=
  '"' :: (escape s ++ ['"'])

mutual

/-- The compact text of a value. -/
def text : Json → Text
  | .null => "null".toList
  | .bool b => boolText b
  | .number n => n.text
  | .string s => quote s
  | .array [] => "[]".toList
  | .array (j :: js) => '[' :: (j.text ++ itemsText js ++ [']'])
  | .object [] => ['{', '}']
  | .object ((k, j) :: ms) => '{' :: (quote k ++ ':' :: j.text ++ membersText ms ++ ['}'])

/-- The items behind the first one, each after a comma. -/
def itemsText : List Json → Text
  | [] => []
  | j :: js => ',' :: (j.text ++ itemsText js)

/-- The members behind the first one, each after a comma. -/
def membersText : List (Text × Json) → Text
  | [] => []
  | (k, j) :: ms => ',' :: (quote k ++ ':' :: j.text ++ membersText ms)

end

/-- A line break and the indentation of a nesting level, two spaces a level. -/
def lineAt (level : Nat) : Text :=
  '\n' :: List.replicate (2 * level) ' '

mutual

/-- The text of a value at a nesting level, with each item and member on a line of its own. -/
def indentedText (level : Nat) : Json → Text
  | .array (j :: js) =>
    '[' :: (lineAt (level + 1) ++ indentedText (level + 1) j ++ indentedItems (level + 1) js
      ++ lineAt level ++ [']'])
  | .object ((k, j) :: ms) =>
    '{' :: (lineAt (level + 1) ++ quote k ++ ": ".toList ++ indentedText (level + 1) j
      ++ indentedMembers (level + 1) ms ++ lineAt level ++ ['}'])
  | .array [] => "[]".toList
  | .object [] => ['{', '}']
  | .null => text .null
  | .bool b => text (.bool b)
  | .number n => text (.number n)
  | .string s => text (.string s)

/-- The items behind the first one, each on a line after a comma. -/
def indentedItems (level : Nat) : List Json → Text
  | [] => []
  | j :: js => ',' :: (lineAt level ++ indentedText level j ++ indentedItems level js)

/-- The members behind the first one, each on a line after a comma. -/
def indentedMembers (level : Nat) : List (Text × Json) → Text
  | [] => []
  | (k, j) :: ms =>
    ',' :: (lineAt level ++ quote k ++ ": ".toList ++ indentedText level j
      ++ indentedMembers level ms)

end

end Json

end SearchGateway
