import SearchGateway.Text.Basic

/-!
# White space

The characters with the Unicode property `White_Space`, and trimming by them. The separators
U+001C to U+001F and the zero-width characters are not among them.
-/

namespace SearchGateway

/-- The ranges of the Unicode property `White_Space`. -/
def blankRanges : List (Nat × Nat) :=
  [(0x9, 0xD), (0x20, 0x20), (0x85, 0x85), (0xA0, 0xA0), (0x1680, 0x1680), (0x2000, 0x200A),
   (0x2028, 0x2029), (0x202F, 0x202F), (0x205F, 0x205F), (0x3000, 0x3000)]

/-- Whether a character is white space. -/
def isBlank (c : Char) : Bool :=
  inRanges blankRanges c.toNat

namespace Text

/-- A text without leading white space. -/
def trimStart (s : Text) : Text :=
  s.trimStartWhere SearchGateway.isBlank

/-- Trimming makes no text longer. -/
theorem length_trimStart_le (s : Text) : s.trimStart.length ≤ s.length :=
  (List.dropWhile_suffix _).length_le

/-- A text without trailing white space. -/
def trimEnd (s : Text) : Text :=
  s.trimEndWhere SearchGateway.isBlank

/-- A text without white space at either end. -/
def trim (s : Text) : Text :=
  s.trimStart.trimEnd

/-- Whether a text holds nothing but white space. -/
def isBlank (s : Text) : Bool :=
  s.all SearchGateway.isBlank

end Text

end SearchGateway
