import SearchGateway.Domain.Allowed
import SearchGateway.Domain.Joining
import SearchGateway.Domain.Punycode
import SearchGateway.Domain.Replaced
import SearchGateway.Domain.Writing

/-!
# Labels

The labels of a domain name stand between points. A label that begins with `xn--` is the written
form of an international one, which has to be as a name would keep it: in allowed characters, in
composed form, without a mark in front, and with joiners only where they make a difference. Any
other label with characters outside of ASCII is kept under the same conditions and gets a written
form. Before a name falls into labels, its characters are replaced by those that names keep, and
composed.
-/

namespace SearchGateway.Domain

/-- Whether a character is ASCII. -/
def isAscii (c : Char) : Bool :=
  c.toNat < 128

/-- Whether an international label is as a name would keep it. -/
def isKept (label : Text) : Bool :=
  label.all isAllowed && isComposed label && !(label.head?.map isMark).getD false &&
    joinersFit [] label

/-- A label of a domain name. -/
structure Label where
  /-- The characters that the name keeps. -/
  kept : Text
  /-- The label in ASCII. -/
  written : Text
  deriving DecidableEq, Repr

/-- The number of characters of which a label may be read. -/
def maxForm : Nat := 2000

/-- The number of characters for which a label may be written. -/
def maxLabel : Nat := 1000

/-- Reads a label of a name whose characters have been replaced. -/
def readLabel? (label : Text) : Option Label :=
  match label.after? "xn--".toList with
  | some form =>
    if form.all isAscii && form.length ≤ maxForm then
      ((Punycode.decode? form).filter isKept).map fun kept => ⟨kept, label⟩
    else none
  | none =>
    if label.all isAscii then some ⟨label, label⟩
    else if isKept label && label.length ≤ maxLabel then
      some ⟨label, "xn--".toList ++ Punycode.encode label⟩
    else none

/-- The text that a name keeps. In ASCII only capital letters are replaced, and nothing is
composed. -/
def replace? (s : Text) : Option Text :=
  if s.all isAscii then some (s.map Char.toLower)
  else do
    let texts ← s.mapM replacement?
    return (composed (texts.flatten.map Char.toNat)).map Char.ofNat

/-- The written form of a domain name, as far as its international labels go. -/
def written? (s : Text) : Option Text := do
  let replaced ← replace? s
  let labels ← (replaced.splitAt '.').mapM readLabel?
  if directionsFit (labels.map Label.kept) then some (Text.join ['.'] (labels.map Label.written))
  else none

end SearchGateway.Domain
