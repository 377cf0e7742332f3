import SearchGateway.Text.Basic

/-!
# Network addresses

The numeric forms of hosts. An IPv4 address has one to four numbers between points, each in
decimal, octal (after a 0) or hexadecimal (after 0x), the last of which fills all bytes that are
left. An IPv6 address has eight pieces of 16 bits between colons, of which one run of zeros may be
left out and the last two may be written as an IPv4 address.
-/

namespace SearchGateway.Url

/-- The value of a text of digits in a base, most significant first. -/
def valueInBase (base : Nat) (s : Text) : Option Nat :=
  s.foldlM (fun n c => match hexDigit? c with
    | some d => if d < base then some (n * base + d) else none
    | none => none) 0

/-- Reads one number of an IPv4 address. -/
def ipv4Number? : Text → Option Nat
  | [] => none
  | '0' :: 'x' :: r => valueInBase 16 r
  | '0' :: 'X' :: r => valueInBase 16 r
  | '0' :: c :: r => valueInBase 8 (c :: r)
  | s => valueInBase 10 s

/-- A list without its last item if that is empty. -/
def dropLastEmpty (parts : List Text) : List Text :=
  if parts.getLast? = some [] then parts.dropLast else parts

/-- Whether a host ends in a number, so that it can only be an IPv4 address. -/
def endsInNumber (host : Text) : Bool :=
  match (dropLastEmpty (host.splitAt '.')).getLast? with
  | none => false
  | some last => (!last.isEmpty && last.all Char.isDigit) || (ipv4Number? last).isSome

/-- Reads an IPv4 address. -/
def readIpv4? (host : Text) : Option Nat := do
  let parts := dropLastEmpty (host.splitAt '.')
  if 4 < parts.length then none
  let numbers ← parts.mapM ipv4Number?
  let last ← numbers.getLast?
  let front := numbers.dropLast
  if front.any (255 < ·) || Nat.pow 256 (4 - front.length) ≤ last then none
  let high := front.foldl (fun n part => n * 256 + part) 0
  return high * Nat.pow 256 (4 - front.length) + last

/-- The four bytes of an IPv4 address in decimal. -/
def ipv4Text (address : Nat) : Text :=
  Text.join ['.'] ([3, 2, 1, 0].map fun k => Text.ofNat (address / Nat.pow 256 k % 256))

/-- The texts before and after the first two colons in a row. -/
def cutGap? : Text → Option (Text × Text)
  | [] => none
  | ':' :: ':' :: r => some ([], r)
  | c :: r => (cutGap? r).map fun (before, after) => (c :: before, after)

/-- Reads one to four hexadecimal digits as a piece of an IPv6 address. -/
def ipv6Piece? (s : Text) : Option Nat :=
  if s.isEmpty || 4 < s.length then none else valueInBase 16 s

/-- Reads a byte in decimal without leading zeros. -/
def decimalByte? : Text → Option Nat
  | [] => none
  | ['0'] => some 0
  | '0' :: _ => none
  | s => (valueInBase 10 s).filter (· < 256)

/-- Reads four decimal bytes between points as two pieces of an IPv6 address. -/
def ipv4Pieces? (s : Text) : Option (List Nat) := do
  match ← (s.splitAt '.').mapM decimalByte? with
  | [a, b, c, d] => return [a * 256 + b, c * 256 + d]
  | _ => none

/-- Reads pieces between colons; the last may be two pieces as an IPv4 address where the address
ends with it. -/
def ipv6Group? (final : Bool) (s : Text) : Option (List Nat) := do
  if s.isEmpty then return []
  let parts := s.splitAt ':'
  let front ← parts.dropLast.mapM ipv6Piece?
  let last := parts.getLast?.getD []
  let tail ← if final && last.contains '.' then ipv4Pieces? last
    else (ipv6Piece? last).map ([·])
  return front ++ tail

/-- Reads the eight pieces of an IPv6 address. -/
def readIpv6? (s : Text) : Option (List Nat) := do
  match cutGap? s with
  | none =>
    let pieces ← ipv6Group? true s
    if pieces.length = 8 then return pieces else none
  | some (before, after) =>
    let high ← ipv6Group? false before
    let low ← ipv6Group? true after
    let n := high.length + low.length
    if n < 8 then return high ++ List.replicate (8 - n) 0 ++ low else none

/-- The number of zeros at the head of a list. -/
def leadingZeros : List Nat → Nat
  | 0 :: r => leadingZeros r + 1
  | _ => 0

/-- The start and length of the first longest run of zeros in a list that begins at a given
index. -/
def longestZeroRun (index : Nat) : List Nat → Nat × Nat
  | [] => (index, 0)
  | n :: r =>
    let here := leadingZeros (n :: r)
    let later := longestZeroRun (index + 1) r
    if later.2 ≤ here then (index, here) else later

/-- The pieces in lower-case hexadecimal between colons. -/
def piecesText (pieces : List Nat) : Text :=
  Text.join [':'] (pieces.map (Nat.toDigits 16))

/-- The text of an IPv6 address, in which the longest run of at least two zeros is left out. -/
def ipv6Text (pieces : List Nat) : Text :=
  let (start, length) := longestZeroRun 0 pieces
  if length < 2 then piecesText pieces
  else piecesText (pieces.take start) ++ "::".toList ++ piecesText (pieces.drop (start + length))

end SearchGateway.Url
