import SearchGateway.Domain.Label
import SearchGateway.Url.Address
import SearchGateway.Url.Percent

/-!
# Hosts

The host of a URL. A special scheme takes domain names, which are percent-decoded and put into
their written form in ASCII, and network addresses; any other scheme takes any text without the
characters that end or divide a host.
-/

namespace SearchGateway.Url

/-- Why a text is not a URL. -/
inductive Error where
  | relative
  | emptyHost
  | invalidPort
  | invalidIpv4
  | invalidIpv6
  | invalidDomainName
  | invalidHostCharacter
  deriving DecidableEq, Repr

/-- What a URL error says. -/
def Error.message : Error → Text
  | .relative => "relative URL without a base".toList
  | .emptyHost => "empty host".toList
  | .invalidPort => "invalid port number".toList
  | .invalidIpv4 => "invalid IPv4 address".toList
  | .invalidIpv6 => "invalid IPv6 address".toList
  | .invalidDomainName => "invalid international domain name".toList
  | .invalidHostCharacter => "invalid domain character".toList

/-- A host: a name, or a network address. -/
inductive Host where
  | name (text : Text)
  | ipv4 (address : Nat)
  | ipv6 (pieces : List Nat)
  deriving DecidableEq, Repr

namespace Host

/-- The text of a host. -/
def text : Host → Text
  | .name s => s
  | .ipv4 address => ipv4Text address
  | .ipv6 pieces => '[' :: (ipv6Text pieces ++ [']'])

/-- Whether a host has no text at all. -/
def isEmpty (host : Host) : Bool :=
  host == .name []

/-- Reads an IPv6 address in brackets, the opening one of which is given apart. -/
def readBracketed (s : Text) : Except Error Host :=
  if s.getLast? = some ']' then
    match readIpv6? s.dropLast with
    | some pieces => .ok (.ipv6 pieces)
    | none => .error .invalidIpv6
  else .error .invalidIpv6

/-- Whether a domain name may not hold a character. -/
def forbiddenInName (c : Char) : Bool :=
  c.toNat ≤ 32 || 127 ≤ c.toNat || "%#/:<>?@[\\]^|".toList.contains c

/-- The written form of a domain name that may be percent-encoded. What has no percent sign is its
own decoded form. -/
def readName? (s : Text) : Option Text := do
  let decoded ← if s.contains '%' then Percent.decodeText? s else some s
  let written ← Domain.written? decoded
  if written.any forbiddenInName then none else some written

/-- Reads a host of a special scheme. -/
def read (s : Text) : Except Error Host :=
  match s with
  | '[' :: r => readBracketed r
  | _ =>
    match readName? s with
    | none => .error .invalidDomainName
    | some written =>
      if written.isEmpty then .error .emptyHost
      else if endsInNumber written then
        match readIpv4? written with
        | some address => .ok (.ipv4 address)
        | none => .error .invalidIpv4
      else .ok (.name written)

/-- Whether a host of a scheme that is not special may not hold a character. -/
def forbiddenInPlain (c : Char) : Bool :=
  "\x00\t\n\r #/:<>?@[\\]^|".toList.contains c

/-- Reads a host of a scheme that is not special. -/
def readPlain (s : Text) : Except Error Host :=
  match s with
  | '[' :: r => readBracketed r
  | _ =>
    if s.any forbiddenInPlain then .error .invalidHostCharacter
    else .ok (.name (Percent.encode Percent.staysInPlain s))

end Host

end SearchGateway.Url
