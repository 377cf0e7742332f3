import SearchGateway.Url.File

/-!
# URLs

Absolute URLs and their reading from text. The special schemes are those of the web; they always
have a host, take a backslash for a slash, and leave out their own default port. Blanks and
controls around a URL and line breaks and tabs inside it are dropped.
-/

namespace SearchGateway

/-- What stands behind the two slashes of a URL. -/
structure Url.Authority where
  user : Text
  password : Text
  host : Url.Host
  port : Option Nat
  deriving DecidableEq, Repr

/-- An absolute URL, with every part in its encoded form. -/
structure Url where
  scheme : Text
  authority : Option Url.Authority
  path : Url.Path
  query : Option Text
  fragment : Option Text
  deriving DecidableEq, Repr

namespace Url

/-- The default port of a scheme. -/
def defaultPort? (scheme : Text) : Option Nat :=
  if scheme = "http".toList ∨ scheme = "ws".toList then some 80
  else if scheme = "https".toList ∨ scheme = "wss".toList then some 443
  else if scheme = "ftp".toList then some 21
  else none

/-- Whether a scheme is that of local files. -/
def isFileScheme (scheme : Text) : Bool :=
  scheme == "file".toList

/-- Whether a scheme is special. -/
def isSpecial (scheme : Text) : Bool :=
  isFileScheme scheme || (defaultPort? scheme).isSome

namespace Authority

/-- The text of a user name and a password, before the host. -/
def userText (a : Authority) : Text :=
  let password := if a.password.isEmpty then [] else ':' :: a.password
  if a.user.isEmpty && a.password.isEmpty then [] else a.user ++ password ++ ['@']

/-- The text of a port, behind the host. -/
def portText (a : Authority) : Text :=
  match a.port with
  | none => []
  | some n => ':' :: Text.ofNat n

/-- The text of an authority. -/
def text (a : Authority) : Text :=
  a.userText ++ a.host.text ++ a.portText

end Authority

/-- The text between the scheme and the query. Without an authority, two slashes in front of a
path would read as one, so a dot segment sets them apart. -/
def hierarchyText (url : Url) : Text :=
  match url.authority, url.path with
  | some a, path => "//".toList ++ a.text ++ path.text
  | none, .segments ([] :: s :: rest) => "/.".toList ++ Path.text (.segments ([] :: s :: rest))
  | none, path => path.text

/-- A part of a URL behind a mark, if there is one. -/
def markedText (mark : Char) : Option Text → Text
  | none => []
  | some s => mark :: s

/-- The text of a URL. -/
def text (url : Url) : Text :=
  url.scheme ++ ':' :: (url.hierarchyText ++ markedText '?' url.query ++
    markedText '#' url.fragment)

/-- Whether a character is dropped at the ends of a URL. -/
def isOuterBlank (c : Char) : Bool :=
  c.toNat ≤ 32

/-- Whether a character may stand in a scheme. -/
def isSchemeChar (c : Char) : Bool :=
  c.isAlphanum || c == '+' || c == '-' || c == '.'

/-- The rest of a scheme up to its colon, and the text behind it. -/
def schemeRest? : Text → Option (Text × Text)
  | [] => none
  | c :: r =>
    if isDropped c then schemeRest? r
    else if c = ':' then some ([], r)
    else if isSchemeChar c then (schemeRest? r).map fun (s, rest) => (c.toLower :: s, rest)
    else none

/-- The scheme at the head of a text, and the text behind its colon. -/
def readScheme? : Text → Option (Text × Text)
  | [] => none
  | c :: r => if c.isAlpha then schemeRest? (c :: r) else none

/-- Reads a port on from the value of its digits before. A port without digits is none. -/
def readPort (value : Option Nat) : Text → Except Error (Option Nat × Text)
  | [] => .ok (value, [])
  | c :: r =>
    match digit? c with
    | some d =>
      let n := value.getD 0 * 10 + d
      if n < 0x10000 then readPort (some n) r else .error .invalidPort
    | none => if c = '/' ∨ c = '\\' then .ok (value, c :: r) else .error .invalidPort

/-- The text of a host at the head of a text, and the rest; colons inside brackets belong to it. -/
def splitHost (special bracketed : Bool) : Text → Text × Text
  | [] => ([], [])
  | c :: r =>
    if Path.endsSegment special c || (c == ':' && !bracketed) then ([], c :: r)
    else
      let inside := if c = '[' then true else if c = ']' then false else bracketed
      let (host, rest) := splitHost special inside r
      (c :: host, rest)

/-- Reads a host and a port behind a user name and a password. -/
def readHostAndPort (scheme user password s : Text) : Except Error (Authority × Text) := do
  let special := isSpecial scheme
  let (hostText, rest) := splitHost special false s
  let host ← if special then
      if hostText.isEmpty then throw .emptyHost else Host.read hostText
    else Host.readPlain hostText
  match rest with
  | ':' :: r =>
    if host.isEmpty then throw .emptyHost
    let (port, rest) ← readPort none r
    return (⟨user, password, host, if port = defaultPort? scheme then none else port⟩, rest)
  | _ =>
    if host.isEmpty && !(user.isEmpty && password.isEmpty) then throw .emptyHost
    return (⟨user, password, host, none⟩, rest)

/-- Reads an authority behind its two slashes. Whether a query or a fragment follows matters where
nothing does between an empty user name and the end. -/
def readAuthority (scheme s : Text) (followed : Bool) : Except Error (Authority × Text) :=
  let ends := Path.endsSegment (isSpecial scheme)
  match Text.cutLast? '@' (s.takeWhile (!ends ·)) with
  | none => readHostAndPort scheme [] [] s
  | some (info, _) =>
    let rest := s.drop (info.length + 1)
    let ended := match rest with
      | [] => followed
      | c :: _ => ends c
    if info.isEmpty && ended then .error .emptyHost
    else
      let (user, password) := (Text.cut? ':' info).getD (info, [])
      let encode := Percent.encode Percent.staysInUser
      readHostAndPort scheme (encode user) (encode password) rest

/-- Reads the path behind an authority. -/
def readPathBehind (special : Bool) (s : Text) : Path :=
  match s with
  | [] => .segments (if special then [[]] else [])
  | c :: r => .segments (Path.readSegments special (if Path.endsSegment special c then r else s))

/-- Reads what stands between the scheme and the query. -/
def readHierarchy (scheme s : Text) (followed : Bool) :
    Except Error (Option Authority × Path) := do
  if isFileScheme scheme then
    let (host, path) ← readFile s
    return (some ⟨[], [], host, none⟩, path)
  else if isSpecial scheme then
    let s := (withoutDropped s).trimStartWhere (Path.endsSegment true)
    let (authority, rest) ← readAuthority scheme s followed
    return (some authority, readPathBehind true rest)
  else
    match withoutDropped s with
    | '/' :: '/' :: r =>
      let (authority, rest) ← readAuthority scheme r followed
      return (some authority, readPathBehind false rest)
    | '/' :: r => return (none, .segments (Path.readSegments false r))
    | s => return (none, .plain (Percent.encode Percent.staysInPlain s))

/-- A text up to the first mark, and the part behind the mark, if there is one. -/
def splitMarked (mark : Char) (s : Text) : Text × Option Text :=
  match Text.cut? mark s with
  | none => (s, none)
  | some (before, after) => (before, some after)

/-- A part of a URL behind a mark as it is kept. -/
def readMarked (stays : Char → Bool) (part : Option Text) : Option Text :=
  part.map fun s => Percent.encode stays (withoutDropped s)

/-- Reads an absolute URL. -/
def parse (s : Text) : Except Error Url := do
  match readScheme? ((s.trimStartWhere isOuterBlank).trimEndWhere isOuterBlank) with
  | none => throw .relative
  | some (scheme, rest) =>
    let (rest, fragment) := splitMarked '#' rest
    let (rest, query) := splitMarked '?' rest
    let (authority, path) ← readHierarchy scheme rest (query.isSome || fragment.isSome)
    return {
      scheme, authority, path
      query := readMarked (Percent.staysInQuery (isSpecial scheme)) query
      fragment := readMarked Percent.staysInFragment fragment }

end Url

end SearchGateway
