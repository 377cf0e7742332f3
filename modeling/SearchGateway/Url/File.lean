import SearchGateway.Url.Host
import SearchGateway.Url.Path

/-!
# Local files

The host and the path of a file URL. A path may begin with a drive letter, which is written with a
colon and stands without a host. Only the very first segment counts as one: an empty segment in
front of it keeps it from being read so, although the path is then written without that segment.
-/

namespace SearchGateway.Url

/-- Whether a character is dropped wherever it stands in a URL. -/
def isDropped (c : Char) : Bool :=
  c == '\t' || c == '\n' || c == '\r'

/-- A text without the characters that a URL drops. -/
def withoutDropped (s : Text) : Text :=
  s.filter (!isDropped ·)

namespace FilePath

/-- A drive letter at the head of a segment, and the text behind it, where a dropped character sets
the two apart. They become segments of their own. -/
def cutDrive? (raw : Text) : Option (Text × Text) :=
  match raw.dropWhile isDropped with
  | [] => none
  | c :: r =>
    match r.dropWhile isDropped with
    | ':' :: d :: r =>
      let behind := withoutDropped r
      if c.isAlpha && isDropped d && !behind.isEmpty then some ([c, ':'], behind) else none
    | _ => none

/-- A segment that is a drive letter, written with a colon. -/
def drive? : Text → Option Text
  | [c, d] => if Path.isDrive c d then some [c, ':'] else none
  | _ => none

/-- Resolves the segments that stand for places, behind the segments done so far, and tells whether
a drive letter came first. -/
def resolve (done : List Text) : List Text → List Text × Bool
  | [] => (done, false)
  | raw :: rest =>
    let encode := Percent.encode Percent.staysInPath
    let s := encode (withoutDropped raw)
    match if done.isEmpty then cutDrive? raw else none with
    | some (drive, behind) => resolve [drive, encode behind] rest
    | none =>
      match if done.isEmpty then drive? s else none with
      | some drive => ((resolve [drive] rest).1, true)
      | none => resolve (Path.add rest.isEmpty done s) rest

/-- Reads the segments of a path, which has no empty ones in front of others, and tells whether a
drive letter came first. -/
def readSegments (s : Text) : List Text × Bool :=
  let (segments, drive) := resolve [] (s.pieces (Path.endsSegment true))
  match segments.dropWhile (·.isEmpty) with
  | [] => ([[]], drive)
  | kept => (kept, drive)

end FilePath

/-- The rest of a text behind a slash or a backslash at its head. -/
def behindSlash? (s : Text) : Option Text :=
  match s.dropWhile isDropped with
  | [] => none
  | c :: r => if Path.endsSegment true c then some r else none

/-- Reads the host of a file URL behind its two slashes, and the text of its path. A drive letter
there belongs to the path, and the local machine needs no name. -/
def readFileHost (s : Text) : Except Error (Host × Text) := do
  let raw := s.takeWhile (!Path.endsSegment true ·)
  let hostText := withoutDropped raw
  let rest := s.drop raw.length
  if (FilePath.drive? hostText).isSome then return (.name [], s)
  if hostText.isEmpty then return (.name [], rest)
  let host ← Host.read hostText
  if host = .name "localhost".toList then return (.name [], rest)
  return (host, (behindSlash? rest).getD rest)

/-- Reads the host and the path of a file URL. A host before a drive letter is dropped. -/
def readFile (s : Text) : Except Error (Host × Path) := do
  let (host, pathText) ← match behindSlash? s with
    | none => pure (.name [], s)
    | some r =>
      match behindSlash? r with
      | none => pure (.name [], r)
      | some r => readFileHost r
  let (segments, drive) := FilePath.readSegments pathText
  return (if drive then .name [] else host, .segments segments)

end SearchGateway.Url
