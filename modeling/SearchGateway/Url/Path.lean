import SearchGateway.Url.Percent

/-!
# Paths

The path of a URL: segments between slashes, or one plain text where a URL has neither a host nor
a leading slash. A segment of one dot stands for its own place and a segment of two dots for the
place above, in plain or percent-encoded form; both are resolved away. A segment that begins with
a drive letter is never left by going up.
-/

namespace SearchGateway.Url

/-- The path of a URL. -/
inductive Path where
  | segments (list : List Text)
  | plain (text : Text)
  deriving DecidableEq, Repr

namespace Path

/-- The text of a path; every segment follows a slash. -/
def text : Path → Text
  | .segments list => list.flatMap ('/' :: ·)
  | .plain s => s

/-- Whether a segment stands for its own place. -/
def isHere (segment : Text) : Bool :=
  [".".toList, "%2e".toList].contains segment.toLowerAscii

/-- Whether a segment stands for the place above. -/
def isAbove (segment : Text) : Bool :=
  ["..".toList, ".%2e".toList, "%2e.".toList, "%2e%2e".toList].contains segment.toLowerAscii

/-- Whether two characters are a drive letter: an ASCII letter before a colon or a bar. -/
def isDrive (c d : Char) : Bool :=
  c.isAlpha && (d == ':' || d == '|')

/-- Whether a segment begins with a drive letter that ends there or at a backslash. -/
def beginsWithDrive : Text → Bool
  | [c, d] => isDrive c d
  | c :: d :: '\\' :: _ => isDrive c d
  | _ => false

/-- The place above the given segments. -/
def goUp (done : List Text) : List Text :=
  if (done.getLast?.map beginsWithDrive).getD false then done else done.dropLast

/-- The segments with one more behind them. One that stands for a place leaves an empty segment if
it is the last, so that the path still ends with a slash. -/
def add (last : Bool) (done : List Text) (s : Text) : List Text :=
  if isAbove s then goUp done ++ (if last then [[]] else [])
  else if isHere s then done ++ (if last then [[]] else [])
  else done ++ [s]

/-- Resolves the segments that stand for places, behind the segments done so far. -/
def resolve (done : List Text) : List Text → List Text
  | [] => done
  | s :: rest => resolve (add rest.isEmpty done s) rest

/-- Whether a character ends a segment; in a special scheme a backslash does too. -/
def endsSegment (special : Bool) (c : Char) : Bool :=
  c == '/' || (special && c == '\\')

/-- Reads the segments behind a leading slash. -/
def readSegments (special : Bool) (s : Text) : List Text :=
  resolve [] ((s.pieces (endsSegment special)).map (Percent.encode Percent.staysInPath))

end Path

end SearchGateway.Url
