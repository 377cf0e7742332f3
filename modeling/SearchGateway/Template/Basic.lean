import SearchGateway.Entries
import SearchGateway.Error
import SearchGateway.Lucene.Escape
import SearchGateway.Template.Tag

/-!
# Templates

A template is a text with tags for parameters, such as `message:<%= parameter["level"] %>`. Reading
cuts it into characters that stand for themselves and references to parameters. Substitution puts
a parameter's value, transformed as its surroundings need, in the place of each reference; what was
put in is not read again.
-/

namespace SearchGateway

/-- Parameter values by name. -/
abbrev Parameters := Entries Text

namespace Template

/-- A piece of a template. -/
inductive Piece where
  /-- A character that stands for itself. -/
  | literal (c : Char)
  /-- A reference to a parameter by its name. -/
  | reference (name : Text)
  deriving DecidableEq, Repr

/-- Reads a tag that references a parameter: its name, and the text behind it. -/
def readReference? (s : Text) : Option (Text × Text) :=
  Tag.read? "parameter".toList s

/-- The pieces of a text, from left to right. -/
def pieces (s : Text) : List Piece :=
  match _h : readReference? s with
  | some (name, rest) => .reference name :: pieces rest
  | none =>
    match s with
    | [] => []
    | c :: r => .literal c :: pieces r
termination_by s.length
decreasing_by
  · exact Tag.length_lt_of_read? _h
  · simp

/-- The canonical form of a piece, with a tag's name in single quotes. -/
def Piece.text : Piece → Text
  | .literal c => [c]
  | .reference name => "<%= parameter['".toList ++ name ++ "'] %>".toList

/-- The parameter that a piece references. -/
def Piece.name? : Piece → Option Text
  | .literal _ => none
  | .reference name => some name

/-- A text with every tag in its canonical form, without double quotes of its own. -/
def normalize (s : Text) : Text :=
  (pieces s).flatMap Piece.text

/-- The names of all referenced parameters, in order of appearance. -/
def names (s : Text) : List Text :=
  (pieces s).filterMap Piece.name?

/-- Whether a text references any parameter. -/
def hasReferences (s : Text) : Bool :=
  (pieces s).any fun piece => piece.name?.isSome

/-- How a value is transformed before it takes the place of its reference. -/
inductive Mode where
  /-- Not at all, for a text that is read as JSON afterwards. -/
  | verbatim
  /-- Escaped for Lucene. -/
  | lucene
  /-- Escaped for Lucene, and again for the inside of a JSON string. -/
  | luceneInJson
  deriving DecidableEq, Repr

/-- The transformed value. -/
def Mode.apply : Mode → Text → Text
  | .verbatim, value => value
  | .lucene, value => Lucene.escape value
  | .luceneInJson, value => Json.escape (Lucene.escape value)

/-- The value of a parameter, where there may be no parameters at all. -/
def valueOf (parameters : Option Parameters) (name : Text) : Except Error Text :=
  match parameters with
  | none => .error (.missingParameter name true)
  | some parameters =>
    match parameters.get? name with
    | none => .error (.missingParameter name false)
    | some value => .ok value

/-- Puts the pieces together, with a text for each reference; the first one without a text is an
error. -/
def expand (value : Text → Except Error Text) : List Piece → Except Error Text
  | [] => .ok []
  | .literal c :: rest => do
    let tail ← expand value rest
    return c :: tail
  | .reference name :: rest => do
    let head ← value name
    let tail ← expand value rest
    return head ++ tail

/-- Puts transformed parameter values in the place of all references. -/
def substitute (s : Text) (parameters : Option Parameters) (mode : Mode) : Except Error Text :=
  expand (fun name => (valueOf parameters name).map mode.apply) (pieces s)

end Template

end SearchGateway
