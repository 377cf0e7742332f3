import SearchGateway.Text.Blank
import SearchGateway.Text.Word

/-!
# Escaping for Lucene

A value that goes into a Lucene query is escaped so that the query reads it as one literal term: a
backslash makes the character behind it literal. Escaping runs in three passes. The first sets a
backslash before each reserved character and each blank, the second before each doubled ampersand
or bar, and the third before each letter of a boolean keyword that stands as a word of its own.
-/

namespace SearchGateway.Lucene

/-- Whether a character has a meaning of its own in a query. -/
def isReserved (c : Char) : Bool :=
  "*+-=~><\"?^$\x7b\x7d():!/[]\\".toList.contains c

/-- Whether a character is escaped wherever it stands. -/
def needsEscape (c : Char) : Bool :=
  isReserved c || isBlank c

/-- Sets a backslash before each reserved character and each blank. -/
def escapeReserved (s : Text) : Text :=
  s.flatMap fun c => if needsEscape c then ['\\', c] else [c]

/-- Sets a backslash before each pair of ampersands or of bars, the pairs taken from the left. -/
def escapePairs : Text → Text
  | [] => []
  | '&' :: '&' :: r => '\\' :: '&' :: '&' :: escapePairs r
  | '|' :: '|' :: r => '\\' :: '|' :: '|' :: escapePairs r
  | c :: r => c :: escapePairs r

/-- The words that join or negate clauses. -/
def keywords : List Text :=
  ["AND".toList, "OR".toList, "NOT".toList]

/-- Whether a text begins with a word character. -/
def beginsWord : Text → Bool
  | [] => false
  | c :: _ => isWord c

/-- Whether a text begins with a given word that ends there. -/
def beginsWith (word s : Text) : Bool :=
  match s.after? word with
  | none => false
  | some r => !beginsWord r

/-- The length of the keyword that a text begins with, behind a character that is or is not part
of a word; zero if there is none. -/
def keywordLength (behindWord : Bool) (s : Text) : Nat :=
  if behindWord then 0
  else
    match keywords.find? (beginsWith · s) with
    | none => 0
    | some word => word.length

/-- Sets a backslash before each letter of a keyword, of which the given number is still to come,
behind a character that is or is not part of a word. -/
def escapeKeywordsFrom (behindWord : Bool) (letters : Nat) : Text → Text
  | [] => []
  | c :: r =>
    match letters with
    | n + 1 => '\\' :: c :: escapeKeywordsFrom (isWord c) n r
    | 0 =>
      match keywordLength behindWord (c :: r) with
      | n + 1 => '\\' :: c :: escapeKeywordsFrom (isWord c) n r
      | 0 => c :: escapeKeywordsFrom (isWord c) 0 r

/-- Sets a backslash before each letter of a keyword that stands as a word of its own. -/
def escapeKeywords (s : Text) : Text :=
  escapeKeywordsFrom false 0 s

/-- A value as one literal term, or nothing for the empty value, which has no term. -/
def escape? (value : Text) : Option Text :=
  if value.isEmpty then none
  else some (escapeKeywords (escapePairs (escapeReserved value)))

/-- A value as one literal term, or the empty text for the empty value. -/
def escape (value : Text) : Text :=
  (escape? value).getD []

end SearchGateway.Lucene
