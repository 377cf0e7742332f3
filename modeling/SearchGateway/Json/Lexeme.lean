import SearchGateway.Json.Failure

/-!
# Lexemes

Blanks, words and strings of JSON text. Each reader takes the text that is left and answers with
what it read and the rest behind it, or with a failure.
-/

namespace SearchGateway.Json

/-- Whether a character is white space between lexemes. -/
def isSpace (c : Char) : Bool :=
  c == ' ' || c == '\n' || c == '\t' || c == '\r'

/-- The text from its first lexeme on. -/
def skipSpaces : Text → Text
  | [] => []
  | c :: r => if isSpace c then skipSpaces r else c :: r

/-- Reads the given characters. -/
def readWord : Text → Text → Except Failure Text
  | [], s => .ok s
  | _ :: _, [] => .error (.before .endInValue [])
  | w :: word, c :: r => if w = c then readWord word r else .error (.behind .expectedWord (c :: r))

/-- Reads four hexadecimal digits. -/
def readHex4 (s : Text) : Except Failure (Nat × Text) :=
  match s with
  | a :: b :: c :: d :: r =>
    match hexDigit? a, hexDigit? b, hexDigit? c, hexDigit? d with
    | some a, some b, some c, some d => .ok (((a * 16 + b) * 16 + c) * 16 + d, r)
    | _, _, _, _ => .error ⟨.invalidEscape, s.utf8Size - 4⟩
  | _ =>
    if s.utf8Size < 4 then .error (.before .endInString [])
    else .error ⟨.invalidEscape, s.utf8Size - 4⟩

/-- Whether a code unit is the first half of a surrogate pair. -/
def isHighSurrogate (n : Nat) : Bool :=
  0xD800 ≤ n && n ≤ 0xDBFF

/-- Whether a code unit is the second half of a surrogate pair. -/
def isLowSurrogate (n : Nat) : Bool :=
  0xDC00 ≤ n && n ≤ 0xDFFF

/-- Reads the second half of a surrogate pair, itself an escape. -/
def readLowSurrogate (high : Nat) : Text → Except Failure (Char × Text)
  | [] => .error (.before .endInString [])
  | c :: r =>
    if c ≠ '\\' then .error (.behind .endOfSurrogates (c :: r))
    else
      match r with
      | [] => .error (.before .endInString [])
      | d :: r' =>
        if d ≠ 'u' then .error (.behind .endOfSurrogates (d :: r'))
        else
          match readHex4 r' with
          | .error e => .error e
          | .ok (low, rest) =>
            if isLowSurrogate low then
              .ok (Char.ofNat (0x10000 + (high - 0xD800) * 0x400 + (low - 0xDC00)), rest)
            else .error (.before .loneSurrogate rest)

/-- Reads the character that an escape by code units stands for. -/
def readUnicodeEscape (s : Text) : Except Failure (Char × Text) :=
  match readHex4 s with
  | .error e => .error e
  | .ok (n, rest) =>
    if isLowSurrogate n then .error (.before .loneSurrogate rest)
    else if isHighSurrogate n then readLowSurrogate n rest
    else .ok (Char.ofNat n, rest)

/-- The character that a letter behind a backslash stands for. -/
def simpleEscape? (c : Char) : Option Char :=
  if c = '"' ∨ c = '\\' ∨ c = '/' then some c
  else if c = 'b' then some (Char.ofNat 8)
  else if c = 'f' then some (Char.ofNat 12)
  else if c = 'n' then some '\n'
  else if c = 'r' then some '\r'
  else if c = 't' then some '\t'
  else none

/-- Reads the rest of an escape behind its backslash. -/
def readEscape : Text → Except Failure (Char × Text)
  | [] => .error (.before .endInString [])
  | c :: r =>
    if c = 'u' then readUnicodeEscape r
    else
      match simpleEscape? c with
      | some d => .ok (d, r)
      | none => .error (.behind .invalidEscape (c :: r))

/-- Reads the rest of a string of at most the given number of characters up to its closing
quote. -/
def readStringBody : Nat → Text → Except Failure (Text × Text)
  | 0, s => .error (.before .endInString s)
  | _ + 1, [] => .error (.before .endInString [])
  | n + 1, c :: r =>
    if c = '"' then .ok ([], r)
    else if c = '\\' then
      match readEscape r with
      | .error e => .error e
      | .ok (d, rest) =>
        match readStringBody n rest with
        | .error e => .error e
        | .ok (s, rest) => .ok (d :: s, rest)
    else if c.toNat < 32 then .error (.behind .controlCharacter (c :: r))
    else
      match readStringBody n r with
      | .error e => .error e
      | .ok (s, rest) => .ok (c :: s, rest)

/-- Reads the rest of a string behind its opening quote. -/
def readString (s : Text) : Except Failure (Text × Text) :=
  readStringBody (s.length + 1) s

/-- Reads past the rest of a string of at most the given number of characters, without forming its
characters: code units need not pair up. -/
def skipStringBody : Nat → Text → Except Failure Text
  | 0, s => .error (.before .endInString s)
  | _ + 1, [] => .error (.before .endInString [])
  | n + 1, c :: r =>
    if c = '"' then .ok r
    else if c = '\\' then
      match r with
      | [] => .error (.before .endInString [])
      | d :: r' =>
        if d = 'u' then
          match readHex4 r' with
          | .error e => .error e
          | .ok (_, rest) => skipStringBody n rest
        else if (simpleEscape? d).isSome then skipStringBody n r'
        else .error (.behind .invalidEscape (d :: r'))
    else if c.toNat < 32 then .error (.before .controlCharacter (c :: r))
    else skipStringBody n r

/-- Reads past the rest of a string behind its opening quote. -/
def skipString (s : Text) : Except Failure Text :=
  skipStringBody (s.length + 1) s

end SearchGateway.Json
