import Federation.Document.Hex

/-!
# Federation.Document.Toml.Lexical — characters, texts and keys of TOML

White space, comments and line ends, the four forms of texts, and keys. All readers take the text
from their position on and return what they read with the rest.
-/

namespace Federation.Document.Toml

/-! ## Blank matter -/

/-- White space within a line. -/
def isSpace (c : Char) : Bool := c = ' ' || c = '\t'

/-- A character that may stand in a comment: no control character but the tab. -/
def isPlain (c : Char) : Bool := c = '\t' || (0x20 ≤ c.toNat && c.toNat ≠ 0x7F)

/-- Drops white space within a line. -/
def skipSpace (s : List Char) : List Char := s.dropWhile isSpace

/-- Drops white space and a comment. -/
def skipComment (s : List Char) : List Char :=
  match skipSpace s with
  | '#' :: rest => rest.dropWhile isPlain
  | rest => rest

/-- Takes a line end: a line feed, alone or after a carriage return. -/
def newline? : List Char → Option (List Char)
  | '\n' :: rest => some rest
  | '\r' :: '\n' :: rest => some rest
  | _ => none

/-- Drops white space, comments and line ends, at most `fuel` lines. -/
def skipLines (fuel : Nat) (s : List Char) : List Char :=
  match fuel with
  | 0 => s
  | fuel + 1 =>
    match newline? (skipComment s) with
    | some rest => skipLines fuel rest
    | none => skipComment s

/-- Drops white space, comments and line ends. -/
def skipBlank (s : List Char) : List Char := skipLines (s.length + 1) s

/-- Takes the end of a line, before which there may be a comment. -/
def lineEnd? (s : List Char) : Option (List Char) :=
  match skipComment s with
  | [] => some []
  | rest => newline? rest

/-! ## Texts -/

/-- The character with a code point, unless it is a surrogate or beyond the last one. -/
def codePoint? (n : Nat) : Option Char :=
  if n.isValidChar then some (Char.ofNat n) else none

/-- The character of an escape, after the backslash. -/
def escape? : List Char → Option (Char × List Char)
  | 'b' :: rest => some ('\x08', rest)
  | 't' :: rest => some ('\t', rest)
  | 'n' :: rest => some ('\n', rest)
  | 'f' :: rest => some ('\x0c', rest)
  | 'r' :: rest => some ('\r', rest)
  | '"' :: rest => some ('"', rest)
  | '\\' :: rest => some ('\\', rest)
  | 'u' :: a :: b :: c :: d :: rest => do
    let n ← hexNat? [a, b, c, d]
    return (← codePoint? n, rest)
  | 'U' :: a :: b :: c :: d :: e :: f :: g :: h :: rest => do
    let n ← hexNat? [a, b, c, d, e, f, g, h]
    return (← codePoint? n, rest)
  | _ => none

/-- Puts characters in front of what was read. -/
def prepend (cs : List Char) (r : List Char × List Char) : List Char × List Char :=
  (cs ++ r.1, r.2)

/-- A text with escapes on one line, up to its closing quote. -/
def basicBody (fuel : Nat) (s : List Char) : Option (List Char × List Char) :=
  match fuel with
  | 0 => none
  | fuel + 1 =>
    match s with
    | '"' :: rest => some ([], rest)
    | '\\' :: rest => do
      let (c, rest) ← escape? rest
      return prepend [c] (← basicBody fuel rest)
    | c :: rest => if isPlain c then do return prepend [c] (← basicBody fuel rest) else none
    | [] => none

/-- A text without escapes on one line, up to its closing apostrophe. -/
def literalBody : List Char → Option (List Char × List Char)
  | '\x27' :: rest => some ([], rest)
  | c :: rest => if isPlain c then (literalBody rest).map (prepend [c]) else none
  | [] => none

/-- Drops white space and line ends. -/
def skipEmptyLines : List Char → List Char
  | '\r' :: '\n' :: rest => skipEmptyLines rest
  | c :: rest => if isSpace c || c = '\n' then skipEmptyLines rest else c :: rest
  | [] => []

/-- A backslash at the end of a line takes away the line end and all white space after it. -/
def continuation? (s : List Char) : Option (List Char) :=
  (newline? (skipSpace s)).map skipEmptyLines

/-- A text with escapes on several lines, up to its closing quotes. Up to two quotes before the
closing ones belong to the text. -/
def longBasicBody (fuel : Nat) (s : List Char) : Option (List Char × List Char) :=
  match fuel with
  | 0 => none
  | fuel + 1 =>
    match s with
    | '"' :: '"' :: '"' :: '"' :: '"' :: rest => some (['"', '"'], rest)
    | '"' :: '"' :: '"' :: '"' :: rest => some (['"'], rest)
    | '"' :: '"' :: '"' :: rest => some ([], rest)
    | '\\' :: rest =>
      match continuation? rest with
      | some rest => longBasicBody fuel rest
      | none => do
        let (c, rest) ← escape? rest
        return prepend [c] (← longBasicBody fuel rest)
    | '\r' :: '\n' :: rest | '\n' :: rest => do return prepend ['\n'] (← longBasicBody fuel rest)
    | c :: rest => if isPlain c then do return prepend [c] (← longBasicBody fuel rest) else none
    | [] => none

/-- A text without escapes on several lines, up to its closing apostrophes. -/
def longLiteralBody : List Char → Option (List Char × List Char)
  | '\x27' :: '\x27' :: '\x27' :: '\x27' :: '\x27' :: rest => some (['\x27', '\x27'], rest)
  | '\x27' :: '\x27' :: '\x27' :: '\x27' :: rest => some (['\x27'], rest)
  | '\x27' :: '\x27' :: '\x27' :: rest => some ([], rest)
  | '\r' :: '\n' :: rest => (longLiteralBody rest).map (prepend ['\n'])
  | c :: rest =>
    if c = '\n' || isPlain c then (longLiteralBody rest).map (prepend [c]) else none
  | [] => none

/-- Drops a line end that follows the opening quotes of a text on several lines. -/
def skipNewline (s : List Char) : List Char := (newline? s).getD s

/-- A text on one line. -/
def shortText? : List Char → Option (List Char × List Char)
  | '"' :: rest => basicBody (rest.length + 1) rest
  | '\x27' :: rest => literalBody rest
  | _ => none

/-- A text in any of the four forms. -/
def text? : List Char → Option (List Char × List Char)
  | '"' :: '"' :: '"' :: rest => longBasicBody (rest.length + 1) (skipNewline rest)
  | '\x27' :: '\x27' :: '\x27' :: rest => longLiteralBody (skipNewline rest)
  | s => shortText? s

/-! ## Keys -/

/-- A character of a key without quotes. -/
def isKeyChar (c : Char) : Bool := c.isAlphanum || c = '-' || c = '_'

/-- A key without dots: bare, or a text on one line. -/
def simpleKey? (s : List Char) : Option (String × List Char) :=
  match s with
  | '"' :: _ | '\x27' :: _ => (shortText? s).map fun r => (String.ofList r.1, r.2)
  | _ =>
    match s.takeWhile isKeyChar with
    | [] => none
    | name => some (String.ofList name, s.dropWhile isKeyChar)

/-- The parts of a key, from the next one on. -/
def keyParts (fuel : Nat) (s : List Char) : Option (List String × List Char) :=
  match fuel with
  | 0 => none
  | fuel + 1 => do
    let (part, rest) ← simpleKey? (skipSpace s)
    match skipSpace rest with
    | '.' :: rest =>
      let (parts, rest) ← keyParts fuel rest
      return (part :: parts, rest)
    | rest => return ([part], rest)

/-- The greatest depth of nesting, in keys and in values. -/
def depthLimit : Nat := 79

/-- A key, which may have several parts with dots between them. -/
def key? (s : List Char) : Option (List String × List Char) :=
  keyParts depthLimit s

end Federation.Document.Toml
