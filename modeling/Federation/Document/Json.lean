import Federation.Document.Hex
import Federation.Document.Value

/-!
# Federation.Document.Json — documents in JSON

A strict reader for JSON: one value, with white space around it and nothing else. Escapes in a
text stand for UTF-16 units, and a text with an unpaired surrogate is well written but holds no
Unicode text; it makes the value `garbled`. A number is an integer if it has neither a fraction
nor an exponent; minus zero is not an integer.

The readers take the text from their position on and return what they read with the rest. Those
that call each other are limited by a number of steps, of which two for every character are
enough.
-/

namespace Federation.Document.Json

/-- Drops white space. -/
def skipSpace (s : List Char) : List Char :=
  s.dropWhile fun c => c = ' ' || c = '\n' || c = '\t' || c = '\r'

/-! ## Texts -/

/-- The character of an escape of one letter. -/
def shortEscape? : Char → Option Char
  | '"' => some '"'
  | '\\' => some '\\'
  | '/' => some '/'
  | 'b' => some '\x08'
  | 'f' => some '\x0c'
  | 'n' => some '\n'
  | 'r' => some '\r'
  | 't' => some '\t'
  | _ => none

/-- A high surrogate. -/
def isHigh (n : Nat) : Bool := 0xD800 ≤ n && n ≤ 0xDBFF

/-- A low surrogate. -/
def isLow (n : Nat) : Bool := 0xDC00 ≤ n && n ≤ 0xDFFF

/-- The code point of a pair of surrogates. -/
def join (high low : Nat) : Nat :=
  0x10000 + (high - 0xD800) * 0x400 + (low - 0xDC00)

/-- The UTF-16 unit of an escape with four digits. -/
def unit? : List Char → Option (Nat × List Char)
  | '\\' :: 'u' :: a :: b :: c :: d :: rest => (hexNat? [a, b, c, d]).map (·, rest)
  | _ => none

/-- Puts a character in front of a text, if there is one. -/
def prepend (c : Char) (r : Option (List Char) × List Char) : Option (List Char) × List Char :=
  (r.1.map (c :: ·), r.2)

/-- A text up to its closing quote; `none` in its place if it is garbled. -/
def textBody (fuel : Nat) (s : List Char) : Option (Option (List Char) × List Char) :=
  match fuel with
  | 0 => none
  | fuel + 1 =>
    match s with
    | '"' :: rest => some (some [], rest)
    | '\\' :: 'u' :: _ => do
      let (n, rest) ← unit? s
      if isHigh n then
        match unit? rest with
        | some (m, rest') =>
          if isLow m then return prepend (Char.ofNat (join n m)) (← textBody fuel rest')
          else return (none, (← textBody fuel rest).2)
        | none => return (none, (← textBody fuel rest).2)
      else if isLow n then return (none, (← textBody fuel rest).2)
      else return prepend (Char.ofNat n) (← textBody fuel rest)
    | '\\' :: c :: rest => do
      let c ← shortEscape? c
      return prepend c (← textBody fuel rest)
    | c :: rest =>
      if c.toNat < 0x20 then none else do return prepend c (← textBody fuel rest)
    | [] => none

/-- A text after its opening quote. -/
def text? (s : List Char) : Option (Option String × List Char) :=
  (textBody (s.length + 1) s).map fun r => (r.1.map String.ofList, r.2)

/-! ## Numbers -/

/-- Splits off the digits at the beginning. -/
def digits (s : List Char) : List Char × List Char :=
  (s.takeWhile Char.isDigit, s.dropWhile Char.isDigit)

/-- The digits before a fraction: a zero, or a number that does not begin with one. -/
def wholePart? : List Char → Option (List Char × List Char)
  | '0' :: rest => some (['0'], rest)
  | s =>
    match digits s with
    | ([], _) => none
    | (ds, rest) => some (ds, rest)

/-- A fraction, if there is one. -/
def fraction? : List Char → Option (List Char × List Char)
  | '.' :: rest =>
    match digits rest with
    | ([], _) => none
    | (ds, rest) => some ('.' :: ds, rest)
  | s => some ([], s)

/-- An exponent, if there is one. -/
def exponent? : List Char → Option (List Char × List Char)
  | e :: rest =>
    if e = 'e' || e = 'E' then
      let (sign, rest) : List Char × List Char := match rest with
        | '+' :: rest => (['+'], rest)
        | '-' :: rest => (['-'], rest)
        | rest => ([], rest)
      match digits rest with
      | ([], _) => none
      | (ds, rest) => some (e :: sign ++ ds, rest)
    else some ([], e :: rest)
  | [] => some ([], [])

/-- A number. -/
def number? (s : List Char) : Option (Value × List Char) := do
  let (negative, s) := match s with
    | '-' :: rest => (true, rest)
    | s => (false, s)
  let (whole, s) ← wholePart? s
  let (fraction, s) ← fraction? s
  let (exponent, s) ← exponent? s
  let n ← Text.Decimal.readNat? whole
  if fraction.isEmpty && exponent.isEmpty && !(negative && n = 0) then
    return (.integer (if negative then -(n : Int) else n), s)
  else
    let sign := if negative then ['-'] else []
    return (.number (String.ofList (sign ++ whole ++ fraction ++ exponent)), s)

/-! ## Values -/

/-- A word that stands for a value. -/
def word? (word : List Char) (v : Value) (s : List Char) : Option (Value × List Char) :=
  if word.isPrefixOf s then some (v, s.drop word.length) else none

/-- The object with the members that were read; `garbled` if one of the keys is. -/
def toObject (members : List (Option String × Value)) : Value :=
  match members.mapM fun m => m.1.map (·, m.2) with
  | some members => .object members
  | none => .garbled

mutual

/-- A value. -/
def value (fuel : Nat) (s : List Char) : Option (Value × List Char) :=
  match fuel with
  | 0 => none
  | fuel + 1 =>
    match s with
    | '"' :: rest => (text? rest).map fun (s, rest) =>
      (match s with
        | some s => .text s
        | none => .garbled, rest)
    | '[' :: rest =>
      match skipSpace rest with
      | ']' :: rest => some (.list [], rest)
      | rest => (items fuel rest).map fun (vs, rest) => (.list vs, rest)
    | '\x7b' :: rest =>
      match skipSpace rest with
      | '\x7d' :: rest => some (.object [], rest)
      | rest => (members fuel rest).map fun (ms, rest) => (toObject ms, rest)
    | 't' :: _ => word? ['t', 'r', 'u', 'e'] (.truth true) s
    | 'f' :: _ => word? ['f', 'a', 'l', 's', 'e'] (.truth false) s
    | 'n' :: _ => word? ['n', 'u', 'l', 'l'] .null s
    | _ => number? s

/-- The items of a list, from the next one on. -/
def items (fuel : Nat) (s : List Char) : Option (List Value × List Char) :=
  match fuel with
  | 0 => none
  | fuel + 1 => do
    let (v, rest) ← value fuel s
    match skipSpace rest with
    | ',' :: rest =>
      let (vs, rest) ← items fuel (skipSpace rest)
      return (v :: vs, rest)
    | ']' :: rest => return ([v], rest)
    | _ => none

/-- The members of an object, from the next one on. -/
def members (fuel : Nat) (s : List Char) : Option (List (Option String × Value) × List Char) :=
  match fuel with
  | 0 => none
  | fuel + 1 =>
    match s with
    | '"' :: rest => do
      let (key, rest) ← text? rest
      match skipSpace rest with
      | ':' :: rest =>
        let (v, rest) ← value fuel (skipSpace rest)
        match skipSpace rest with
        | ',' :: rest =>
          let (ms, rest) ← members fuel (skipSpace rest)
          return ((key, v) :: ms, rest)
        | '\x7d' :: rest => return ([(key, v)], rest)
        | _ => none
      | _ => none
    | _ => none

end

/-- The value of a document. -/
def read? (document : String) : Option Value := do
  let s := document.toList
  let (v, rest) ← value (2 * s.length + 2) (skipSpace s)
  if (skipSpace rest).isEmpty then some v else none

end Federation.Document.Json
