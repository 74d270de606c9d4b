import Federation.Document.Hex
import Federation.Document.Value

/-!
# Federation.Document.Toml.Number — numbers in TOML

Integers in four bases, which must fit into 64 bits with sign, and floating-point numbers, of
which only the text is kept; one that is too large to be represented is refused. Underscores may
separate digits.
-/

namespace Federation.Document.Toml

/-! ## Digits -/

/-- Digits with single underscores between them, after the first digit. -/
def moreDigits? (isDigit : Char → Bool) : List Char → Option (List Char × List Char)
  | '_' :: c :: rest =>
    if isDigit c then (moreDigits? isDigit rest).map fun r => (c :: r.1, r.2) else none
  | c :: rest =>
    if isDigit c then (moreDigits? isDigit rest).map fun r => (c :: r.1, r.2)
    else if c = '_' then none
    else some ([], c :: rest)
  | [] => some ([], [])

/-- A digit, then digits with single underscores between them. -/
def digits? (isDigit : Char → Bool) : List Char → Option (List Char × List Char)
  | c :: rest =>
    if isDigit c then (moreDigits? isDigit rest).map fun r => (c :: r.1, r.2) else none
  | [] => none

/-- A sign, if there is one, and whether it is a minus. -/
def sign : List Char → Bool × List Char
  | '+' :: rest => (false, rest)
  | '-' :: rest => (true, rest)
  | s => (false, s)

/-- A decimal number without leading zeros. -/
def decimal? : List Char → Option (List Char × List Char)
  | '0' :: rest => some (['0'], rest)
  | s => digits? Char.isDigit s

/-- The number that digits of a base stand for. -/
def valueOf (base : Nat) (digits : List Char) : Nat :=
  digits.foldl (fun acc c => acc * base + (hexDigit? c).getD 0) 0

/-! ## Integers -/

/-- An integer that fits into 64 bits with sign. -/
def fitted? (n : Int) : Option Value :=
  if -9223372036854775808 ≤ n ∧ n ≤ 9223372036854775807 then some (.integer n) else none

/-- A number in a base that its first characters announce. -/
def based? (base : Nat) (isDigit : Char → Bool) (s : List Char) : Option (Value × List Char) := do
  let (ds, rest) ← digits? isDigit s
  return (← fitted? (valueOf base ds), rest)

/-- An integer. -/
def integer? : List Char → Option (Value × List Char)
  | '0' :: 'x' :: rest => based? 16 (fun c => (hexDigit? c).isSome) rest
  | '0' :: 'o' :: rest => based? 8 (fun c => '0' ≤ c && c ≤ '7') rest
  | '0' :: 'b' :: rest => based? 2 (fun c => c = '0' || c = '1') rest
  | s => do
    let (negative, rest) := sign s
    let (ds, rest) ← decimal? rest
    let n : Int := valueOf 10 ds
    return (← fitted? (if negative then -n else n), rest)

/-! ## Floating-point numbers -/

/-- The least number that is rounded to infinity, in 64-bit floating point. -/
def infinityBound : Nat := Nat.pow 2 1024 - Nat.pow 2 970

/-- Whether `digits · 10 ^ exponent` is too large to be represented. The comparison is made only
for exponents between which it can go either way. -/
def overflows (digits : List Char) (exponent : Int) : Bool :=
  let significant := digits.dropWhile (· = '0')
  let magnitude : Int := significant.length + exponent
  if significant.isEmpty || magnitude < 309 then false
  else if 309 < magnitude then true
  else
    let n := valueOf 10 significant
    if 0 ≤ exponent then infinityBound ≤ n * Nat.pow 10 exponent.toNat
    else infinityBound * Nat.pow 10 (-exponent).toNat ≤ n

/-- A fraction, after its point. -/
def fraction? : List Char → Option (List Char × List Char)
  | '.' :: rest => digits? Char.isDigit rest
  | _ => none

/-- An exponent. -/
def exponent? : List Char → Option (Int × List Char)
  | e :: rest =>
    if e = 'e' || e = 'E' then do
      let (negative, rest) := sign rest
      let (ds, rest) ← digits? Char.isDigit rest
      let n : Int := valueOf 10 ds
      return (if negative then -n else n, rest)
    else none
  | [] => none

/-- A word for a special number: infinity, or no number. -/
def special? (s : List Char) : Option (Value × List Char) :=
  match (sign s).2 with
  | 'i' :: 'n' :: 'f' :: rest => some (.number "inf", rest)
  | 'n' :: 'a' :: 'n' :: rest => some (.number "nan", rest)
  | _ => none

/-- A decimal number with a fraction, an exponent or both. A negative one may be too large. -/
def plainFloat? (s : List Char) : Option (Value × List Char) := do
  let (negative, rest) := sign s
  let (whole, rest) ← decimal? rest
  let (fraction, exponent, rest) ← match exponent? rest with
    | some (e, rest) => some ([], e, rest)
    | none => do
      let (ds, rest) ← fraction? rest
      match exponent? rest with
      | some (e, rest) => some (ds, e, rest)
      | none => some (ds, 0, rest)
  if !negative && overflows (whole ++ fraction) (exponent - fraction.length) then none
  else return (.number (String.ofList (s.take (s.length - rest.length))), rest)

/-- A floating-point number. -/
def float? (s : List Char) : Option (Value × List Char) :=
  plainFloat? s <|> special? s

end Federation.Document.Toml
