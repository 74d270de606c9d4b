import Federation.Document.Value

/-!
# Federation.Document.Toml.Moment — dates and times in TOML

Dates, times of day, and both together, with or without an offset. A moment has no value type of
its own: it stands for an object with one private member, its canonical text.
-/

namespace Federation.Document.Toml

/-- A date and time of day, of which some parts may be missing. -/
structure Moment where
  date : Option (Nat × Nat × Nat)
  /-- Hour, minute, second and nanosecond. -/
  time : Option (Nat × Nat × Nat × Nat)
  /-- Minutes ahead of universal time; `none` within is the letter `Z`. -/
  offset : Option (Option Int)

namespace Moment

/-! ## Writing -/

/-- A number in decimal with zeros in front, up to a width. -/
def padded (width n : Nat) : List Char :=
  let ds := Nat.toDigits 10 n
  List.replicate (width - ds.length) '0' ++ ds

/-- A fraction of a second, without zeros at its end. -/
def fractionText (nanosecond : Nat) : List Char :=
  if nanosecond = 0 then []
  else '.' :: ((padded 9 nanosecond).reverse.dropWhile (· = '0')).reverse

/-- The text of an offset. -/
def offsetText : Option Int → List Char
  | none => ['Z']
  | some m =>
    (if m < 0 then '-' else '+') :: (padded 2 (m.natAbs / 60) ++ ':' :: padded 2 (m.natAbs % 60))

/-- The canonical text of a moment. -/
def text (m : Moment) : List Char :=
  let date := match m.date with
    | some (y, mo, d) => padded 4 y ++ '-' :: padded 2 mo ++ '-' :: padded 2 d
    | none => []
  let time := match m.time with
    | some (h, mi, s, ns) =>
      padded 2 h ++ ':' :: padded 2 mi ++ ':' :: padded 2 s ++ fractionText ns
    | none => []
  let separator := if m.date.isSome && m.time.isSome then ['T'] else []
  date ++ separator ++ time ++ (m.offset.map offsetText).getD []

/-- The key of the private member. -/
def privateKey : String := "$__toml_private_datetime"

/-- The value that a moment stands for. -/
def toValue (m : Moment) : Value :=
  .object [(privateKey, .text (String.ofList m.text))]

/-! ## Reading -/

/-- A number of exactly so many digits, within bounds. -/
def field? (width low high : Nat) (s : List Char) : Option (Nat × List Char) := do
  let ds := s.take width
  if ds.length = width && ds.all Char.isDigit then
    let n ← Text.Decimal.readNat? ds
    if low ≤ n && n ≤ high then some (n, s.drop width) else none
  else none

/-- A given character. -/
def mark? (c : Char) : List Char → Option (List Char)
  | d :: rest => if d = c then some rest else none
  | [] => none

/-- The number of days of a month. -/
def daysIn (year month : Nat) : Nat :=
  if month = 2 then
    if year % 4 = 0 && (year % 100 ≠ 0 || year % 400 = 0) then 29 else 28
  else if month = 4 || month = 6 || month = 9 || month = 11 then 30
  else 31

/-- A date that exists. -/
def date? (s : List Char) : Option ((Nat × Nat × Nat) × List Char) := do
  let (y, s) ← field? 4 0 9999 s
  let s ← mark? '-' s
  let (m, s) ← field? 2 1 12 s
  let s ← mark? '-' s
  let (d, s) ← field? 2 1 31 s
  if d ≤ daysIn y m then some ((y, m, d), s) else none

/-- A fraction of a second in nanoseconds; further digits are cut off. -/
def fraction : List Char → Nat × List Char
  | '.' :: rest =>
    match rest.takeWhile Char.isDigit with
    | [] => (0, '.' :: rest)
    | ds =>
      let nine := ds.take 9
      (nine.foldl (fun acc c => acc * 10 + (c.toNat - 48)) 0 * Nat.pow 10 (9 - nine.length),
        rest.dropWhile Char.isDigit)
  | s => (0, s)

/-- A time of day; a minute may have a leap second. -/
def time? (s : List Char) : Option ((Nat × Nat × Nat × Nat) × List Char) := do
  let (h, s) ← field? 2 0 23 s
  let s ← mark? ':' s
  let (m, s) ← field? 2 0 59 s
  let s ← mark? ':' s
  let (sec, s) ← field? 2 0 60 s
  let (ns, s) := fraction s
  some ((h, m, sec, ns), s)

/-- An offset from universal time. -/
def offset? : List Char → Option (Option Int × List Char)
  | c :: s =>
    if c = 'Z' || c = 'z' then some (none, s)
    else if c = '+' || c = '-' then do
      let (h, s) ← field? 2 0 23 s
      let s ← mark? ':' s
      let (m, s) ← field? 2 0 59 s
      let minutes : Int := h * 60 + m
      some (some (if c = '-' then -minutes else minutes), s)
    else none
  | [] => none

/-- A time of day with or without an offset, after a date and a separator. -/
def clock? : List Char → Option (((Nat × Nat × Nat × Nat) × Option (Option Int)) × List Char)
  | c :: s =>
    if c = 'T' || c = 't' || c = ' ' then do
      let (time, s) ← time? s
      match offset? s with
      | some (offset, s) => some ((time, some offset), s)
      | none => some ((time, none), s)
    else none
  | [] => none

/-- A moment. -/
def read? (s : List Char) : Option (Moment × List Char) :=
  match date? s with
  | some (date, s) =>
    match clock? s with
    | some ((time, offset), s) => some (⟨some date, some time, offset⟩, s)
    | none => some (⟨some date, none, none⟩, s)
  | none => (time? s).map fun (time, s) => (⟨none, some time, none⟩, s)

end Moment

end Federation.Document.Toml
