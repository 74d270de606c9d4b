import Federation.Text.Casing.Table

/-!
# Federation.Text.Casing — lower-casing

Full lower-casing by the Unicode rules, independent of any language. Every character is replaced
by its small letter, if it has one. Two characters need more than the table: the capital I with a
dot becomes two characters, and a capital sigma has a form of its own at the end of a word.
-/

namespace Federation.Text

/-! ## Single characters -/

/-- Whether the run holds the code point. -/
def Casing.Run.holds (r : Casing.Run) (n : Nat) : Bool :=
  r.first ≤ n && n ≤ r.last && (n - r.first) % r.step == 0

/-- The small letter of a capital one; any other character is its own. -/
def Casing.small (c : Char) : Char :=
  match Casing.capitals.find? (·.holds c.toNat) with
  | some r => Char.ofNat (r.image + (c.toNat - r.first))
  | none => c

/-- The lower-case form of a character, the sigma apart. -/
def Casing.lower (c : Char) : List Char :=
  if c = 'İ' then ['i', '\u0307'] else [Casing.small c]

/-! ## The final sigma -/

/-- Whether the first character that is not ignorable is a cased one. -/
def Casing.meetsCased (text : List Char) : Bool :=
  match text.dropWhile (inRanges Casing.ignorable) with
  | c :: _ => inRanges Casing.cased c
  | [] => false

/-- The small sigma between what comes before it, nearest first, and what follows: the final form
if there is a letter before but none after it. -/
def Casing.sigma (before after : List Char) : Char :=
  if Casing.meetsCased before && !Casing.meetsCased after then 'ς' else 'σ'

/-! ## Texts -/

/-- Lower-cases the rest of a text whose beginning, nearest first, was `before`. -/
def Casing.lowerFrom (before : List Char) : List Char → List Char
  | [] => []
  | c :: rest =>
    (if c = 'Σ' then [Casing.sigma before rest] else Casing.lower c) ++
      Casing.lowerFrom (c :: before) rest

/-- The lower-case form of a text. -/
def lowercase (s : String) : String :=
  String.ofList (Casing.lowerFrom [] s.toList)

end Federation.Text
