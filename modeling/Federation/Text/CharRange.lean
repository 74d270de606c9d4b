/-!
# Federation.Text.CharRange — sets of characters as ranges

A property of characters given as a list of closed ranges of code points.
-/

namespace Federation.Text

/-- A closed range of code points. -/
structure CharRange where
  first : Nat
  last : Nat
deriving DecidableEq

/-- Whether a range holds the character. -/
def CharRange.holds (r : CharRange) (c : Char) : Bool :=
  r.first ≤ c.toNat && c.toNat ≤ r.last

/-- Whether one of the ranges holds the character. -/
def inRanges (ranges : List CharRange) (c : Char) : Bool :=
  ranges.any (·.holds c)

end Federation.Text
