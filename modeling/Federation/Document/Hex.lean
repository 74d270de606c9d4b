/-!
# Federation.Document.Hex — code points in escapes

The hexadecimal numbers by which escapes in texts name their characters.
-/

namespace Federation.Document

/-- The value of a hexadecimal digit of either case. -/
def hexDigit? (c : Char) : Option Nat :=
  if '0' ≤ c ∧ c ≤ '9' then some (c.toNat - 48)
  else if 'a' ≤ c ∧ c ≤ 'f' then some (c.toNat - 87)
  else if 'A' ≤ c ∧ c ≤ 'F' then some (c.toNat - 55)
  else none

/-- The value of a sequence of hexadecimal digits. -/
def hexNat? (digits : List Char) : Option Nat :=
  digits.foldlM (fun acc c => (hexDigit? c).map (acc * 16 + ·)) 0

end Federation.Document
