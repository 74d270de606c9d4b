/-!
# Federation.Text.Decimal — integers in decimal

The canonical text of an integer, and the reader of integer texts. The reader is more liberal
than the writer: it takes one sign of either kind and any number of leading zeros. It never
wraps: a text whose value lies outside the 32-bit range is refused, however long it is.
-/

namespace Federation.Text.Decimal

/-! ## Writing -/

/-- The canonical text of an integer: no leading zero, and a sign only when it is negative. -/
def write : Int → List Char
  | .ofNat n => Nat.toDigits 10 n
  | .negSucc n => '-' :: Nat.toDigits 10 (n + 1)

/-- The canonical text of a 32-bit integer. -/
def writeInt32 (n : Int32) : String :=
  String.ofList (write n.toInt)

/-! ## Reading -/

/-- The value of a digit `0`–`9`. -/
def digit? (c : Char) : Option Nat :=
  if '0' ≤ c ∧ c ≤ '9' then some (c.toNat - 48) else none

/-- Continues a number whose digits so far have the value `acc`. -/
def readDigits? (acc : Nat) : List Char → Option Nat
  | [] => some acc
  | c :: rest => do
    let d ← digit? c
    readDigits? (acc * 10 + d) rest

/-- A non-empty sequence of digits. -/
def readNat? : List Char → Option Nat
  | [] => none
  | c :: rest => readDigits? 0 (c :: rest)

/-- An optional `+` or `-` before a non-empty sequence of digits. -/
def read? : List Char → Option Int
  | '+' :: rest => (readNat? rest).map Int.ofNat
  | '-' :: rest => (readNat? rest).map fun n => -Int.ofNat n
  | text => (readNat? text).map Int.ofNat

/-- The 32-bit integer of a value, if it is in range. -/
def toInt32? (n : Int) : Option Int32 :=
  if -2147483648 ≤ n ∧ n ≤ 2147483647 then some (Int32.ofInt n) else none

/-- A text read as a 32-bit integer. -/
def readInt32? (text : String) : Option Int32 :=
  (read? text.toList).bind toInt32?

end Federation.Text.Decimal
