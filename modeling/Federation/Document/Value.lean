import Federation.Collection.Dict
import Federation.Text.Decimal

/-!
# Federation.Document.Value — what a document says

The values that documents are made of, whatever their notation. An object is the list of its
members as they stand in the document, so a key may occur more than once. Readers take a value as
one of the types that fields of records have, and refuse every other value.
-/

namespace Federation.Document

/-- A value of a document. -/
inductive Value where
  | null
  | truth (b : Bool)
  | integer (n : Int)
  /-- A number that is not written as an integer, as it is written. -/
  | number (text : String)
  | text (s : String)
  | list (items : List Value)
  | object (members : List (String × Value))
  /-- A text, or an object with a key, that is written correctly but holds no Unicode text. -/
  | garbled

namespace Value

/-- A text. -/
def text? : Value → Option String
  | text s => some s
  | _ => none

/-- A truth value. -/
def truth? : Value → Option Bool
  | truth b => some b
  | _ => none

/-- An integer of 32 bits with sign. -/
def int32? : Value → Option Int32
  | integer n => Text.Decimal.toInt32? n
  | _ => none

/-- An integer of 64 bits without sign. -/
def uint64? : Value → Option UInt64
  | integer n => if 0 ≤ n ∧ n ≤ 18446744073709551615 then some (UInt64.ofNat n.toNat) else none
  | _ => none

/-- A value, or `null` for its absence. -/
def orNull? {α : Type} (read : Value → Option α) : Value → Option (Option α)
  | null => some none
  | v => (read v).map some

/-- The members of an object of texts. -/
def textMembers? : List (String × Value) → Option (List (String × String))
  | [] => some []
  | (key, v) :: rest => do
    let s ← v.text?
    let others ← textMembers? rest
    some ((key, s) :: others)

/-- An object of texts; of several members with one key the last counts. -/
def texts? : Value → Option (Dict String String)
  | object members => (textMembers? members).map Dict.ofList
  | _ => none

end Value

end Federation.Document
