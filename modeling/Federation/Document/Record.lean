import Federation.Document.Value

/-!
# Federation.Document.Record — records in documents

How a record of fixed fields stands in a document. It is written as an object with all its fields.
It is read from an object whose members may stand in any order and may include others, which are
ignored; a field must not be given twice, and may be left out only if it has a default. It is also
read from a list of the fields in the order of their declaration, where fields may be left out
only at the end. Both directions follow from the declaration of the fields.
-/

namespace Federation.Document

/-! ## Formats -/

/-- How values of a type stand in a document. -/
structure Format (α : Type) where
  read? : Value → Option α
  write : α → Value

namespace Format

def text : Format String := ⟨Value.text?, .text⟩

def truth : Format Bool := ⟨Value.truth?, .truth⟩

def int32 : Format Int32 := ⟨Value.int32?, fun n => .integer n.toInt⟩

def uint64 : Format UInt64 := ⟨Value.uint64?, fun n => .integer n.toNat⟩

/-- Free-form properties as an object of texts. -/
def properties : Format (Dict String String) where
  read? := Value.texts?
  write properties := .object (properties.entries.map fun e => (e.1, .text e.2))

/-- A value, or `null` for its absence. -/
def orNull {α : Type} (format : Format α) : Format (Option α) where
  read? := Value.orNull? format.read?
  write
    | some a => format.write a
    | none => .null

end Format

/-! ## Fields -/

/-- A field of a record. -/
structure Field where
  name : String
  type : Type
  format : Format type
  /-- What holds if an object does not give the field. -/
  default : Option type
  /-- Whether a list may end before the field. -/
  omissible : Bool

namespace Field

variable {α : Type}

/-- A field that must be given. -/
def required (name : String) (format : Format α) : Field := ⟨name, α, format, none, false⟩

/-- A field that may be left out. -/
def optional (name : String) (format : Format α) (default : α) : Field :=
  ⟨name, α, format, some default, true⟩

/-- A field that may be `null`. An object may leave it out then; a list must say so. -/
def nullable (name : String) (format : Format α) : Field :=
  ⟨name, Option α, format.orNull, some none, false⟩

end Field

/-- A value for each field. -/
def Values : List Field → Type
  | [] => Unit
  | f :: fields => f.type × Values fields

namespace Values

/-- The members of the object that is written. -/
def members : (fields : List Field) → Values fields → List (String × Value)
  | [], () => []
  | f :: fields, (a, rest) => (f.name, f.format.write a) :: members fields rest

/-- Reads the items of a list. -/
def ofItems? : (fields : List Field) → List Value → Option (Values fields)
  | [], [] => some ()
  | [], _ :: _ => none
  | f :: fields, v :: items => do
    let a ← f.format.read? v
    let rest ← ofItems? fields items
    some (a, rest)
  | f :: fields, [] => do
    let a ← if f.omissible then f.default else none
    let rest ← ofItems? fields []
    some (a, rest)

end Values

/-! ## Reading objects -/

/-- What was given for each field so far. -/
def Slots : List Field → Type
  | [] => Unit
  | f :: fields => Option f.type × Slots fields

namespace Slots

/-- Nothing was given. -/
def empty : (fields : List Field) → Slots fields
  | [] => ()
  | _ :: fields => (none, empty fields)

/-- Takes the next member of an object: the value of a field that was not given yet, or a member
that is ignored. -/
def take? : (fields : List Field) → String × Value → Slots fields → Option (Slots fields)
  | [], _, () => some ()
  | f :: fields, (key, v), (slot, slots) =>
    if key = f.name then
      match slot with
      | some _ => none
      | none => (f.format.read? v).map fun a => (some a, slots)
    else (take? fields (key, v) slots).map fun slots => (slot, slots)

/-- Takes members one after another. -/
def takeAll? (fields : List Field) : List (String × Value) → Slots fields → Option (Slots fields)
  | [], slots => some slots
  | m :: rest, slots => do
    let slots ← take? fields m slots
    takeAll? fields rest slots

/-- What was given, and defaults for what was not. -/
def finish? : (fields : List Field) → Slots fields → Option (Values fields)
  | [], () => some ()
  | f :: fields, (slot, slots) => do
    let a ← slot <|> f.default
    let rest ← finish? fields slots
    some (a, rest)

end Slots

/-- Reads the members of an object. -/
def Values.ofMembers? (fields : List Field) (members : List (String × Value)) :
    Option (Values fields) := do
  let slots ← Slots.takeAll? fields members (.empty fields)
  slots.finish? fields

/-! ## Records -/

/-- A type of records, with its fields in the order of their declaration. -/
class Record (α : Type) where
  fields : List Field
  ofValues : Values fields → α
  values : α → Values fields

namespace Record

variable {α : Type} [Record α]

/-- Reads a record. -/
def ofValue? : Value → Option α
  | .object members => (Values.ofMembers? (fields α) members).map ofValues
  | .list items => (Values.ofItems? (fields α) items).map ofValues
  | _ => none

/-- The members that are written for a record. -/
def members (a : α) : List (String × Value) :=
  Values.members (fields α) (values a)

/-- Writes a record. -/
def toValue (a : α) : Value :=
  .object (members a)

end Record

end Federation.Document
