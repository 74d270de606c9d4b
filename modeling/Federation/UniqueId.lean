import Federation.Text.Base64
import Federation.Text.Decimal

/-!
# Federation.UniqueId — unique ids

A unique id names an entity of the whole federation: the id of its backend and the id that the
backend knows it by, joined by a dot and written in base64. Only the first dot separates, so local
ids may hold dots themselves. An id is read only in the one form in which it is written.
-/

namespace Federation

/-- What a unique id stands for: a backend and an id local to it. -/
structure EntityId where
  backend : Int32
  localId : String
deriving DecidableEq

namespace EntityId

/-! ## Plain form -/

/-- Backend id and local id, joined by a dot. -/
def plain (e : EntityId) : String :=
  Text.Decimal.writeInt32 e.backend ++ "." ++ e.localId

/-- A plain form read back: the backend id must be written canonically, and the local id must not
be empty. -/
def ofPlain? (text : String) : Option EntityId :=
  let backendPart := text.toList.takeWhile (· ≠ '.')
  match text.toList.dropWhile (· ≠ '.') with
  | '.' :: c :: rest => do
    let backend ← Text.Decimal.readInt32? (String.ofList backendPart)
    if Text.Decimal.writeInt32 backend = String.ofList backendPart then
      some ⟨backend, String.ofList (c :: rest)⟩
    else none
  | _ => none

/-! ## Opaque form -/

/-- The unique id of an entity. -/
def encode (e : EntityId) : String :=
  String.ofList (Text.Base64.encode e.plain.toUTF8.data.toList)

/-- The entity that a unique id stands for. -/
def decode? (raw : String) : Option EntityId := do
  let bytes ← Text.Base64.decode? raw.toList
  let text ← String.fromUTF8? ⟨bytes.toArray⟩
  ofPlain? text

end EntityId

end Federation
