import Federation.Store.Basic

/-!
# Federation.Store.Reading — looking entities up

The operations that only read: single entities, listings, memberships and claims.
-/

namespace Federation

/-! ## Arguments -/

/-- A claim that can be searched for has a URI and a value. -/
def Claim.checkSearch (c : Claim) : Except StoreError Unit :=
  if c.uri = "" || c.isBlank then .error (.invalidInput .claim) else .ok ()

/-- A listing can be asked for by such a claim, or by a meta claim that has a URI. -/
def Filter.check : Filter → Except StoreError Unit
  | .all => .ok ()
  | .byClaim c => c.checkSearch
  | .byMetaClaim m _ => if m.uri = "" then .error (.invalidInput .metaClaim) else .ok ()

/-- The page for an offset and a length. The offset must not be negative. Length zero asks for
nothing, a negative length for everything from the offset on. -/
def Page.ofRange? (offset length : Int32) : Except StoreError (Option Page) :=
  if offset < 0 then .error (.invalidInput .negativeOffset)
  else if length = 0 then .ok none
  else
    let size (n : Int32) : UInt64 := UInt64.ofNat n.toInt.toNat
    .ok (some ⟨size offset, if length < 0 then none else some (size length)⟩)

namespace Store

open Dialogue (ofExcept demand)

/-! ## Entities -/

/-- The entity with a unique id, if its backend knows it. -/
def get (s : Store) (k : Kind) (uniqueId : String) : Dialogue (Handle k) := do
  let p ← ofExcept (s.locate k uniqueId)
  ensurePresent k p uniqueId
  return .of p.backend p.localId

/-- The entity of a backend that carries a claim. -/
def getByClaim (s : Store) (k : Kind) (claim : Claim) (backend : Option String) :
    Dialogue (Handle k) := do
  ofExcept claim.checkSearch
  let b ← ofExcept (s.resolve backend)
  match ← demand (.find k b.name) b.id (.find k claim) with
  | some localId => return .of b localId
  | none => .fail (.notFound (.carrier k claim.uri b.name))

/-- A part of a listing of a backend. If nothing is asked for, not even the backend's name is
looked at. -/
def list (s : Store) (k : Kind) (filter : Filter) (offset length : Int32)
    (backend : Option String) : Dialogue (List (Handle k)) := do
  ofExcept filter.check
  match ← ofExcept (Page.ofRange? offset length) with
  | none => return []
  | some page =>
    let b ← ofExcept (s.resolve backend)
    let localIds ← demand (.list k b.name) b.id (.list k filter page)
    return localIds.map (.of b)

/-! ## Memberships -/

/-- The groups of a user, or the users of a group. -/
def memberships (s : Store) (k : Kind) (uniqueId : String) : Dialogue (List (Handle k.other)) := do
  let p ← ofExcept (s.locate k uniqueId)
  ensurePresent k p uniqueId
  let localIds ← demand (.getMemberships k uniqueId) p.backend.id (.memberships k p.localId)
  return localIds.map (.of p.backend)

/-- Whether a user is a member of a group. Entities of different backends are never related; that
is answered without asking any backend. -/
def isMember (s : Store) (user group : String) : Dialogue Bool := do
  let u ← ofExcept (s.locate .user user)
  let g ← ofExcept (s.locate .group group)
  if u.backend.id = g.backend.id then
    ensurePresent .user u user
    ensurePresent .group g group
    demand .checkMembership u.backend.id (.isMember u.localId g.localId)
  else
    .tell (.apart u.backend.id g.backend.id)
    return false

/-! ## Claims -/

/-- All claims of an entity. -/
def claims (s : Store) (k : Kind) (uniqueId : String) : Dialogue (List Claim) := do
  let p ← ofExcept (s.locate k uniqueId)
  demand (.getClaims k uniqueId) p.backend.id (.claims k p.localId)

/-- The claims of an entity that one of the meta claims describes. -/
def claimsFor (s : Store) (k : Kind) (uniqueId : String) (metas : List MetaClaim) :
    Dialogue (List Claim) := do
  let p ← ofExcept (s.locate k uniqueId)
  if metas.isEmpty then return []
  else demand (.getClaims k uniqueId) p.backend.id (.claimsFor k p.localId metas)

end Store

end Federation
