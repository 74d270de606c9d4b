import Federation.Store.Basic

/-!
# Federation.Store.Writing — changing entities

The operations that change something: additions, changes of claims, credentials and memberships,
and deletions. Each makes at most one request to one backend, after all arguments were checked. A
change that says nothing is done at once.
-/

namespace Federation.Store

open Dialogue (ofExcept demand tell)

/-! ## Additions -/

/-- Whether a payload can be added: it must not be empty, and a user with claims must have a name
among them if the configuration demands one. -/
def validate (s : Store) : {k : Kind} → Payload k → Except StoreError Unit
  | .user, u =>
    if NewUser.isEmpty u then .error (.invalidInput (.emptyPayload .user))
    else if s.config.requireUsername && !u.claims.isEmpty &&
        (NewUser.claim? u s.config.usernameUri).isNone then
      .error (.invalidInput (.missingClaim s.config.usernameUri))
    else .ok ()
  | .group, g =>
    if NewGroup.isEmpty g then .error (.invalidInput (.emptyPayload .group)) else .ok ()

/-- Adds an entity to a backend. -/
def add (s : Store) (k : Kind) (payload : Payload k) (backend : Option String) :
    Dialogue (Handle k) := do
  ofExcept (s.validate payload)
  let b ← ofExcept (s.resolve backend)
  let localId ← demand (.add k b.name) b.id (.add k payload)
  tell (.added k b.name)
  return .of b localId

/-- Whether all payloads of a batch can be added; the first that cannot decides. -/
def validateAll (s : Store) {k : Kind} : List (Payload k) → Except StoreError Unit
  | [] => .ok ()
  | p :: rest =>
    match s.validate p with
    | .ok () => validateAll s rest
    | .error e => .error e

/-- Whether a batch can be added: it must not be empty, and neither must one of its payloads be
refused. -/
def validateBatch (s : Store) {k : Kind} (payloads : List (Payload k)) : Except StoreError Unit :=
  if payloads.isEmpty then .error (.invalidInput (.emptyBatch k)) else s.validateAll payloads

/-- Adds several entities to one backend. -/
def addAll (s : Store) (k : Kind) (payloads : List (Payload k)) (backend : Option String) :
    Dialogue (List (Handle k)) := do
  ofExcept (s.validateBatch payloads)
  let b ← ofExcept (s.resolve backend)
  let localIds ← demand (.addAll k b.name) b.id (.addAll k payloads)
  tell (.addedAll k b.name localIds.length)
  return localIds.map (.of b)

/-! ## Claims -/

/-- Replaces all claims of an entity. -/
def replaceClaims (s : Store) (k : Kind) (uniqueId : String) (claims : List Claim) :
    Dialogue Unit := do
  let p ← ofExcept (s.locate k uniqueId)
  demand (.updateClaims k uniqueId) p.backend.id (.replaceClaims k p.localId claims)

/-- Adds claims to an entity and removes some from it. -/
def changeClaims (s : Store) (k : Kind) (uniqueId : String) (add remove : List Claim) :
    Dialogue Unit := do
  let p ← ofExcept (s.locate k uniqueId)
  if add.isEmpty && remove.isEmpty then return ()
  else demand (.updateClaims k uniqueId) p.backend.id (.changeClaims k p.localId add remove)

/-! ## Credentials -/

/-- Replaces all credentials of a user. -/
def replaceCredentials (s : Store) (user : String) (credentials : List Credential) :
    Dialogue Unit := do
  let p ← ofExcept (s.locate .user user)
  demand (.updateCredentials user) p.backend.id (.replaceCredentials p.localId credentials)

/-- Gives a user credentials and takes some away. -/
def changeCredentials (s : Store) (user : String) (add remove : List Credential) :
    Dialogue Unit := do
  let p ← ofExcept (s.locate .user user)
  if add.isEmpty && remove.isEmpty then return ()
  else demand (.updateCredentials user) p.backend.id (.changeCredentials p.localId add remove)

/-! ## Deletions -/

/-- Deletes an entity. -/
def delete (s : Store) (k : Kind) (uniqueId : String) : Dialogue Unit := do
  let p ← ofExcept (s.locate k uniqueId)
  demand (.delete k uniqueId) p.backend.id (.delete k p.localId)
  tell (.deleted k p.backend.name)

/-! ## Memberships -/

/-- Replaces the memberships of an entity; all others must be of its backend. -/
def replaceMemberships (s : Store) (k : Kind) (uniqueId : String) (others : List String) :
    Dialogue Unit := do
  let p ← ofExcept (s.locate k uniqueId)
  let others ← ofExcept (s.localIdsIn p.backend.id others)
  demand (.updateMemberships k uniqueId) p.backend.id (.replaceMemberships k p.localId others)

/-- Adds memberships to an entity and removes some; all others must be of its backend. -/
def changeMemberships (s : Store) (k : Kind) (uniqueId : String) (add remove : List String) :
    Dialogue Unit := do
  let p ← ofExcept (s.locate k uniqueId)
  if add.isEmpty && remove.isEmpty then return ()
  else
    let add ← ofExcept (s.localIdsIn p.backend.id add)
    let remove ← ofExcept (s.localIdsIn p.backend.id remove)
    demand (.updateMemberships k uniqueId) p.backend.id (.changeMemberships k p.localId add remove)

end Federation.Store
