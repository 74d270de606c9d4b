import Federation.Claim
import Federation.Credential

/-!
# Federation.Entity — users and groups

The two kinds of entity that a backend holds, and what is handed over to add one. Most of what
the store does is the same for both kinds, and is written once for any kind.
-/

namespace Federation

/-! ## Kinds -/

/-- Users and groups. -/
inductive Kind where
  | user
  | group
deriving DecidableEq

namespace Kind

/-- The kind at the other end of a membership. -/
def other : Kind → Kind
  | user => group
  | group => user

/-- The noun for one entity of the kind. -/
def noun : Kind → String
  | user => "user"
  | group => "group"

/-- Where a text is due, a kind goes by its noun. -/
instance : Coe Kind String where coe := noun

/-- The noun for several entities of the kind. -/
def plural (k : Kind) : String := k.noun ++ "s"

end Kind

/-! ## Payloads -/

/-- A user to be added. -/
structure NewUser where
  claims : List Claim
  credentials : List Credential
deriving DecidableEq

/-- A group to be added. -/
structure NewGroup where
  claims : List Claim
deriving DecidableEq

/-- Whether a user comes with neither claims nor credentials. -/
def NewUser.isEmpty (u : NewUser) : Bool := u.claims.isEmpty && u.credentials.isEmpty

/-- The first claim of a user that has the URI and a value. -/
def NewUser.claim? (u : NewUser) (uri : String) : Option Claim :=
  u.claims.find? fun c => c.uri = uri && !c.isBlank

/-- Whether a group comes without claims. -/
def NewGroup.isEmpty (g : NewGroup) : Bool := g.claims.isEmpty

/-- What is handed over to add an entity of a kind. -/
abbrev Payload : Kind → Type
  | .user => NewUser
  | .group => NewGroup

/-- The claims of a payload. -/
def Payload.claims : {k : Kind} → Payload k → List Claim
  | .user, p => NewUser.claims p
  | .group, p => NewGroup.claims p

/-- The password that a payload brings along; a group has none. -/
def Payload.password? : {k : Kind} → Payload k → Option (List UInt8)
  | .user, p => firstPassword? (NewUser.credentials p)
  | .group, _ => none

end Federation
