import Federation.Claim

/-!
# Federation.Store.Config — configuration of a store

What a store demands of the users that are added to it.
-/

namespace Federation

/-- The configuration of a store. -/
structure StoreConfig where
  /-- The claim URI that carries the name of a user. -/
  usernameUri : String
  /-- Whether a user that is added with claims must have a name among them. -/
  requireUsername : Bool
deriving DecidableEq

/-- The configuration that holds if nothing is said. -/
def StoreConfig.standard : StoreConfig := ⟨Claim.usernameUri, true⟩

end Federation
