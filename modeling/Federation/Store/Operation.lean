import Federation.Store.Authentication
import Federation.Store.Reading
import Federation.Store.Writing

/-!
# Federation.Store.Operation — operations as data

Every operation of the store, and every action on a handle, as a value, so that sequences of them
can be carried out and spoken about. An action on a handle is the operation of the store on the
handle's unique id.
-/

namespace Federation

/-- An operation of the store. -/
inductive Operation where
  | authenticate (claim : Claim) (credentials : List Credential) (backend : Option String)
  | get (k : Kind) (uniqueId : String)
  | getByClaim (k : Kind) (claim : Claim) (backend : Option String)
  | list (k : Kind) (filter : Filter) (offset length : Int32) (backend : Option String)
  | memberships (k : Kind) (uniqueId : String)
  | isMember (user group : String)
  | claims (k : Kind) (uniqueId : String)
  | claimsFor (k : Kind) (uniqueId : String) (metas : List MetaClaim)
  | add (k : Kind) (payload : Payload k) (backend : Option String)
  | addAll (k : Kind) (payloads : List (Payload k)) (backend : Option String)
  | replaceClaims (k : Kind) (uniqueId : String) (claims : List Claim)
  | changeClaims (k : Kind) (uniqueId : String) (add remove : List Claim)
  | replaceCredentials (user : String) (credentials : List Credential)
  | changeCredentials (user : String) (add remove : List Credential)
  | delete (k : Kind) (uniqueId : String)
  | replaceMemberships (k : Kind) (uniqueId : String) (others : List String)
  | changeMemberships (k : Kind) (uniqueId : String) (add remove : List String)

/-- What an operation answers. -/
inductive Answer where
  | nothing
  | truth (b : Bool)
  | handle (k : Kind) (h : Handle k)
  | handles (k : Kind) (hs : List (Handle k))
  | claims (claims : List Claim)

namespace Store

/-- Carries out an operation. -/
def perform (s : Store) : Operation → Dialogue Answer
  | .authenticate claim credentials backend =>
    .handle .user <$> s.authenticate claim credentials backend
  | .get k uniqueId => .handle k <$> s.get k uniqueId
  | .getByClaim k claim backend => .handle k <$> s.getByClaim k claim backend
  | .list k filter offset length backend => .handles k <$> s.list k filter offset length backend
  | .memberships k uniqueId => .handles k.other <$> s.memberships k uniqueId
  | .isMember user group => .truth <$> s.isMember user group
  | .claims k uniqueId => .claims <$> s.claims k uniqueId
  | .claimsFor k uniqueId metas => .claims <$> s.claimsFor k uniqueId metas
  | .add k payload backend => .handle k <$> s.add k payload backend
  | .addAll k payloads backend => .handles k <$> s.addAll k payloads backend
  | .replaceClaims k uniqueId claims => (fun _ => .nothing) <$> s.replaceClaims k uniqueId claims
  | .changeClaims k uniqueId add remove =>
    (fun _ => .nothing) <$> s.changeClaims k uniqueId add remove
  | .replaceCredentials user credentials =>
    (fun _ => .nothing) <$> s.replaceCredentials user credentials
  | .changeCredentials user add remove =>
    (fun _ => .nothing) <$> s.changeCredentials user add remove
  | .delete k uniqueId => (fun _ => .nothing) <$> s.delete k uniqueId
  | .replaceMemberships k uniqueId others =>
    (fun _ => .nothing) <$> s.replaceMemberships k uniqueId others
  | .changeMemberships k uniqueId add remove =>
    (fun _ => .nothing) <$> s.changeMemberships k uniqueId add remove

end Store

/-! ## Actions on handles -/

/-- What can be done with a handle. -/
inductive Action : Kind → Type where
  | claims {k : Kind} : Action k
  | claimsFor {k : Kind} (metas : List MetaClaim) : Action k
  | memberships {k : Kind} : Action k
  /-- Whether there is a membership between this entity and another one. -/
  | isRelated {k : Kind} (other : String) : Action k
  | replaceClaims {k : Kind} (claims : List Claim) : Action k
  | changeClaims {k : Kind} (add remove : List Claim) : Action k
  | replaceCredentials (credentials : List Credential) : Action .user
  | changeCredentials (add remove : List Credential) : Action .user
  | replaceMemberships {k : Kind} (others : List String) : Action k
  | changeMemberships {k : Kind} (add remove : List String) : Action k
  | delete {k : Kind} : Action k

/-- The operation of the store that an action on a handle stands for. -/
def Handle.act : {k : Kind} → Handle k → Action k → Operation
  | k, h, .claims => .claims k h.uniqueId
  | k, h, .claimsFor metas => .claimsFor k h.uniqueId metas
  | k, h, .memberships => .memberships k h.uniqueId
  | .user, h, .isRelated other => .isMember h.uniqueId other
  | .group, h, .isRelated other => .isMember other h.uniqueId
  | k, h, .replaceClaims claims => .replaceClaims k h.uniqueId claims
  | k, h, .changeClaims add remove => .changeClaims k h.uniqueId add remove
  | _, h, .replaceCredentials credentials => .replaceCredentials h.uniqueId credentials
  | _, h, .changeCredentials add remove => .changeCredentials h.uniqueId add remove
  | k, h, .replaceMemberships others => .replaceMemberships k h.uniqueId others
  | k, h, .changeMemberships add remove => .changeMemberships k h.uniqueId add remove
  | k, h, .delete => .delete k h.uniqueId

end Federation
