import Federation.Backend.Error
import Federation.Entity
import Federation.Page

/-!
# Federation.Backend.Request — what a backend is asked

The requests that the store makes of a backend, each with the type of its answer. All ids in a
request are local to the backend. A backend may answer any request with a failure; whether it
can look users up by a claim URI at all is a question of its own, which never fails.
-/

namespace Federation

/-- Which entities a listing shows. -/
inductive Filter where
  | all
  /-- Those that carry exactly this claim. -/
  | byClaim (claim : Claim)
  /-- Those with a claim of the described URI whose value has what the pattern asks for. -/
  | byMetaClaim (metaClaim : MetaClaim) (pattern : String)
deriving DecidableEq

/-- A request to a backend. -/
inductive Request where
  | isPresent (k : Kind) (id : String)
  /-- The entity that carries the claim. -/
  | find (k : Kind) (claim : Claim)
  | list (k : Kind) (filter : Filter) (page : Page)
  /-- The groups of a user, or the users of a group. -/
  | memberships (k : Kind) (id : String)
  | isMember (user group : String)
  | claims (k : Kind) (id : String)
  /-- The claims that one of the meta claims describes. -/
  | claimsFor (k : Kind) (id : String) (metas : List MetaClaim)
  | authenticate (claim : Claim) (credentials : List Credential)
  | add (k : Kind) (payload : Payload k)
  | addAll (k : Kind) (payloads : List (Payload k))
  | replaceClaims (k : Kind) (id : String) (claims : List Claim)
  | changeClaims (k : Kind) (id : String) (add remove : List Claim)
  | replaceCredentials (id : String) (credentials : List Credential)
  | changeCredentials (id : String) (add remove : List Credential)
  | delete (k : Kind) (id : String)
  | replaceMemberships (k : Kind) (id : String) (others : List String)
  | changeMemberships (k : Kind) (id : String) (add remove : List String)

namespace Request

/-- What a backend answers if it does not fail. -/
abbrev Answer : Request → Type
  | isPresent .. | isMember .. => Bool
  | find .. => Option String
  | list .. | memberships .. | addAll .. => List String
  | claims .. | claimsFor .. => List Claim
  | authenticate .. | add .. => String
  | replaceClaims .. | changeClaims .. | replaceCredentials .. | changeCredentials ..
  | delete .. | replaceMemberships .. | changeMemberships .. => Unit

/-- Whether the request asks for a change. -/
def isWrite : Request → Bool
  | isPresent .. | find .. | list .. | memberships .. | isMember .. | claims .. | claimsFor ..
  | authenticate .. => false
  | add .. | addAll .. | replaceClaims .. | changeClaims .. | replaceCredentials ..
  | changeCredentials .. | delete .. | replaceMemberships .. | changeMemberships .. => true

/-- The name by which a backend that does not offer a change refuses it. -/
def title : Request → String
  | isPresent k _ => "check " ++ k.noun
  | find k _ => "find " ++ k.noun
  | list k .. => "list " ++ k.plural
  | memberships k _ => "list " ++ k.other.plural ++ " of " ++ k.noun
  | isMember .. => "check membership"
  | claims k _ | claimsFor k .. => "read " ++ k.noun ++ " claims"
  | authenticate .. => "authenticate"
  | add k _ | addAll k _ => "add " ++ k.noun
  | replaceClaims k .. | changeClaims k .. => "update " ++ k.noun ++ " claims"
  | replaceCredentials .. | changeCredentials .. => "update user credentials"
  | delete k _ => "delete " ++ k.noun
  | replaceMemberships k .. | changeMemberships k .. =>
    "update " ++ k.other.plural ++ " of " ++ k.noun

end Request

/-- A question to a backend: a request, or whether it supports a claim URI. -/
inductive Question where
  | request (r : Request)
  | supportsClaim (uri : String)

/-- What a backend does with a request: its answer or failure, its state afterwards, and the
questions that the request came down to. -/
structure Reply (r : Request) (σ : Type) where
  outcome : Except BackendError r.Answer
  state : σ
  log : List Question

end Federation
