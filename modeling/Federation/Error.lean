import Federation.Backend.Error
import Federation.Entity
import Federation.Text.Decimal

/-!
# Federation.Error — failures of the store

Every operation of the store fails with a `StoreError`. The kind of an error tells callers what to
do; its constructor fixes what may come with it: an invalid input, an absent entity and a refused
login without a backend's answer have no cause, a backend failure always has one. What went wrong
is kept as data; the wording is given here, in one place.
-/

namespace Federation

/-! ## What went wrong -/

/-- Why an argument was refused. No backend was contacted. -/
inductive InvalidInput where
  /-- An id that is not of the form that the store gives out, or of an unknown backend. -/
  | uniqueId
  /-- No id at all where one of an entity is due. -/
  | entityId (k : Kind)
  | unknownBackend (name : String)
  | acrossBackends
  | negativeOffset
  | claim
  | metaClaim
  | emptyPayload (k : Kind)
  | missingClaim (uri : String)
  | emptyBatch (k : Kind)
  | other (message : String)
deriving DecidableEq

/-- What is confirmed to be absent. -/
inductive Absence where
  | entity (k : Kind) (uniqueId : String)
  | carrier (k : Kind) (uri : String) (backend : String)
  | other (message : String)
deriving DecidableEq

/-- What the store was doing when a backend failed. -/
inductive Task where
  | checkPresence (k : Kind) (uniqueId : String)
  | find (k : Kind) (backend : String)
  | list (k : Kind) (backend : String)
  | getMemberships (k : Kind) (uniqueId : String)
  | checkMembership
  | getClaims (k : Kind) (uniqueId : String)
  | add (k : Kind) (backend : String)
  | addAll (k : Kind) (backend : String)
  | updateClaims (k : Kind) (uniqueId : String)
  | updateCredentials (uniqueId : String)
  | updateMemberships (k : Kind) (uniqueId : String)
  | delete (k : Kind) (uniqueId : String)
  | authenticate (backend : String)
  | other (message : String)
deriving DecidableEq

/-- Why a store could not be set up. -/
inductive Misconfiguration where
  | noBackends
  | duplicateId (id : Int32)
  | duplicateName (name : String)
  | unreadableFile (path : String)
  | malformedDocument
  | other (message : String)
deriving DecidableEq

/-- What lies behind an error. -/
inductive Cause where
  | backend (e : BackendError)
  /-- A failure outside of any backend. -/
  | other
deriving DecidableEq

/-- A failure of the store. -/
inductive StoreError where
  | invalidInput (reason : InvalidInput)
  | notFound (what : Absence)
  | backendFailure (task : Task) (cause : BackendError)
  /-- The credentials were refused; only a backend addressed by name leaves its cause. -/
  | authenticationFailed (cause : Option BackendError)
  | configuration (problem : Misconfiguration) (cause : Option Cause)
deriving DecidableEq

/-- The kind of an error. -/
inductive ErrorKind where
  | invalidInput
  | notFound
  | backendFailure
  | authenticationFailed
  | configuration
deriving DecidableEq

/-! ## Wording -/

/-- What a refused argument is told. -/
def InvalidInput.message : InvalidInput → String
  | uniqueId => "invalid unique entity id"
  | entityId k => "invalid unique " ++ k.noun ++ " id"
  | unknownBackend name => "backend '" ++ name ++ "' was not found"
  | acrossBackends => "cannot relate entities across backends"
  | negativeOffset => "invalid offset value"
  | claim => "invalid claim"
  | metaClaim => "invalid meta claim"
  | emptyPayload .user => "user has neither claims nor credentials"
  | emptyPayload .group => "group has no claims"
  | missingClaim uri => "user claims lack " ++ uri
  | emptyBatch k => "no " ++ k.plural ++ " to add"
  | other m => m

/-- What is said of an absent entity. -/
def Absence.message : Absence → String
  | entity k id => k.noun ++ " " ++ id ++ " was not found"
  | carrier k uri backend => "no " ++ k.noun ++ " with claim " ++ uri ++ " in backend " ++ backend
  | other m => m

/-- What is said of a task that a backend could not finish. -/
def Task.message : Task → String
  | checkPresence k id => "failed to check the existence of " ++ k.noun ++ " " ++ id
  | find k backend => "failed to find " ++ k.noun ++ " in backend " ++ backend
  | list k backend => "failed to list " ++ k.plural ++ " of backend " ++ backend
  | getMemberships k id => "failed to get " ++ k.other.plural ++ " of " ++ k.noun ++ " " ++ id
  | checkMembership => "failed to check group membership"
  | getClaims k id => "failed to get claims of " ++ k.noun ++ " " ++ id
  | add k backend => "failed to add " ++ k.noun ++ " to backend " ++ backend
  | addAll k backend => "failed to add " ++ k.plural ++ " to backend " ++ backend
  | updateClaims k id => "failed to update claims of " ++ k.noun ++ " " ++ id
  | updateCredentials id => "failed to update credentials of user " ++ id
  | updateMemberships k id => "failed to update " ++ k.other.plural ++ " of " ++ k.noun ++ " " ++ id
  | delete k id => "failed to delete " ++ k.noun ++ " " ++ id
  | authenticate backend => "authentication against backend " ++ backend ++ " failed"
  | other m => m

/-- What is said of a store that cannot be set up. -/
def Misconfiguration.message : Misconfiguration → String
  | noBackends => "no backends registered"
  | duplicateId id => "duplicate backend id " ++ Text.Decimal.writeInt32 id
  | duplicateName name => "duplicate backend name '" ++ name ++ "'"
  | unreadableFile path => "failed to read store config " ++ path
  | malformedDocument => "failed to parse store config"
  | other m => m

/-- A short, stable label of a kind. -/
def ErrorKind.label : ErrorKind → String
  | invalidInput => "invalid input"
  | notFound => "not found"
  | backendFailure => "backend failure"
  | authenticationFailed => "authentication failed"
  | configuration => "configuration error"

namespace StoreError

/-! ## Views of an error -/

/-- The kind of an error. -/
def kind : StoreError → ErrorKind
  | invalidInput _ => .invalidInput
  | notFound _ => .notFound
  | backendFailure .. => .backendFailure
  | authenticationFailed _ => .authenticationFailed
  | configuration .. => .configuration

/-- The detail of an error. A refused login says the same whatever the reason. -/
def message : StoreError → String
  | invalidInput reason => reason.message
  | notFound what => what.message
  | backendFailure task _ => task.message
  | authenticationFailed _ => "invalid user credentials"
  | configuration problem _ => problem.message

/-- What lies behind an error. -/
def cause? : StoreError → Option Cause
  | invalidInput _ | notFound _ => none
  | backendFailure _ e => some (.backend e)
  | authenticationFailed e => e.map .backend
  | configuration _ c => c

/-- The failure of a backend behind an error. -/
def backendCause? (e : StoreError) : Option BackendError :=
  match e.cause? with
  | some (.backend b) => some b
  | _ => none

/-- What an error says: label and detail, but of a refused login only the label. -/
def text (e : StoreError) : String :=
  match e.kind with
  | .authenticationFailed => ErrorKind.label .authenticationFailed
  | k => k.label ++ ": " ++ e.message

/-- Whether the caller is at fault. -/
def isClient (e : StoreError) : Bool :=
  match e.kind with
  | .invalidInput | .notFound | .authenticationFailed => true
  | .backendFailure | .configuration => false

end StoreError

end Federation
