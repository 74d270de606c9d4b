import Federation.Backend.Error
import Federation.Entity

/-!
# Federation.Event — the store's log

What the store tells about its work. An event is kept as data; its level, its words and its fields
are read off it. No event holds a claim value or a credential.
-/

namespace Federation

/-- How urgent an event is. -/
inductive Level where
  | debug
  | info
  | warn
deriving DecidableEq

/-- Something that the store tells about its work. -/
inductive Event where
  /-- A disabled backend was left out. -/
  | skipped (backend : String)
  /-- The store was set up. -/
  | initialized (backends : Nat) (primary : String)
  /-- A membership was asked for across backends. -/
  | apart (userBackend groupBackend : Int32)
  | added (k : Kind) (backend : String)
  | addedAll (k : Kind) (backend : String) (count : Nat)
  | deleted (k : Kind) (backend : String)
  | authenticated (backend : String)
  /-- A backend cannot look users up by the claim of a login. -/
  | unsupported (backend : String) (uri : String)
  /-- A backend refused a login. -/
  | rejected (backend : String) (error : BackendError)
  /-- A backend failed during a login. -/
  | attemptFailed (backend : String) (error : BackendError)
deriving DecidableEq

/-- The value of a field of an event. -/
inductive FieldValue where
  | text (s : String)
  | count (n : Nat)
  | id (n : Int32)
deriving DecidableEq

namespace Event

/-- How urgent an event is. -/
def level : Event → Level
  | added .. | addedAll .. | deleted .. => .info
  | attemptFailed .. => .warn
  | skipped _ | initialized .. | apart .. | authenticated _ | unsupported .. | rejected .. => .debug

/-- What an event says. -/
def message : Event → String
  | skipped _ => "skipping disabled backend"
  | initialized .. => "identity store initialized"
  | apart .. => "user and group live in different backends"
  | added k _ => k.noun ++ " added"
  | addedAll k .. => k.plural ++ " added"
  | deleted k _ => k.noun ++ " deleted"
  | authenticated _ => "user authenticated"
  | unsupported .. => "backend does not support claim, skipping"
  | rejected .. => "authentication rejected"
  | attemptFailed .. => "authentication attempt failed"

/-- The named values that come with an event. -/
def fields : Event → List (String × FieldValue)
  | skipped backend | added _ backend | deleted _ backend | authenticated backend =>
    [("backend", .text backend)]
  | initialized backends primary => [("backends", .count backends), ("primary", .text primary)]
  | apart u g => [("user_backend", .id u), ("group_backend", .id g)]
  | addedAll _ backend count => [("backend", .text backend), ("count", .count count)]
  | unsupported backend uri => [("backend", .text backend), ("claim_uri", .text uri)]
  | rejected backend e | attemptFailed backend e =>
    [("backend", .text backend), ("error", .text e.text)]

end Event

end Federation
