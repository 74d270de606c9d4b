/-!
# Federation.Backend.Error — failures of a backend

The failures that a backend can report. The store keeps the value as the cause of its own error.
-/

namespace Federation

/-- A failure of a backend. -/
inductive BackendError where
  | configuration (message : String)
  | connection (message : String)
  | authenticationFailed (message : String)
  | invalidCredentials (message : String)
  /-- The entity with this local id is not there. What it is called is up to the backend. -/
  | notFound (entity id : String)
  | notSupported (operation : String)
  | timeout (operation : String)
deriving DecidableEq

namespace BackendError

/-- What a failure says. -/
def text : BackendError → String
  | configuration m => "Configuration error: " ++ m
  | connection m => "Connection error: " ++ m
  | authenticationFailed m => "Authentication failed: " ++ m
  | invalidCredentials m => "Invalid credentials: " ++ m
  | notFound entity id => entity ++ " not found: " ++ id
  | notSupported op => "Operation not supported: " ++ op
  | timeout op => "Operation timed out: " ++ op

/-- The credentials were refused, for whatever reason. -/
def isAuthentication : BackendError → Bool
  | authenticationFailed _ | invalidCredentials _ => true
  | _ => false

/-- The data source did not answer. -/
def isConnection : BackendError → Bool
  | connection _ | timeout _ => true
  | _ => false

/-- The entity is not there. -/
def isNotFound : BackendError → Bool
  | notFound .. => true
  | _ => false

end BackendError

end Federation
