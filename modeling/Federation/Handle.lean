import Federation.Backend.Config
import Federation.Entity
import Federation.Text.Quoted
import Federation.UniqueId

/-!
# Federation.Handle — users and groups as callers see them

A handle is what the store returns for a user or group: the unique id and the name of the backend
that holds the entity. It is a plain value; having one says nothing about whether the entity still
exists.
-/

namespace Federation

/-- A user or group of the federation. -/
structure Handle (k : Kind) where
  uniqueId : String
  backendName : String
deriving DecidableEq

/-- A user of the federation. -/
abbrev User := Handle .user

/-- A group of the federation. -/
abbrev Group := Handle .group

namespace Handle

/-- The handle of an entity that a backend knows by a local id. -/
def of {k : Kind} (b : BackendConfig) (localId : String) : Handle k :=
  ⟨EntityId.encode ⟨b.id, localId⟩, b.name⟩

/-- The diagnostic text of a handle. -/
def describe {k : Kind} (h : Handle k) : String :=
  let type := match k with
    | .user => "User"
    | .group => "Group"
  type ++ " \x7b unique_id: " ++ Text.quoted h.uniqueId ++ ", backend_name: " ++
    Text.quoted h.backendName ++ ", .. \x7d"

end Handle

end Federation
