import Federation.Dialogue
import Federation.Handle
import Federation.Registry
import Federation.Store.Config

/-!
# Federation.Store.Basic — the store and its routing

A store is a registry of backends and a configuration; it has no state of its own. An operation
that is addressed by a unique id goes to the backend that the id names, one that is addressed by a
backend name to that backend, or to the primary one if no name is given. Ids and names are checked
before any backend is contacted.
-/

namespace Federation

/-- A federated identity store. -/
structure Store where
  config : StoreConfig
  registry : Registry

namespace Store

/-! ## Setting up -/

/-- Logs the backends that are left out. -/
def tellSkipped : List BackendConfig → Dialogue Unit
  | [] => .done ()
  | b :: rest => if b.enabled then tellSkipped rest else .note (.skipped b.name) (tellSkipped rest)

/-- A store over the enabled ones of the backends. -/
def create (config : StoreConfig) (backends : List BackendConfig) : Dialogue Store := do
  tellSkipped backends
  match Registry.ofList (backends.filter (·.enabled)) with
  | .error e => .fail e
  | .ok registry =>
    .tell (.initialized registry.size registry.primary.name)
    return ⟨config, registry⟩

/-! ## Routing -/

/-- A backend name that is given: no name and the empty name are the same. -/
def given? (name : Option String) : Option String :=
  name.filter (· ≠ "")

/-- The backend that a request with an optional backend name goes to. -/
def resolve (s : Store) (name : Option String) : Except StoreError BackendConfig :=
  match given? name with
  | some name => s.registry.byName name
  | none => .ok s.registry.primary

/-- An entity's place: its backend and the id that it has there. -/
structure Place where
  backend : BackendConfig
  localId : String

/-- The place of the entity with a unique id. -/
def locate (s : Store) (k : Kind) (uniqueId : String) : Except StoreError Place :=
  if uniqueId = "" then .error (.invalidInput (.entityId k))
  else do
    let e ← s.registry.decode uniqueId
    match s.registry.byId? e.backend with
    | some b => return ⟨b, e.localId⟩
    | none => .error (.invalidInput (.entityId k))

/-- The local id of an entity that is about to be related to one of the backend `owner`. -/
def localIdIn (s : Store) (owner : Int32) (uniqueId : String) : Except StoreError String := do
  let e ← s.registry.decode uniqueId
  if e.backend = owner then return e.localId else .error (.invalidInput .acrossBackends)

/-- The local ids of several such entities; the first that is refused decides. -/
def localIdsIn (s : Store) (owner : Int32) (uniqueIds : List String) :
    Except StoreError (List String) :=
  uniqueIds.mapM (s.localIdIn owner)

/-! ## Steps that operations share -/

/-- Makes sure that an entity exists. -/
def ensurePresent (k : Kind) (p : Place) (uniqueId : String) : Dialogue Unit := do
  let present ← .demand (.checkPresence k uniqueId) p.backend.id (.isPresent k p.localId)
  if present then return () else .fail (.notFound (.entity k uniqueId))

end Store

end Federation
