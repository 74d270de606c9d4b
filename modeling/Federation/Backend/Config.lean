import Federation.Backend.Error
import Federation.Collection.Dict
import Federation.Text.Blank
import Federation.Text.Decimal

/-!
# Federation.Backend.Config — configuration of a backend

What identifies a backend inside one store: the id that goes into every unique id, the name by
which callers address it, and its priority, of which lower is preferred. A configuration is built
from a sequence of settings, of which the last of a sort counts.
-/

namespace Federation

/-- The configuration of a backend. -/
structure BackendConfig where
  id : Int32
  name : String
  priority : Int32
  enabled : Bool
  properties : Dict String String
deriving DecidableEq

/-! ## Properties -/

namespace BackendConfig

/-- The property with the key. -/
def get? (c : BackendConfig) (key : String) : Option String :=
  c.properties.get? key

/-- The property with the key as a truth value, spelt `true` or `false`. -/
def getBool? (c : BackendConfig) (key : String) : Option Bool :=
  match c.get? key with
  | some "true" => some true
  | some "false" => some false
  | _ => none

/-- The property with the key as a 32-bit integer. -/
def getInt32? (c : BackendConfig) (key : String) : Option Int32 :=
  (c.get? key).bind Text.Decimal.readInt32?

end BackendConfig

/-! ## Building -/

/-- One step of building a configuration. -/
inductive ConfigSetting where
  | id (n : Int32)
  | name (s : String)
  | priority (n : Int32)
  | enabled (b : Bool)
  | property (key value : String)

/-- A configuration that may still lack its name. -/
structure ConfigDraft where
  id : Int32
  name : Option String
  priority : Int32
  enabled : Bool
  properties : Dict String String

namespace ConfigDraft

/-- Before any setting a backend is enabled and has id and priority zero. -/
def blank : ConfigDraft := ⟨0, none, 0, true, .empty⟩

/-- A setting replaces what an earlier one of its sort, or with its key, said. -/
def set (d : ConfigDraft) : ConfigSetting → ConfigDraft
  | .id n => { d with id := n }
  | .name s => { d with name := some s }
  | .priority n => { d with priority := n }
  | .enabled b => { d with enabled := b }
  | .property key value => { d with properties := d.properties.insert key value }

/-- The finished configuration; the name must be there and must not be blank. -/
def finish (d : ConfigDraft) : Except BackendError BackendConfig :=
  match d.name with
  | none => .error (.configuration "backend name is required")
  | some name =>
    if Text.isBlank name then .error (.configuration "backend name is required")
    else .ok ⟨d.id, name, d.priority, d.enabled, d.properties⟩

end ConfigDraft

/-- Builds a configuration from a sequence of settings. -/
def BackendConfig.build (settings : List ConfigSetting) : Except BackendError BackendConfig :=
  (settings.foldl ConfigDraft.set .blank).finish

end Federation
