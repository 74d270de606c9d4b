import Federation.Error
import Federation.Handle

/-!
# Federation.Authority — permissions

The store decides no permissions; an authority of its own is asked, by unique id. The authority
here answers from a list of grants, or not at all if it is out of order.
-/

namespace Federation

/-- An action on a resource. -/
structure Permission where
  resource : String
  action : String
deriving DecidableEq

/-- The question whether an entity holds a permission. -/
structure PermissionCheck where
  kind : Kind
  uniqueId : String
  permission : Permission
  backendName : String
deriving DecidableEq

/-- An authority that knows what was granted to whom. -/
structure Authority where
  grants : List (String × Permission)
  /-- What the authority fails with, if it is out of order. -/
  outage : Option String
deriving DecidableEq

namespace Authority

/-- Grants a permission to the entity with a unique id. -/
def grant (a : Authority) (uniqueId : String) (p : Permission) : Authority :=
  { a with grants := a.grants ++ [(uniqueId, p)] }

/-- A permission is held if exactly it was granted to exactly this id. -/
def check (a : Authority) (c : PermissionCheck) : Except StoreError Bool :=
  match a.outage with
  | some reason => .error (.backendFailure (.other "authorization failed") (.connection reason))
  | none => .ok (a.grants.contains (c.uniqueId, c.permission))

end Authority

/-- The question whether the entity of a handle holds a permission. -/
def Handle.permissionCheck {k : Kind} (h : Handle k) (p : Permission) : PermissionCheck :=
  ⟨k, h.uniqueId, p, h.backendName⟩

end Federation
