import Federation.Backend.Request

/-!
# Federation.Directory.Fault — planned faults

A directory can be told to fail: each of its methods may have a planned fault, which lets a number
of calls through and then fails every further one with a given error.
-/

namespace Federation

/-- The methods of a backend, by the requests that they answer. -/
inductive Method where
  | isPresent (k : Kind)
  | find (k : Kind)
  | list (k : Kind)
  | listByClaim (k : Kind)
  | listByMetaClaim (k : Kind)
  | memberships (k : Kind)
  | isMember
  | claims (k : Kind)
  | claimsFor (k : Kind)
  | authenticate
  | add (k : Kind)
  | addAll (k : Kind)
  | replaceClaims (k : Kind)
  | changeClaims (k : Kind)
  | replaceCredentials
  | changeCredentials
  | delete (k : Kind)
  | replaceMemberships (k : Kind)
  | changeMemberships (k : Kind)
deriving DecidableEq

/-- The method that answers a request. -/
def Request.method : Request → Method
  | .isPresent k _ => .isPresent k
  | .find k _ => .find k
  | .list k .all _ => .list k
  | .list k (.byClaim _) _ => .listByClaim k
  | .list k (.byMetaClaim ..) _ => .listByMetaClaim k
  | .memberships k _ => .memberships k
  | .isMember .. => .isMember
  | .claims k _ => .claims k
  | .claimsFor k .. => .claimsFor k
  | .authenticate .. => .authenticate
  | .add k _ => .add k
  | .addAll k _ => .addAll k
  | .replaceClaims k .. => .replaceClaims k
  | .changeClaims k .. => .changeClaims k
  | .replaceCredentials .. => .replaceCredentials
  | .changeCredentials .. => .changeCredentials
  | .delete k _ => .delete k
  | .replaceMemberships k .. => .replaceMemberships k
  | .changeMemberships k .. => .changeMemberships k

/-- A planned fault: how many more calls succeed, and the error of those after them. -/
structure Fault where
  spared : Nat
  error : BackendError
deriving DecidableEq

/-- The planned faults of a directory; of two for one method the first counts. -/
abbrev FaultPlan := List (Method × Fault)

namespace FaultPlan

/-- A call of a method: the error that is due, if any, and the plan for the calls to come. -/
def call (m : Method) : FaultPlan → Option BackendError × FaultPlan
  | [] => (none, [])
  | (m', fault) :: rest =>
    if m' = m then
      match fault.spared with
      | 0 => (some fault.error, (m', fault) :: rest)
      | n + 1 => (none, (m', ⟨n, fault.error⟩) :: rest)
    else
      let (due, rest') := call m rest
      (due, (m', fault) :: rest')

end FaultPlan

end Federation
