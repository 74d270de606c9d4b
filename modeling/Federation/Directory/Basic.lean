import Federation.Backend.Config
import Federation.Backend.Default
import Federation.Directory.Contents
import Federation.Directory.Fault

/-!
# Federation.Directory.Basic — the in-memory directory

A backend that keeps its records in memory. It can offer all changes, additions only, or none at
all; it can be out of order for logins; and single methods can have planned faults. A planned
fault strikes before the call has any effect.
-/

namespace Federation

/-- Which changes a directory offers. -/
inductive Mode where
  | full
  /-- Single additions only. -/
  | addOnly
  | readOnly
deriving DecidableEq

/-- Whether a directory has a method of its own for the request. Claims are never selected by the
directory itself. -/
def Mode.offers : Mode → Request → Bool
  | _, .claimsFor .. => false
  | .full, _ => true
  | .addOnly, .add .. => true
  | _, r => !r.isWrite

/-- An in-memory directory. -/
structure Directory where
  config : BackendConfig
  mode : Mode
  /-- The claim URIs by which users can be looked up. -/
  supported : List String
  /-- The error with which every login fails, if the directory is out of order. -/
  outage : Option BackendError
  faults : FaultPlan
  contents : Contents
deriving DecidableEq

namespace Directory

/-- What the directory does with a request that reaches its records. -/
def respond (d : Directory) (r : Request) : Except BackendError r.Answer × Contents :=
  match r, d.outage with
  | .authenticate .., some e => (.error e, d.contents)
  | r, _ => d.contents.respond r

/-- A call of one of the directory's own methods: a planned fault, or its effect on the records. -/
def call (r : Request) (d : Directory) : Reply r Directory :=
  match d.faults.call r.method with
  | (some e, faults) => ⟨.error e, { d with faults }, [.request r]⟩
  | (none, faults) =>
    let (outcome, contents) := d.respond r
    ⟨outcome, { d with faults, contents }, [.request r]⟩

/-- A request for which no other request can stand in. -/
def single (r : Request) (d : Directory) : Reply r Directory :=
  if d.mode.offers r then d.call r else Backend.refuse r d

/-- A request to the directory. Claims are selected, and a directory without a batch method adds
one by one. -/
def serve : Backend.Service Directory
  | .claimsFor k id metas, d => Backend.selectClaims single k id metas d
  | .addAll k payloads, d =>
    if d.mode.offers (.addAll k payloads) then d.call (.addAll k payloads)
    else Backend.addOneByOne single k payloads d
  | r, d => single r d

/-- Whether users can be looked up by the claim URI. -/
def supports (d : Directory) (uri : String) : Bool :=
  d.supported.contains uri

/-! ## Setting up -/

/-- An empty directory that offers everything and looks users up by their name. -/
def new (config : BackendConfig) : Directory :=
  ⟨config, .full, [Claim.usernameUri], none, [], .empty⟩

end Directory

namespace Contents

/-- Records a user with a name and a password. -/
def seedUser (c : Contents) (id username password : String) : Contents :=
  (c.setEntity .user id [⟨Claim.usernameUri, username⟩]).setPassword id
    (some (Credential.password password).secret)

/-- Records a group with a name. -/
def seedGroup (c : Contents) (id name : String) : Contents :=
  c.setEntity .group id [⟨Claim.groupnameUri, name⟩]

end Contents

end Federation
