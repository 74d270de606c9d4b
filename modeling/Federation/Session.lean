import Federation.Authority
import Federation.Directory.Network
import Federation.Store.Operation

/-!
# Federation.Session — a client at work

A session is a client of a store over in-memory directories. It carries out steps one after
another and keeps the handles that it was given under names of its own choice. Besides operations
of the store, a step can look at the store, at a handle or at the directories, ask the authority
for permissions, or go to a directory directly.
-/

namespace Federation

/-- A client of a store, with all that a later step can depend on. -/
structure Session where
  store : Store
  directories : List Directory
  authority : Authority
  /-- The handles that were kept, by name. -/
  kept : Dict String ((k : Kind) × Handle k)

/-! ## Steps -/

/-- What a client does in one step. Handles are given by the names under which they were kept. -/
inductive Step where
  | operate (op : Operation)
  | act (k : Kind) (handle : String) (action : Action k)
  | isAuthorized (k : Kind) (handle : String) (permission : Permission)
  | describe (k : Kind) (handle : String)
  /-- The primary backend of the store that a handle belongs to. -/
  | primaryOf (k : Kind) (handle : String)
  | compare (first second : String)
  | primaryName
  | backendNames
  | storeConfig
  | order
  | grant (uniqueId : String) (permission : Permission)
  /-- The configuration of a directory, by its position. -/
  | inspect (index : Nat)
  /-- A batch handed directly to a directory. -/
  | addDirectly (index : Nat) (k : Kind) (payloads : List (Payload k))
  /-- A selection of claims asked directly of a directory. -/
  | selectDirectly (index : Nat) (k : Kind) (id : String) (metas : List MetaClaim)
  | dump

/-- What a step shows to the client. -/
inductive Shown where
  | answer (a : Answer)
  | text (s : String)
  | texts (l : List String)
  | config (c : StoreConfig)
  | backend (b : BackendConfig)
  | backends (l : List BackendConfig)
  | directories (l : List Directory)

/-- Why a step shows nothing. -/
inductive StepError where
  | store (e : StoreError)
  | backend (e : BackendError)
  /-- No handle of the kind is kept under the name. -/
  | noHandle
  /-- There is no directory at the position. -/
  | noDirectory

/-- A question that was asked during a step. -/
inductive Inquiry where
  | backend (id : Int32) (q : Question)
  | authority (c : PermissionCheck)

/-- What came of a step. -/
structure Report where
  result : Except StepError Shown
  inquiries : List Inquiry
  events : List Event

namespace Session

/-! ## Kept handles -/

/-- The handle of a kind that is kept under a name. -/
def handle? (s : Session) (k : Kind) (name : String) : Option (Handle k) :=
  match s.kept.get? name with
  | some ⟨k', h⟩ => if e : k' = k then some (e ▸ h) else none
  | none => none

/-- Keeps a handle under a name. -/
def keep {k : Kind} (s : Session) (name : String) (h : Handle k) : Session :=
  { s with kept := s.kept.insert name ⟨k, h⟩ }

/-- Keeps handles under a name with their positions, counted from `n`. -/
def keepFrom {k : Kind} (name : String) (n : Nat) : List (Handle k) → Session → Session
  | [], s => s
  | h :: rest, s =>
    keepFrom name (n + 1) rest (s.keep (name ++ "." ++ String.ofList (Nat.toDigits 10 n)) h)

/-- Keeps the handles of an answer under the name that is asked for, if one is. -/
def keepAnswer (s : Session) (name : Option String) (a : Answer) : Session :=
  match name, a with
  | some name, .handle _ h => s.keep name h
  | some name, .handles _ hs => keepFrom name 0 hs s
  | _, _ => s

/-! ## Carrying out steps -/

/-- A report of a step that asked nobody. -/
def quiet (s : Session) (result : Except StepError Shown) : Session × Report :=
  (s, ⟨result, [], []⟩)

/-- Carries out an operation of the store. -/
def operate (s : Session) (name : Option String) (op : Operation) : Session × Report :=
  let run := (s.store.perform op).run Directory.network s.directories
  let s' := { s with directories := run.state }
  let inquiries := run.asked.map fun q => .backend q.1 q.2
  match run.result with
  | .ok a => (s'.keepAnswer name a, ⟨.ok (.answer a), inquiries, run.events⟩)
  | .error e => (s', ⟨.error (.store e), inquiries, run.events⟩)

/-- Puts a request directly to the directory at a position. -/
def askDirectly (s : Session) (index : Nat) (r : Request) (present : r.Answer → Shown) :
    Session × Report :=
  match s.directories[index]? with
  | none => s.quiet (.error .noDirectory)
  | some d =>
    let reply := d.serve r
    let s' := { s with directories := s.directories.set index reply.state }
    let inquiries := reply.log.map (.backend d.config.id ·)
    match reply.outcome with
    | .ok a => (s', ⟨.ok (present a), inquiries, []⟩)
    | .error e => (s', ⟨.error (.backend e), inquiries, []⟩)

/-- Whether two kept handles are equal; they must be of one kind. -/
def compare (s : Session) (first second : String) : Except StepError Shown :=
  match s.kept.get? first, s.kept.get? second with
  | some ⟨k, a⟩, some ⟨k', b⟩ =>
    if e : k' = k then .ok (.answer (.truth (a = e ▸ b))) else .error .noHandle
  | _, _ => .error .noHandle

/-- Carries out a step; the handles that it returns are kept under the name, if one is given. -/
def step (s : Session) (name : Option String) : Step → Session × Report
  | .operate op => s.operate name op
  | .act k handle action =>
    match s.handle? k handle with
    | some h => s.operate name (h.act action)
    | none => s.quiet (.error .noHandle)
  | .isAuthorized k handle permission =>
    match s.handle? k handle with
    | some h =>
      let check := h.permissionCheck permission
      let result := match s.authority.check check with
        | .ok b => .ok (.answer (.truth b))
        | .error e => .error (.store e)
      (s, ⟨result, [.authority check], []⟩)
    | none => s.quiet (.error .noHandle)
  | .describe k handle =>
    match s.handle? k handle with
    | some h => s.quiet (.ok (.text h.describe))
    | none => s.quiet (.error .noHandle)
  | .primaryOf k handle =>
    match s.handle? k handle with
    | some _ => s.quiet (.ok (.text s.store.registry.primary.name))
    | none => s.quiet (.error .noHandle)
  | .compare first second => s.quiet (s.compare first second)
  | .primaryName => s.quiet (.ok (.text s.store.registry.primary.name))
  | .backendNames => s.quiet (.ok (.texts s.store.registry.names))
  | .storeConfig => s.quiet (.ok (.config s.store.config))
  | .order => s.quiet (.ok (.backends s.store.registry.ordered))
  | .grant uniqueId permission =>
    { s with authority := s.authority.grant uniqueId permission }.quiet (.ok (.answer .nothing))
  | .inspect index =>
    match s.directories[index]? with
    | some d => s.quiet (.ok (.backend d.config))
    | none => s.quiet (.error .noDirectory)
  | .addDirectly index k payloads => s.askDirectly index (.addAll k payloads) .texts
  | .selectDirectly index k id metas =>
    s.askDirectly index (.claimsFor k id metas) fun claims => .answer (.claims claims)
  | .dump => s.quiet (.ok (.directories s.directories))

/-! ## Starting -/

/-- Starts a session with a store over the enabled ones of the directories. -/
def start (config : StoreConfig) (directories : List Directory) (authorityOutage : Option String) :
    Except StoreError Session × List Event :=
  let run := (Store.create config (directories.map (·.config))).run Directory.network directories
  (run.result.map fun store => ⟨store, directories, ⟨[], authorityOutage⟩, .empty⟩, run.events)

end Session

end Federation
