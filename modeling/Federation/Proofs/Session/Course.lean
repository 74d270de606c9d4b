import Federation.Proofs.Store.Conduct
import Federation.Session

/-!
# Federation.Proofs.Session.Course — how a session goes on

A step goes on in one of three ways. It looks at something, and then at most the permissions are
other ones; it puts a request directly to a directory; or it carries out a command. No step changes
the store.
-/

namespace Federation

open Directory (network)

/-- The step goes to a directory past the store. -/
def Step.isDirect : Step → Bool
  | addDirectly .. | selectDirectly .. => true
  | _ => false

namespace Session

variable {s : Session}

/-- Carries out steps one after another, each with a name to keep handles under, if any. -/
def after (s : Session) : List (Option String × Step) → Session
  | [] => s
  | (name, step) :: rest => (s.step name step).1.after rest

/-- The command that a step comes down to. Actions need a handle that was kept; looking at the
store, at handles or at directories, and going past the store, are no commands. -/
def command? (s : Session) : Step → Option Command
  | .operate op => some (.operate op)
  | .act k handle action => (s.handle? k handle).map fun h => .act k h action
  | _ => none

/-- A step that comes down to an operation of the store is that operation. -/
theorem eq_operate_of_command? {step : Step} {op : Operation}
    (h : s.command? step = some (.operate op)) : step = .operate op := by
  cases step with
  | operate op' =>
    injection h with h
    injection h with h
    rw [h]
  | act k handle action =>
    rcases Option.map_eq_some_iff.1 h with ⟨_, -, hact⟩
    contradiction
  | _ => contradiction

/-! ## The start -/

/-- A session starts with a store that was made of the configurations of its directories, and with
no handles. -/
theorem of_start {config : StoreConfig} {ds : List Directory} {outage : Option String}
    {events : List Event} (hstart : start config ds outage = (.ok s, events)) :
    ((Store.create config (ds.map (·.config))).run network ds).result = .ok s.store ∧
      s.directories = ds ∧ s.kept = .empty := by
  unfold start at hstart
  cases hmade : ((Store.create config (ds.map (·.config))).run network ds).result with
  | error e => simp only [hmade, Except.map, Prod.mk.injEq, reduceCtorEq, false_and] at hstart
  | ok store =>
    simp only [hmade, Except.map, Prod.mk.injEq, Except.ok.injEq] at hstart
    rw [← hstart.1]
    exact ⟨rfl, rfl, rfl⟩

/-! ## Operations -/

/-- Keeping handles does not touch the store or the directories. -/
theorem keepFrom_eq {k : Kind} (name : String) (n : Nat) (hs : List (Handle k)) (s : Session) :
    (keepFrom name n hs s).store = s.store ∧
      (keepFrom name n hs s).directories = s.directories := by
  induction hs generalizing n s with
  | nil => exact ⟨rfl, rfl⟩
  | cons h rest ih => exact ih (n + 1) _

theorem keepAnswer_eq (s : Session) (name : Option String) (a : Answer) :
    (s.keepAnswer name a).store = s.store ∧ (s.keepAnswer name a).directories = s.directories := by
  cases name with
  | none => exact ⟨rfl, rfl⟩
  | some name =>
    cases a with
    | handles k hs => exact keepFrom_eq name 0 hs s
    | _ => exact ⟨rfl, rfl⟩

/-- An operation leaves the store as it is, and the directories as its run does. -/
theorem operate_eq (s : Session) (name : Option String) (op : Operation) :
    (s.operate name op).1.store = s.store ∧ (s.operate name op).1.directories =
      ((s.store.perform op).run network s.directories).state := by
  unfold operate
  cases hresult : ((s.store.perform op).run network s.directories).result with
  | error e => simp only [hresult, and_self]
  | ok a => simp only [hresult, keepAnswer_eq, and_self]

/-- What an operation answers is what its run does. -/
theorem result_step_of_ok {op : Operation} {a : Answer}
    (h : ((s.store.perform op).run network s.directories).result = .ok a)
    (name : Option String) : (s.step name (.operate op)).2.result = .ok (.answer a) := by
  simp only [Session.step, operate, h]

/-! ## Requests to directories -/

/-- What is asked directly goes to one of the directories, and is not logged. -/
theorem askDirectly_eq (s : Session) (index : Nat) (r : Request) (present : r.Answer → Shown) :
    ∃ ds, (s.askDirectly index r present).1 = { s with directories := ds } ∧
      (s.askDirectly index r present).2.events = [] ∧
      (ds = s.directories ∨ ∃ d, s.directories[index]? = some d ∧
        ds = s.directories.set index (d.serve r).state) := by
  unfold askDirectly
  cases hd : s.directories[index]? with
  | none => exact ⟨_, rfl, rfl, .inl rfl⟩
  | some d =>
    refine ⟨s.directories.set index (d.serve r).state, ?_⟩
    cases houtcome : (d.serve r).outcome with
    | error e =>
      simp only [houtcome]
      exact ⟨trivial, trivial, .inr ⟨d, rfl, rfl⟩⟩
    | ok a =>
      simp only [houtcome]
      exact ⟨trivial, trivial, .inr ⟨d, rfl, rfl⟩⟩

/-! ## Steps -/

/-- The ways in which a step goes on. -/
inductive Proceeds (s : Session) (name : Option String) (step : Step) : Prop
  /-- It looks at something, or is refused; at most the permissions are other ones. -/
  | still (authority : Authority) (hc : s.command? step = none)
      (hleft : (s.step name step).1 = { s with authority })
      (hevents : (s.step name step).2.events = [])
  | direct (index : Nat) (r : Request) (present : r.Answer → Shown)
      (hc : s.command? step = none) (hdirect : step.isDirect = true)
      (hstep : s.step name step = s.askDirectly index r present)
  | command (c : Command) (hc : s.command? step = some c)
      (hstep : s.step name step = s.operate name c.operation)

theorem proceeds_of_still {name : Option String} {step : Step} (hc : s.command? step = none)
    (h : (s.step name step).1 = s ∧ (s.step name step).2.events = []) : s.Proceeds name step :=
  .still s.authority hc h.1 h.2

/-- Every step goes on in one of these ways. -/
theorem proceeds (s : Session) (name : Option String) (step : Step) : s.Proceeds name step := by
  cases step with
  | operate op => exact .command (.operate op) rfl rfl
  | act k handle action =>
    cases hh : s.handle? k handle with
    | none =>
      have hc : s.command? (.act k handle action) = none := by
        rw [command?, hh, Option.map_none]
      apply proceeds_of_still hc
      simp only [Session.step, hh, quiet, and_self]
    | some h =>
      have hc : s.command? (.act k handle action) = some (.act k h action) := by
        rw [command?, hh, Option.map_some]
      have hstep : s.step name (.act k handle action) = s.operate name (h.act action) := by
        simp only [Session.step, hh]
      exact .command (.act k h action) hc hstep
  | isAuthorized k handle permission | describe k handle | primaryOf k handle =>
    apply proceeds_of_still rfl
    cases hh : s.handle? k handle with
    | none => simp only [Session.step, hh, quiet, and_self]
    | some h => simp only [Session.step, hh, quiet, and_self]
  | inspect index =>
    apply proceeds_of_still rfl
    cases hd : s.directories[index]? with
    | none => simp only [Session.step, hd, quiet, and_self]
    | some d => simp only [Session.step, hd, quiet, and_self]
  | addDirectly index k payloads => exact .direct index (.addAll k payloads) .texts rfl rfl rfl
  | selectDirectly index k id metas =>
    exact .direct index (.claimsFor k id metas) (fun claims => .answer (.claims claims)) rfl rfl rfl
  | grant uniqueId permission => exact .still (s.authority.grant uniqueId permission) rfl rfl rfl
  | compare | primaryName | backendNames | storeConfig | order | dump =>
    exact proceeds_of_still rfl ⟨rfl, rfl⟩

/-- No step changes the store. -/
theorem store_step (s : Session) (name : Option String) (step : Step) :
    (s.step name step).1.store = s.store := by
  cases s.proceeds name step with
  | still authority hc hleft hevents => rw [hleft]
  | direct index r present hc hdirect hstep =>
    obtain ⟨ds, hleft, -⟩ := s.askDirectly_eq index r present
    rw [hstep, hleft]
  | command c hc hstep => rw [hstep, (s.operate_eq name c.operation).1]

/-- What every step preserves, a session preserves. -/
theorem after_preserves {I : Session → Prop}
    (hstep : ∀ s name step, I s → I (s.step name step).1) (hs : I s)
    (steps : List (Option String × Step)) : I (s.after steps) := by
  induction steps generalizing s with
  | nil => exact hs
  | cons first rest ih => exact ih (hstep s first.1 first.2 hs)

/-- The store is never changed. -/
theorem store_after (s : Session) (steps : List (Option String × Step)) :
    (s.after steps).store = s.store := by
  apply after_preserves (I := fun later => later.store = s.store)
  · intro later name step hsame
    rw [store_step, hsame]
  · rfl

end Session

end Federation
