import Federation.Proofs.Session.Course
import Federation.Proofs.Store.Requests
import Federation.Proofs.Store.Secrecy

/-!
# Federation.Proofs.Store.AuditEvents — the log tells what was changed, and what went wrong

At the level of `info` the log tells of every addition and deletion that succeeded, once, and of
nothing else: with the declared name of the backend that made the change, and for a batch with the
number of handles that are returned. At the level of `warn` it tells of every failure of a backend
that ends a login without a backend name, once, and of nothing else.
-/

namespace Federation

/-! ## What is to be told -/

namespace Operation

/-- The operation adds or deletes entities. -/
def isAudited : Operation → Bool
  | add .. | addAll .. | delete .. => true
  | _ => false

/-- The operation is a login that names no backend. -/
def isUnnamedLogin : Operation → Bool
  | authenticate _ _ name => (Store.given? name).isNone
  | _ => false

end Operation

namespace Store

open Dialogue (ofExcept demand)

/-- The event tells of the change that an operation made: the backend that was asked for it made
it, and its declared name is told, for a batch with the number of handles in the answer. -/
inductive Tells (s : Store) : Operation → List Exchange → Answer → Event → Prop
  | added {k : Kind} {payload : Payload k} {name : Option String} {b : BackendConfig}
      {l : String} {log : List Question} {e : Event} (hb : b ∈ s.registry.ordered)
      (he : e = .added k b.name) (hfields : e.fields = [("backend", .text b.name)]) :
      Tells s (.add k payload name) [.request b.id (.add k payload) (.ok l) log]
        (.handle k (.of b l)) e
  | addedAll {k : Kind} {payloads : List (Payload k)} {name : Option String} {b : BackendConfig}
      {ls : List String} {hs : List (Handle k)} {log : List Question} {e : Event}
      (hb : b ∈ s.registry.ordered) (hhandles : hs = ls.map (.of b))
      (he : e = .addedAll k b.name hs.length)
      (hfields : e.fields = [("backend", .text b.name), ("count", .count hs.length)]) :
      Tells s (.addAll k payloads name) [.request b.id (.addAll k payloads) (.ok ls) log]
        (.handles k hs) e
  | deleted {k : Kind} {uniqueId : String} {b : BackendConfig} {l : String}
      {log : List Question} {e : Event} (hb : b ∈ s.registry.ordered)
      (he : e = .deleted k b.name) (hfields : e.fields = [("backend", .text b.name)]) :
      Tells s (.delete k uniqueId) [.request b.id (.delete k l) (.ok ()) log] .nothing e

/-- The event tells of the failure of a backend that ended a login: the last that was said to any
backend was the login, to this one, and its failure is the cause of the error. -/
structure Warns (s : Store) (op : Operation) (xs : List Exchange) (err : StoreError)
    (b : BackendConfig) (cause : BackendError) (e : Event) : Prop where
  registered : b ∈ s.registry.ordered
  asked : ∃ claim credentials name before log, op = .authenticate claim credentials name ∧
    xs = before ++ [.request b.id (.authenticate claim credentials) (.error cause) log]
  failed : err = .backendFailure (.authenticate b.name) cause
  told : e = .attemptFailed b.name cause
  fields : e.fields = [("backend", .text b.name), ("error", .text cause.text)]

/-- What came of an operation is told faithfully in the log. -/
structure Faithful (s : Store) (op : Operation) (o : Outcome) : Prop where
  /-- Something is told exactly if entities were added or deleted, -/
  info_iff : (∃ e ∈ o.events, e.level = .info) ↔ op.isAudited = true ∧ ∃ a, o.result = .ok a
  /-- and then once. -/
  info : ∀ e ∈ o.events, e.level = .info → o.events.filter (·.level = .info) = [e] ∧
    ∃ a, o.result = .ok a ∧ s.Tells op o.exchanges a e
  /-- There is a warning exactly if a login without a backend name ended with a failure, -/
  warn_iff : (∃ e ∈ o.events, e.level = .warn) ↔
    op.isUnnamedLogin = true ∧ ∃ err, o.result = .error err ∧ err.kind = .backendFailure
  /-- and then once. -/
  warn : ∀ e ∈ o.events, e.level = .warn → o.events.filter (·.level = .warn) = [e] ∧
    ∃ err b cause, o.result = .error err ∧ s.Warns op o.exchanges err b cause e

variable {ω : Type} {s : Store} {k : Kind} {op : Operation} {o : Outcome}

/-! ## What is heard -/

/-- What is told of above the level of debugging is heard. -/
theorem filter_level {level : Level} (hlevel : level ≠ .debug) (es : List Event) :
    es.filter (·.level = level) = (es.filter (·.isAudible)).filter (·.level = level) := by
  rw [List.filter_filter]
  refine List.filter_congr fun e _ => ?_
  have himp : e.level = level → e.level ≠ .debug := fun he => he ▸ hlevel
  rw [Event.isAudible, ← Bool.decide_and]
  exact decide_eq_decide.2 ⟨fun he => ⟨he, himp he⟩, And.left⟩

/-- Whether an operation is told faithfully depends on what is heard of it only. -/
theorem faithful_of_heard
    (h : s.Faithful op { o with events := o.events.filter (·.isAudible) }) : s.Faithful op o := by
  have hheard : ∀ {level}, level ≠ .debug → ∀ e ∈ o.events, e.level = level →
      e ∈ o.events.filter (·.isAudible) := by
    intro level hne e he hlevel
    exact List.mem_filter.2 ⟨he, decide_eq_true (hlevel ▸ hne)⟩
  have hexists : ∀ {level}, level ≠ .debug → ((∃ e ∈ o.events, e.level = level) ↔
      ∃ e ∈ o.events.filter (·.isAudible), e.level = level) := by
    intro level hne
    constructor
    · rintro ⟨e, he, hlevel⟩
      exact ⟨e, hheard hne e he hlevel, hlevel⟩
    · rintro ⟨e, he, hlevel⟩
      exact ⟨e, (List.mem_filter.1 he).1, hlevel⟩
  have hinfo : Level.info ≠ .debug := by decide
  have hwarn : Level.warn ≠ .debug := by decide
  constructor
  case info_iff => exact (hexists hinfo).trans h.info_iff
  case info =>
    intro e he hlevel
    rcases h.info e (hheard hinfo e he hlevel) hlevel with ⟨honce, htold⟩
    exact ⟨(filter_level hinfo _).trans honce, htold⟩
  case warn_iff => exact (hexists hwarn).trans h.warn_iff
  case warn =>
    intro e he hlevel
    rcases h.warn e (hheard hwarn e he hlevel) hlevel with ⟨honce, htold⟩
    exact ⟨(filter_level hwarn _).trans honce, htold⟩

/-- An operation of which nothing is to be told is told faithfully if nothing is heard of it. -/
theorem faithful_of_silence (hinfo : ¬ (op.isAudited = true ∧ ∃ a, o.result = .ok a))
    (hwarn : ¬ (op.isUnnamedLogin = true ∧ ∃ err, o.result = .error err ∧
      err.kind = .backendFailure)) (hheard : o.events.filter (·.isAudible) = []) :
    s.Faithful op o := by
  apply faithful_of_heard
  rw [hheard]
  have hnone : ∀ level, ¬ ∃ e ∈ ([] : List Event), e.level = level := by
    rintro level ⟨e, he, -⟩
    contradiction
  constructor
  case info_iff => exact iff_of_false (hnone _) hinfo
  case info => exact List.forall_mem_nil _
  case warn_iff => exact iff_of_false (hnone _) hwarn
  case warn => exact List.forall_mem_nil _

/-! ## Operations that tell nothing -/

/-- The question whether an entity is there logs nothing. -/
theorem logs_ensurePresent {P : Event → Prop} (p : Place) (uniqueId : String) :
    (ensurePresent k p uniqueId).Logs P := by
  refine .bind (Dialogue.logs_demand _ _ _) fun present => ?_
  cases present with
  | false => trivial
  | true => trivial

/-- Where there may be nothing to do, no more is logged. -/
theorem logs_unlessIdle {α : Type} {P : Event → Prop} {d : Dialogue α} {a : α} {c : Prop}
    [Decidable c] (h : d.Logs P) : (if c then .done a else d).Logs P := by
  by_cases hc : c
  · rw [if_pos hc]
    trivial
  · rw [if_neg hc]
    exact h

/-- A login at one backend logs no more than that it was accepted. -/
theorem logs_authenticateAt (b : BackendConfig) (claim : Claim) (credentials : List Credential) :
    (authenticateAt b claim credentials).Logs (·.level = .debug) := by
  rintro (e | localId)
  · show Dialogue.Logs _ (if e.isAuthentication then _ else _)
    split
    · trivial
    · trivial
  · exact ⟨rfl, trivial⟩

/-- A login that names a backend is an attempt there. -/
theorem logs_authenticate_named {claim : Claim} {credentials : List Credential}
    {name : Option String} (hname : given? name ≠ none) :
    (s.authenticate claim credentials name).Logs (·.level = .debug) := by
  unfold authenticate
  split
  · trivial
  · split
    · exact .guard fun b => logs_authenticateAt b claim credentials
    · rename_i hnone
      exact absurd hnone hname

/-- All other operations are logged for debugging, if at all. -/
theorem logs_perform (haudited : op.isAudited = false) (hlogin : op.isUnnamedLogin = false) :
    (s.perform op).Logs (·.level = .debug) := by
  cases op with
  | add | addAll | delete => contradiction
  | authenticate claim credentials name =>
    have hname : given? name ≠ none := by
      intro hnone
      rw [Operation.isUnnamedLogin, hnone] at hlogin
      contradiction
    exact .map _ (logs_authenticate_named hname)
  | get k uniqueId =>
    exact .map _ (.guard fun p => .bind (logs_ensurePresent p uniqueId) fun _ => trivial)
  | getByClaim k claim name =>
    refine .map _ (.guard fun _ => .guard fun b => .bind (Dialogue.logs_demand _ _ _) fun found => ?_)
    cases found with
    | none => trivial
    | some l => trivial
  | list k filter offset length name =>
    refine .map _ (.guard fun _ => .guard fun page => ?_)
    cases page with
    | none => trivial
    | some page => exact .guard fun b => .map _ (Dialogue.logs_demand _ _ _)
  | memberships k uniqueId =>
    refine .map _ (.guard fun p => .bind (logs_ensurePresent p uniqueId) fun _ => ?_)
    exact .map _ (Dialogue.logs_demand _ _ _)
  | isMember user group =>
    refine .map _ (.guard fun u => .guard fun g => ?_)
    by_cases hone : u.backend.id = g.backend.id
    · rw [if_pos hone]
      refine .bind (logs_ensurePresent u user) fun _ => ?_
      exact .bind (logs_ensurePresent g group) fun _ => Dialogue.logs_demand _ _ _
    · rw [if_neg hone]
      exact ⟨rfl, trivial⟩
  | claims k uniqueId => exact .map _ (.guard fun p => Dialogue.logs_demand _ _ _)
  | claimsFor k uniqueId metas =>
    exact .map _ (.guard fun p => logs_unlessIdle (Dialogue.logs_demand _ _ _))
  | replaceClaims k uniqueId claims => exact .map _ (.guard fun p => Dialogue.logs_demand _ _ _)
  | changeClaims k uniqueId add remove =>
    exact .map _ (.guard fun p => logs_unlessIdle (Dialogue.logs_demand _ _ _))
  | replaceCredentials user credentials =>
    exact .map _ (.guard fun p => Dialogue.logs_demand _ _ _)
  | changeCredentials user add remove =>
    exact .map _ (.guard fun p => logs_unlessIdle (Dialogue.logs_demand _ _ _))
  | replaceMemberships k uniqueId others =>
    exact .map _ (.guard fun p => .guard fun _ => Dialogue.logs_demand _ _ _)
  | changeMemberships k uniqueId add remove =>
    refine .map _ (.guard fun p => logs_unlessIdle ?_)
    exact .guard fun _ => .guard fun _ => Dialogue.logs_demand _ _ _

/-! ## Additions and deletions -/

/-- The dialogue of an operation that refuses its arguments, or asks a backend for one change and
tells of it once it was made. -/
inductive Announces (s : Store) (op : Operation) (d : Dialogue Answer) : Prop
  | refused (reason : InvalidInput) (h : d = .fail (.invalidInput reason))
  | change (b : Int32) (task : Task) (r : Request) (event : r.Answer → Event)
      (value : r.Answer → Answer)
      (h : d = demand task b r >>= fun a => .note (event a) (.done (value a)))
      (htells : ∀ a log, s.Tells op [.request b r (.ok a) log] (value a) (event a))

/-- A check refuses the arguments of an operation before it announces anything. -/
theorem announces_guard {α : Type} {x : Except StoreError α} {f : α → Dialogue Answer}
    (hx : Guard x) (hf : ∀ a, x = .ok a → s.Announces op (f a)) :
    s.Announces op (ofExcept x >>= f) := by
  cases x with
  | error e =>
    obtain ⟨reason, rfl⟩ := hx e rfl
    exact .refused reason rfl
  | ok a => exact hf a rfl

/-- Additions and deletions are announced. -/
theorem announces_perform (haudited : op.isAudited = true) : s.Announces op (s.perform op) := by
  cases op with
  | add k payload name =>
    show s.Announces _ (Answer.handle k <$> s.add k payload name)
    unfold add
    simp only [map_bind]
    refine announces_guard (guard_validate s payload) fun _ _ => ?_
    refine announces_guard (guard_resolve s name) fun b hb => ?_
    exact .change b.id (.add k b.name) (.add k payload) _ _ rfl
      fun l log => .added (mem_of_resolve hb) rfl rfl
  | addAll k payloads name =>
    show s.Announces _ (Answer.handles k <$> s.addAll k payloads name)
    unfold addAll
    simp only [map_bind]
    refine announces_guard (guard_validateBatch s payloads) fun _ _ => ?_
    refine announces_guard (guard_resolve s name) fun b hb => ?_
    refine .change b.id (.addAll k b.name) (.addAll k payloads) _ _ rfl fun ls log => ?_
    have hcount : ls.length = (ls.map (Handle.of (k := k) b)).length :=
      (List.length_map _).symm
    exact .addedAll (mem_of_resolve hb) rfl (by rw [hcount]) (by rw [hcount]; rfl)
  | delete k uniqueId =>
    show s.Announces _ ((fun _ => Answer.nothing) <$> s.delete k uniqueId)
    unfold delete
    simp only [map_bind]
    refine announces_guard (guard_locate s k uniqueId) fun p hp => ?_
    exact .change p.backend.id (.delete k uniqueId) (.delete k p.localId) _ _ rfl
      fun _ log => .deleted (mem_of_locate hp) rfl rfl
  | _ => contradiction

/-- The event that tells of a change is one for information. -/
theorem Tells.level {xs : List Exchange} {a : Answer} {e : Event} (h : s.Tells op xs a e) :
    e.level = .info := by
  cases h with
  | added _ he _ | addedAll _ _ he _ | deleted _ he _ => rw [he]; rfl

/-- An addition or deletion of which the one event of the log tells is told faithfully. -/
theorem faithful_of_tells {a : Answer} {e : Event} (haudited : op.isAudited = true)
    (hresult : o.result = .ok a) (hevents : o.events = [e]) (h : s.Tells op o.exchanges a e) :
    s.Faithful op o := by
  have hnever : ¬ ∃ e' ∈ [e], e'.level = .warn := by
    rintro ⟨e', he', hwarn⟩
    rw [List.mem_singleton.1 he', h.level] at hwarn
    contradiction
  constructor
  case info_iff =>
    rw [hevents]
    exact iff_of_true ⟨e, List.mem_singleton_self e, h.level⟩ ⟨haudited, a, hresult⟩
  case info =>
    rw [hevents]
    intro e' he' _
    rw [List.mem_singleton.1 he']
    refine ⟨?_, a, hresult, h⟩
    rw [List.filter_singleton, h.level]
    rfl
  case warn_iff =>
    rw [hevents]
    apply iff_of_false hnever
    rintro ⟨-, err, herr, -⟩
    rw [hresult] at herr
    contradiction
  case warn =>
    rw [hevents]
    exact fun e' he' hwarn => absurd ⟨e', he', hwarn⟩ hnever

/-- What is announced is told once it was done, and otherwise nothing is. -/
theorem faithful_of_announces (haudited : op.isAudited = true) (h : s.Announces op (s.perform op))
    (net : Network ω) (w : ω) : s.Faithful op (s.carryOut net (.operate op) w).1 := by
  have hlogin : ¬ op.isUnnamedLogin = true := by
    cases op with
    | authenticate => contradiction
    | _ =>
      intro hlogin
      contradiction
  cases h with
  | refused reason h =>
    have hobey : s.obey (.operate op) = .fail (.invalidInput reason) := h
    rw [carryOut, hobey]
    refine faithful_of_silence ?_ (fun hwarn => hlogin hwarn.1) rfl
    rintro ⟨-, a, ha⟩
    contradiction
  | change b task r event value h htells =>
    have hobey : s.obey (.operate op) =
      demand task b r >>= fun a => .note (event a) (.done (value a)) := h
    rw [carryOut, hobey, Dialogue.demand_bind]
    rcases hserve : net.serve b r w with ⟨cause | a, w', log⟩
    · simp only [Dialogue.run, Dialogue.exchanges, hserve]
      refine faithful_of_silence ?_ (fun hwarn => hlogin hwarn.1) rfl
      rintro ⟨-, a, ha⟩
      contradiction
    · simp only [Dialogue.run, Dialogue.exchanges, hserve]
      exact faithful_of_tells haudited rfl rfl (htells a log)

/-! ## Logins without a backend name -/

/-- A search ends with a failure only if the last that was said was this failure of one of the
backends. -/
theorem failure_scan (claim : Claim) (credentials : List Credential) {bs : List BackendConfig}
    {net : Network ω} {w : ω} {err : StoreError}
    (h : ((scan claim credentials bs).run net w).result = .error err)
    (hkind : err.kind = .backendFailure) :
    ∃ b ∈ bs, ∃ cause before log, err = .backendFailure (.authenticate b.name) cause ∧
      (scan claim credentials bs).exchanges net w =
        before ++ [.request b.id (.authenticate claim credentials) (.error cause) log] := by
  induction bs generalizing w with
  | nil =>
    rw [← Except.error.inj h] at hkind
    contradiction
  | cons b rest ih =>
    cases attempt net claim credentials b rest w with
    | skipped _ hx hr =>
      rw [hr] at h
      rcases ih h with ⟨b', hb', cause, before, log, herr, hlast⟩
      refine ⟨b', List.mem_cons_of_mem b hb', cause, .support b.id claim.uri false :: before, log,
        herr, ?_⟩
      rw [hx, hlast]
      rfl
    | accepted localId _ _ _ _ _ hr =>
      rw [hr] at h
      contradiction
    | refused e w' said _ _ _ hx hr =>
      rw [hr] at h
      rcases ih h with ⟨b', hb', cause, before, log, herr, hlast⟩
      refine ⟨b', List.mem_cons_of_mem b hb', cause, .support b.id claim.uri true ::
        .request b.id (.authenticate claim credentials) (.error e) said :: before, log, herr, ?_⟩
      rw [hx, hlast]
      rfl
    | broken e _ log _ _ _ hx hr =>
      rw [hr] at h
      exact ⟨b, List.mem_cons_self, e, [.support b.id claim.uri true], log,
        (Except.error.inj h).symm, hx⟩

/-- A login that ended with the failure of which alone is heard is told faithfully. -/
theorem faithful_of_warns {err : StoreError} {b : BackendConfig} {cause : BackendError}
    {e : Event} (hlogin : op.isUnnamedLogin = true) (hresult : o.result = .error err)
    (hheard : o.events.filter (·.isAudible) = [e]) (h : s.Warns op o.exchanges err b cause e) :
    s.Faithful op o := by
  have hlevel : e.level = .warn := by rw [h.told]; rfl
  have hkind : err.kind = .backendFailure := by rw [h.failed]; rfl
  have hnever : ¬ ∃ e' ∈ [e], e'.level = .info := by
    rintro ⟨e', he', hinfo⟩
    rw [List.mem_singleton.1 he', hlevel] at hinfo
    contradiction
  apply faithful_of_heard
  rw [hheard]
  constructor
  case info_iff =>
    apply iff_of_false hnever
    rintro ⟨-, a, ha⟩
    rw [hresult] at ha
    contradiction
  case info => exact fun e' he' hinfo => absurd ⟨e', he', hinfo⟩ hnever
  case warn_iff =>
    exact iff_of_true ⟨e, List.mem_singleton_self e, hlevel⟩ ⟨hlogin, err, hresult, hkind⟩
  case warn =>
    intro e' he' _
    rw [List.mem_singleton.1 he']
    refine ⟨?_, err, b, cause, hresult, h⟩
    rw [List.filter_singleton, hlevel]
    rfl

/-- A login without a backend name is told faithfully. -/
theorem faithful_unnamed {claim : Claim} {credentials : List Credential} {name : Option String}
    (hname : given? name = none) (net : Network ω) (w : ω) :
    s.Faithful (.authenticate claim credentials name)
      (s.carryOut net (.operate (.authenticate claim credentials name)) w).1 := by
  have hlogin : (Operation.authenticate claim credentials name).isUnnamedLogin = true := by
    rw [Operation.isUnnamedLogin, hname]
    rfl
  have hsilence : ∀ {o : Outcome},
      (∀ err, o.result = .error err → err.kind ≠ .backendFailure) →
      o.events.filter (·.isAudible) = [] →
      s.Faithful (.authenticate claim credentials name) o := by
    intro o hend hheard
    refine faithful_of_silence (fun hinfo => by simp [Operation.isAudited] at hinfo) ?_ hheard
    rintro ⟨-, err, herr, hkind⟩
    exact hend err herr hkind
  have hobey : s.obey (.operate (.authenticate claim credentials name)) =
      Answer.handle .user <$> s.authenticate claim credentials name := rfl
  by_cases hblank : (claim.isBlank || credentials.isEmpty) = true
  · rw [carryOut, hobey, authenticate, if_pos hblank]
    refine hsilence ?_ rfl
    intro err herr hkind
    rw [← Except.error.inj herr] at hkind
    contradiction
  · have hscan : s.authenticate claim credentials name =
        scan claim credentials s.registry.ordered := by
      rw [authenticate, if_neg hblank, hname]
    have hheard := audible_scan claim credentials s.registry.ordered net w
    rcases Dialogue.run_map (Answer.handle .user) (scan claim credentials s.registry.ordered) net w
      with ⟨hresult, hexchanges, hevents⟩
    rw [carryOut, hobey, hscan, hresult, hexchanges, hevents]
    cases hend : ((scan claim credentials s.registry.ordered).run net w).result with
    | ok user =>
      rw [hend] at hheard
      exact hsilence (fun err herr => by contradiction) hheard
    | error err =>
      rw [hend] at hheard
      by_cases hkind : err.kind = .backendFailure
      · rcases failure_scan claim credentials hend hkind with
          ⟨b, hb, cause, before, log, rfl, hlast⟩
        exact faithful_of_warns hlogin rfl hheard
          ⟨hb, ⟨claim, credentials, name, before, log, rfl, hlast⟩, rfl, rfl, rfl⟩
      · refine hsilence ?_ ?_
        · intro err' herr'
          rw [← Except.error.inj herr']
          exact hkind
        · cases err with
          | backendFailure => contradiction
          | _ => exact hheard

/-! ## Runs of commands -/

/-- Every operation is told faithfully. -/
theorem faithful_operate (net : Network ω) (op : Operation) (w : ω) :
    s.Faithful op (s.carryOut net (.operate op) w).1 := by
  cases haudited : op.isAudited with
  | true => exact faithful_of_announces haudited (announces_perform haudited) net w
  | false =>
    cases hlogin : op.isUnnamedLogin with
    | true =>
      cases op with
      | authenticate claim credentials name =>
        exact faithful_unnamed (Option.isNone_iff_eq_none.1 hlogin) net w
      | _ => contradiction
    | false =>
      apply faithful_of_silence
      · rw [haudited]
        rintro ⟨hfalse, -⟩
        contradiction
      · rw [hlogin]
        rintro ⟨hfalse, -⟩
        contradiction
      · rw [List.filter_eq_nil_iff]
        intro e he
        have hdebug := (logs_perform haudited hlogin).events net w e he
        simp only [Event.isAudible, hdebug, ne_eq, not_true_eq_false, decide_false,
          Bool.false_eq_true, not_false_eq_true]

/-- So is every command: an action on a handle is an operation of the store. -/
theorem faithful_carryOut (net : Network ω) (c : Command) (w : ω) :
    s.Faithful c.operation (s.carryOut net c w).1 :=
  faithful_operate net c.operation w

/-- So is every command of a sequence. -/
theorem faithful_course (net : Network ω) (cs : List Command) (w : ω) :
    List.Forall₂ (fun c o => s.Faithful c.operation o) cs (s.course net cs w).1 := by
  induction cs generalizing w with
  | nil => exact .nil
  | cons c rest ih => exact .cons (faithful_carryOut net c w) (ih _)

end Store

/-! ## Steps of sessions -/

namespace Session

/-- What a step shows of how its command ended. -/
def shown : Except StoreError Answer → Except StepError Shown
  | .ok a => .ok (.answer a)
  | .error e => .error (.store e)

/-- The report of a step is faithful: it shows how the command ended and has what was told of it.
Where there was no command, nothing is told. -/
inductive Faithful (s : Session) (step : Step) (r : Report) : Prop
  | command (c : Command) (o : Outcome) (hc : s.command? step = some c)
      (hresult : r.result = shown o.result) (hevents : r.events = o.events)
      (htold : s.store.Faithful c.operation o)
  | none (hc : s.command? step = none) (hevents : r.events = [])

variable {s : Session}

/-- What is reported of an operation is what came of its run. -/
theorem report_operate (s : Session) (name : Option String) (op : Operation) :
    let run := (s.store.perform op).run Directory.network s.directories
    (s.operate name op).2.result = shown run.result ∧
      (s.operate name op).2.events = run.events := by
  intro run
  unfold operate
  cases hresult : run.result with
  | ok a =>
    simp only [run] at hresult
    simp only [hresult, shown]
    exact ⟨trivial, rfl⟩
  | error e =>
    simp only [run] at hresult
    simp only [hresult, shown]
    exact ⟨trivial, rfl⟩

/-- Carrying out an operation of the store is reported faithfully. -/
theorem faithful_operate {name : Option String} {step : Step} {c : Command}
    (hc : s.command? step = some c) : s.Faithful step (s.operate name c.operation).2 := by
  rcases s.report_operate name c.operation with ⟨hresult, hevents⟩
  exact .command c _ hc hresult hevents
    (s.store.faithful_carryOut Directory.network c s.directories)

/-- Every step is reported faithfully. -/
theorem faithful_step (s : Session) (name : Option String) (step : Step) :
    s.Faithful step (s.step name step).2 := by
  cases s.proceeds name step with
  | still authority hc hleft hevents => exact .none hc hevents
  | direct index r present hc hdirect hstep =>
    obtain ⟨ds, -, hevents, -⟩ := s.askDirectly_eq index r present
    rw [hstep]
    exact .none hc hevents
  | command c hc hstep =>
    rw [hstep]
    exact faithful_operate hc

end Session

/-- The log tells what was changed, and what went wrong. Of every command of every sequence, and of
every step of every session with any store: an event at the level of `info` is logged exactly if
the command adds or deletes entities and succeeds, it is the only one, it names the backend that was
asked for the change and made it, and for a batch it counts the handles that are returned; a
warning is logged exactly if the command is a login without a backend name that ends with a
failure, it is the only one, and it names the backend of which the failure is the cause. -/
theorem Store.log_faithful {ω : Type} :
    (∀ (s : Store) (net : Network ω) (cs : List Command) (w : ω),
      List.Forall₂ (fun c o => s.Faithful c.operation o) cs (s.course net cs w).1) ∧
    ∀ (s : Session) (steps : List (Option String × Step)) (name : Option String) (step : Step),
      (s.after steps).store = s.store ∧
        (s.after steps).Faithful step ((s.after steps).step name step).2 := by
  constructor
  · exact fun s net cs w => faithful_course net cs w
  · exact fun s steps name step => ⟨s.store_after steps, (s.after steps).faithful_step name step⟩

/-- Two users are added at once, and a backend is down for the next login. -/
example :
    let s : Store := ⟨.standard, .poles⟩
    let down := BackendError.connection "down"
    let ds := Registry.poles.ordered.map fun b =>
      { Directory.new b with faults := [(.authenticate, ⟨0, down⟩)] }
    let user (name : String) : NewUser := ⟨[⟨Claim.usernameUri, name⟩], []⟩
    let login := Operation.authenticate ⟨Claim.usernameUri, "ann"⟩ [.password "pw"] none
    (s.course Directory.network
        [.operate (.addAll .user [user "ann", user "bob"] none), .operate login] ds).1.map
        (·.events) =
      [[.addedAll .user "north" 2], [.attemptFailed "north" down]] := by
  rfl

end Federation
