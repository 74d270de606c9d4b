import Federation.Proofs.Session.Course
import Federation.Proofs.Store.Routing

/-!
# Federation.Proofs.Session.Atomicity — steps that fail change nothing

A step that fails leaves the records of all directories as they were: what can fail before the
write of an operation does not write, and a write that fails has no effect. The one exception is a
batch that a directory works off one by one. There the payloads before the one that failed have
been added, and nothing else has changed.
-/

namespace Federation

open Directory (records)

/-! ## Operations that fail -/

/-- What is recorded after a request was served. -/
theorem Directory.records_of_serve {b : Int32} {r : Request} {ds ds' : List Directory}
    {outcome : Except BackendError r.Answer} {log : List Question}
    (h : network.serve b r ds = ⟨outcome, ds', log⟩) :
    records ds' = records (serveAt b r ds).state :=
  congrArg (fun reply => records reply.state) h.symm

namespace Dialogue

/-- An orderly dialogue that fails without a batch changes no records. -/
theorem Transcript.records_of_error {α : Type} {b : Int32} {ds ds' : List Directory}
    {xs : List Exchange} {result : Except StoreError α} {e : StoreError}
    (h : Transcript Directory.network b ds xs result ds') (hresult : result = .error e)
    (hbatch : ∀ x ∈ xs, ∀ b' k payloads, x.request? ≠ some (b', .addAll k payloads)) :
    records ds' = records ds := by
  -- along the transcript: reads change nothing, and neither does the failure at its end
  induction h with
  | settled a w => contradiction
  | wrote v => contradiction
  | failed task hserve =>
    rw [Directory.records_of_serve hserve]
    apply Directory.records_serveAt_of_error (congrArg Reply.outcome hserve)
    rintro k payloads rfl
    exact hbatch _ (List.mem_singleton_self _) b k payloads rfl
  | absent what ha hserve =>
    have hread := Request.isWrite_of_reportsAbsence ha
    rw [Directory.records_of_serve hserve, Directory.records_serveAt_of_read hread]
  | read hr hserve hrest ih =>
    rw [ih hresult (List.forall_mem_cons.1 hbatch).2, Directory.records_of_serve hserve,
      Directory.records_serveAt_of_read hr]

end Dialogue

namespace Store

/-- An operation that fails, and is no batch, changes no records. -/
theorem records_of_error (s : Store) {op : Operation} {ds : List Directory} {e : StoreError}
    (hbatch : ∀ k payloads name, op ≠ .addAll k payloads name)
    (h : ((s.perform op).run Directory.network ds).result = .error e) :
    records ((s.perform op).run Directory.network ds).state = records ds := by
  cases hreading : op.isReading with
  | true => exact Directory.records_run_of_read (puts_of_isReading hreading) ds
  | false =>
    have hlogin : op.isLogin = false := by
      cases op with
      | authenticate => contradiction
      | _ => rfl
    rcases s.refused_or_orderly hlogin with ⟨reason, hrefused⟩ | ⟨b, horderly⟩
    · rw [hrefused]
      rfl
    · have htranscript := horderly.transcribed Directory.network ds
      apply htranscript.records_of_error h
      intro x hx b' k payloads hrequest
      -- only a batch asks for one
      cases (s.asks_perform op).request Directory.network ds x hx b' _ hrequest with
      | addAll => exact hbatch _ _ _ rfl

/-- A batch is answered with the handles of what was added. -/
theorem perform_addAll_eq (s : Store) (k : Kind) (payloads : List (Payload k))
    (name : Option String) : s.perform (.addAll k payloads name) =
      Answer.handles k <$> s.addAll k payloads name := rfl

/-- A batch that is accepted is one request to the backend that the name leads to. -/
theorem perform_addAll {s : Store} {k : Kind} {payloads : List (Payload k)}
    {name : Option String} {b : BackendConfig} (hvalid : s.validateBatch payloads = .ok ())
    (hresolve : s.resolve name = .ok b) :
    s.perform (.addAll k payloads name) = .ask b.id (.addAll k payloads) fun
      | .ok localIds => .note (.addedAll k b.name localIds.length)
          (.done (.handles k (localIds.map (Handle.of b))))
      | .error e => .fail (.backendFailure (.addAll k b.name) e) := by
  rw [perform_addAll_eq, addAll, hvalid, hresolve]
  refine congrArg (Dialogue.ask b.id (.addAll k payloads)) (funext ?_)
  rintro (e | localIds)
  · rfl
  · rfl

/-- A batch that is not accepted changes nothing. -/
theorem state_of_addAll_refused {ω : Type} (net : Network ω) {s : Store} {k : Kind}
    {payloads : List (Payload k)} {name : Option String}
    (h : s.validateBatch payloads = .ok () → ∀ b, s.resolve name ≠ .ok b) (w : ω) :
    ((s.perform (.addAll k payloads name)).run net w).state = w := by
  rw [perform_addAll_eq, addAll]
  cases hvalid : s.validateBatch payloads with
  | error e => rfl
  | ok u =>
    cases hresolve : s.resolve name with
    | error e => rfl
    | ok b => exact absurd hresolve (h hvalid b)

/-- A batch that is accepted fails only as the backend does. -/
theorem addAll_of_error {ω : Type} {net : Network ω} {s : Store} {k : Kind}
    {payloads : List (Payload k)} {name : Option String} {b : BackendConfig} {w : ω}
    {e : StoreError} (hvalid : s.validateBatch payloads = .ok ())
    (hresolve : s.resolve name = .ok b)
    (h : ((s.perform (.addAll k payloads name)).run net w).result = .error e) :
    ∃ cause, (net.serve b.id (.addAll k payloads) w).outcome = .error cause ∧
      e = .backendFailure (.addAll k b.name) cause ∧
      ((s.perform (.addAll k payloads name)).run net w).state =
        (net.serve b.id (.addAll k payloads) w).state := by
  rw [perform_addAll hvalid hresolve] at h ⊢
  rcases hserve : net.serve b.id (.addAll k payloads) w with ⟨cause | ids, w', log⟩
  · simp only [Dialogue.run, hserve] at h ⊢
    exact ⟨cause, rfl, (Except.error.inj h).symm, trivial⟩
  · simp only [Dialogue.run, hserve] at h
    contradiction

end Store

/-! ## Steps that fail -/

/-- In a list of directories, the one that a backend id leads to has broken off a batch, and the
others are as they were. -/
def Directory.BrokenOffAt (b : Int32) (k : Kind) (payloads : List (Payload k)) (e : BackendError)
    (ds ds' : List Directory) : Prop :=
  ∃ front d d' back, ds = front ++ d :: back ∧ ds' = front ++ d' :: back ∧
    (∀ c ∈ front, c.answersTo b = false) ∧ d.answersTo b = true ∧ d.BrokenOff k payloads e d'

/-- A batch that fails at a directory that offers additions one by one has broken off there. -/
theorem Directory.brokenOffAt_of_error {b : Int32} {k : Kind} {payloads : List (Payload k)}
    {e : BackendError} {ds : List Directory} {d : Directory} (hat : at? b ds = some d)
    (hmode : d.mode = .addOnly) (he : (serveAt b (.addAll k payloads) ds).outcome = .error e) :
    BrokenOffAt b k payloads e ds (serveAt b (.addAll k payloads) ds).state := by
  have houtcome : (d.serve (.addAll k payloads)).outcome = .error e :=
    (serveAt_of_some hat).1.symm.trans he
  rcases at?_eq_some_iff.1 hat with ⟨hd, front, back, rfl, hfront⟩
  rw [serveAt_append hfront hd]
  exact ⟨front, d, _, back, rfl, rfl, hfront, hd, brokenOff_serve houtcome hmode⟩

namespace Session

/-- The step hands a batch over to a directory that adds one by one. -/
structure HandsOver (s : Session) (step : Step) (k : Kind) (payloads : List (Payload k))
    (b : BackendConfig) : Prop where
  batch : ∃ name, step = .operate (.addAll k payloads name) ∧ s.store.resolve name = .ok b
  accepted : s.store.validateBatch payloads = .ok ()
  additions : ∃ d, Directory.at? b.id s.directories = some d ∧ d.mode = .addOnly

/-- An operation that fails leaves the directories as its run does. -/
theorem operate_of_error {s : Session} {name : Option String} {op : Operation} {err : StepError}
    (h : (s.operate name op).2.result = .error err) :
    ∃ e, err = .store e ∧
      ((s.store.perform op).run Directory.network s.directories).result = .error e ∧
      (s.operate name op).1.directories =
        ((s.store.perform op).run Directory.network s.directories).state := by
  unfold operate at h ⊢
  cases hresult : ((s.store.perform op).run Directory.network s.directories).result with
  | ok a =>
    simp only [hresult] at h
    contradiction
  | error e =>
    simp only [hresult] at h ⊢
    exact ⟨e, (Except.error.inj h).symm, rfl, trivial⟩

/-- An operation that fails, and is no batch, changes no records. -/
theorem records_operate_of_error {s : Session} {name : Option String} {op : Operation}
    {err : StepError} (hbatch : ∀ k payloads name, op ≠ .addAll k payloads name)
    (h : (s.operate name op).2.result = .error err) :
    records (s.operate name op).1.directories = records s.directories := by
  rcases operate_of_error h with ⟨e, -, hresult, hstate⟩
  rw [hstate]
  exact s.store.records_of_error hbatch hresult

/-- A batch that fails changes no records, unless it was handed over to a directory that adds one
by one. -/
theorem records_addAll_of_error {s : Session} {name : Option String} {k : Kind}
    {payloads : List (Payload k)} {backend : Option String} {err : StepError}
    (hnone : ∀ b, ¬ s.HandsOver (.operate (.addAll k payloads backend)) k payloads b)
    (h : (s.operate name (.addAll k payloads backend)).2.result = .error err) :
    records (s.operate name (.addAll k payloads backend)).1.directories =
      records s.directories := by
  rcases operate_of_error h with ⟨e, -, hresult, hstate⟩
  rw [hstate]
  by_cases haccepted :
      s.store.validateBatch payloads = .ok () ∧ ∃ b, s.store.resolve backend = .ok b
  · rcases haccepted with ⟨hvalid, b, hresolve⟩
    rcases Store.addAll_of_error hvalid hresolve hresult with ⟨cause, houtcome, -, hserved⟩
    rw [hserved]
    apply Directory.records_serveAt
    intro d hd
    have hcause : (d.serve (.addAll k payloads)).outcome = .error cause :=
      (Directory.serveAt_of_some hd).1.symm.trans houtcome
    cases d.serve_effect (.addAll k payloads) with
    | idle hidle => exact hidle
    | written _ ids hids =>
      rw [hcause] at hids
      contradiction
    | brokenOff _ _ hbroken =>
      exact absurd ⟨⟨backend, rfl, hresolve⟩, hvalid, d, hd, hbroken.additions⟩ (hnone b)
  · have hrefused : s.store.validateBatch payloads = .ok () →
        ∀ b, s.store.resolve backend ≠ .ok b :=
      fun hvalid b hb => haccepted ⟨hvalid, b, hb⟩
    rw [Store.state_of_addAll_refused Directory.network hrefused]

/-- A batch that fails after it was handed over to a directory that adds one by one has broken off
there. -/
theorem HandsOver.brokenOff {s : Session} {name : Option String} {step : Step} {k : Kind}
    {payloads : List (Payload k)} {b : BackendConfig} {err : StepError}
    (h : s.HandsOver step k payloads b) (herr : (s.step name step).2.result = .error err) :
    ∃ e, err = .store (.backendFailure (.addAll k b.name) e) ∧
      Directory.BrokenOffAt b.id k payloads e s.directories (s.step name step).1.directories := by
  rcases h.batch with ⟨backend, rfl, hresolve⟩
  rcases h.additions with ⟨d, hat, hmode⟩
  have hstep : s.step name (.operate (.addAll k payloads backend)) =
      s.operate name (.addAll k payloads backend) := rfl
  rw [hstep] at herr ⊢
  rcases operate_of_error herr with ⟨e, rfl, hresult, hstate⟩
  rcases Store.addAll_of_error h.accepted hresolve hresult with ⟨cause, houtcome, rfl, hserved⟩
  refine ⟨cause, rfl, ?_⟩
  rw [hstate, hserved]
  exact Directory.brokenOffAt_of_error hat hmode houtcome

/-- No action on a handle is a batch. -/
theorem act_ne_addAll {k k' : Kind} (h : Handle k) (action : Action k)
    (payloads : List (Payload k')) (backend : Option String) :
    h.act action ≠ .addAll k' payloads backend := by
  intro hop
  cases k with
  | user =>
    cases action with
    | _ => contradiction
  | group =>
    cases action with
    | _ => contradiction

/-- A step leaves the directories alone, or carries out an operation, or goes past the store. No
action on a handle is a batch. -/
theorem step_cases (s : Session) (name : Option String) (step : Step) :
    (s.step name step).1.directories = s.directories ∨ step.isDirect = true ∨
      ∃ op, s.step name step = s.operate name op ∧
        ∀ k payloads backend, op = .addAll k payloads backend → step = .operate op := by
  cases s.proceeds name step with
  | still authority hc hleft hevents =>
    left
    rw [hleft]
  | direct index r present hc hdirect hstep => exact .inr (.inl hdirect)
  | command c hc hstep =>
    refine .inr (.inr ⟨c.operation, hstep, ?_⟩)
    intro k payloads backend hop
    cases c with
    | operate op => exact eq_operate_of_command? hc
    | act k' h action => exact absurd hop (act_ne_addAll h action payloads backend)

/-- Steps that fail are atomic, whatever faults are planned. A step of the store, of a handle or of
a login that ends with an error leaves the records of all directories as they were, unless it hands
a batch over to a directory that adds one by one; and there the payloads before the one that failed
have been added, in their order, and nothing else has changed. -/
theorem step_atomic (s : Session) (name : Option String) (step : Step) (err : StepError)
    (hstep : step.isDirect = false) (herr : (s.step name step).2.result = .error err) :
    let after := (s.step name step).1.directories
    (∀ (k : Kind) (payloads : List (Payload k)) (b : BackendConfig),
        s.HandsOver step k payloads b →
          ∃ e, err = .store (.backendFailure (.addAll k b.name) e) ∧
            Directory.BrokenOffAt b.id k payloads e s.directories after) ∧
      ((∀ (k : Kind) (payloads : List (Payload k)) (b : BackendConfig),
          ¬ s.HandsOver step k payloads b) →
        after.map (·.contents) = s.directories.map (·.contents)) := by
  intro after
  constructor
  · intro k payloads b hover
    exact hover.brokenOff herr
  · intro hnone
    rcases s.step_cases name step with hsame | hdirect | ⟨op, hop, hbatches⟩
    · exact congrArg records hsame
    · rw [hstep] at hdirect
      contradiction
    · rw [hop] at herr
      show records (s.step name step).1.directories = records s.directories
      rw [hop]
      by_cases hbatch : ∃ k payloads backend, op = .addAll k payloads backend
      · rcases hbatch with ⟨k, payloads, backend, rfl⟩
        rw [hbatches k payloads backend rfl] at hnone
        exact records_addAll_of_error (hnone k payloads) herr
      · apply records_operate_of_error _ herr
        intro k payloads backend hadd
        exact hbatch ⟨k, payloads, backend, hadd⟩

/-- Of two users the first is added, the second is not, as one call is spared. -/
theorem step_atomic_spared :
    let ann : NewUser := ⟨[⟨Claim.usernameUri, "ann"⟩], []⟩
    let bob : NewUser := ⟨[⟨Claim.usernameUri, "bob"⟩], [.password "pw"]⟩
    let slow := BackendError.timeout "add"
    let ds := Registry.poles.ordered.map fun b =>
      { Directory.new b with mode := .addOnly, faults := [(.add .user, ⟨1, slow⟩)] }
    let s : Session := ⟨⟨.standard, .poles⟩, ds, ⟨[], none⟩, .empty⟩
    let step := Step.operate (.addAll .user [ann, bob] none)
    step.isDirect = false ∧
      (s.step none step).2.result =
        .error (.store (.backendFailure (.addAll .user "north") slow)) ∧
      ∃ e, Directory.BrokenOffAt (-2147483648) .user [ann, bob] e ds
        (s.step none step).1.directories := by
  intro ann bob slow ds s step
  have hresult : (s.step none step).2.result =
      .error (.store (.backendFailure (.addAll .user "north") slow)) := rfl
  have hover : s.HandsOver step .user [ann, bob] s.store.registry.primary :=
    ⟨⟨none, rfl, rfl⟩, rfl, _, rfl, rfl⟩
  obtain ⟨hbroken, -⟩ := s.step_atomic none step _ rfl hresult
  rcases hbroken .user _ _ hover with ⟨e, -, he⟩
  exact ⟨rfl, hresult, e, he⟩

end Session

end Federation
