import Federation.Proofs.Directory.Named
import Federation.Proofs.Directory.Network

/-!
# Federation.Proofs.Directory.Effects — what requests do to records

Only a request for a change that succeeds changes the records of a directory, with one exception:
a directory that offers single additions only works a batch off one by one, and what was added
before a failure stays. How far it comes is written in its planned faults (`BrokenOff`). In a list
of directories a request can change one of them.
-/

namespace Federation

/-! ## Planned faults -/

namespace FaultPlan

/-- The planned fault of a method. -/
def fault? (m : Method) (plan : FaultPlan) : Option Fault :=
  (plan.find? (·.1 = m)).map (·.2)

/-- What a call of a method meets with: no planned fault, or one that is due, or one that spares
it and then spares one call less. -/
inductive Call (m : Method) (plan : FaultPlan) : Prop
  | unplanned (h : plan.fault? m = none) (hcall : plan.call m = (none, plan))
  | due (e : BackendError) (h : plan.fault? m = some ⟨0, e⟩) (hcall : plan.call m = (some e, plan))
  | spared (n : Nat) (e : BackendError) (later : FaultPlan) (h : plan.fault? m = some ⟨n + 1, e⟩)
      (hcall : plan.call m = (none, later)) (hlater : later.fault? m = some ⟨n, e⟩)

/-- A call meets with one of these. -/
theorem call_cases (m : Method) (plan : FaultPlan) : Call m plan := by
  induction plan with
  | nil => exact .unplanned rfl rfl
  | cons entry rest ih =>
    rcases entry with ⟨m', n, e⟩
    by_cases hm : m' = m
    · -- the first entry for the method counts
      have hfault : fault? m ((m', ⟨n, e⟩) :: rest) = some ⟨n, e⟩ := by simp [fault?, hm]
      cases n with
      | zero => exact .due e hfault (by simp [call, hm])
      | succ n =>
        refine .spared n e ((m', ⟨n, e⟩) :: rest) hfault ?_ ?_
        · simp [call, hm]
        · simp [fault?, hm]
    · have hrest : ∀ l : FaultPlan, fault? m ((m', ⟨n, e⟩) :: l) = l.fault? m := by
        intro l
        simp [fault?, hm]
      cases ih with
      | unplanned h hcall =>
        refine .unplanned ((hrest rest).trans h) ?_
        simp [call, hm, hcall]
      | due e' h hcall =>
        refine .due e' ((hrest rest).trans h) ?_
        simp [call, hm, hcall]
      | spared n' e' later h hcall hlater =>
        refine .spared n' e' ((m', ⟨n, e⟩) :: later) ((hrest rest).trans h) ?_ ?_
        · simp [call, hm, hcall]
        · exact (hrest later).trans hlater

end FaultPlan

/-! ## Records -/

/-- Records change only by a write that succeeds. -/
theorem Contents.respond_effect (c : Contents) (r : Request) :
    (c.respond r).2 = c ∨ (r.isWrite = true ∧ ∃ a, (c.respond r).1 = .ok a) := by
  cases r with
  | isPresent | find | list | memberships | isMember | claims | claimsFor | authenticate =>
    exact .inl rfl
  | add | addAll | replaceCredentials | changeCredentials | replaceMemberships
  | changeMemberships => exact .inr ⟨rfl, _, rfl⟩
  | replaceClaims k id claims =>
    show (c.updateClaims k id _).2 = c ∨ _ ∧ ∃ a, (c.updateClaims k id _).1 = .ok a
    unfold updateClaims
    split
    · exact .inr ⟨rfl, (), rfl⟩
    · exact .inl rfl
  | changeClaims k id add remove =>
    show (c.updateClaims k id _).2 = c ∨ _ ∧ ∃ a, (c.updateClaims k id _).1 = .ok a
    unfold updateClaims
    split
    · exact .inr ⟨rfl, (), rfl⟩
    · exact .inl rfl
  | delete k id =>
    show (c.delete k id).2 = c ∨ _ ∧ ∃ a, (c.delete k id).1 = .ok a
    unfold delete
    split
    · cases k with
      | user => exact .inr ⟨rfl, (), rfl⟩
      | group => exact .inr ⟨rfl, (), rfl⟩
    · exact .inl rfl

namespace Directory

variable {d : Directory} {k : Kind}

/-! ## Calls -/

/-- A call that changes records is a write that succeeds. -/
theorem call_effect (d : Directory) (r : Request) :
    (d.call r).state.contents = d.contents ∨
      (r.isWrite = true ∧ ∃ a, (d.call r).outcome = .ok a) := by
  unfold call
  split
  · exact .inl rfl
  · rcases d.respond_cases r with hrespond | ⟨e, hrespond⟩
    · simp only [hrespond]
      exact d.contents.respond_effect r
    · left
      simp only [hrespond]

/-- The same holds of a call that may not be offered. -/
theorem single_effect (d : Directory) (r : Request) :
    (d.single r).state.contents = d.contents ∨
      (r.isWrite = true ∧ ∃ a, (d.single r).outcome = .ok a) := by
  unfold single
  split
  · exact d.call_effect r
  · exact .inl rfl

/-! ## Batches -/

/-- An addition that no fault meets. -/
theorem single_add_of_none (hmode : d.mode = .addOnly) {faults : FaultPlan}
    (h : d.faults.call (.add k) = (none, faults)) (p : Payload k) :
    single (.add k p) d =
      ⟨.ok (d.contents.add k p).1, { d with faults, contents := (d.contents.add k p).2 },
        [.request (.add k p)]⟩ := by
  have hoffers : d.mode.offers (.add k p) = true := by rw [hmode]; rfl
  have hcall : d.faults.call (Request.add k p).method = (none, faults) := h
  simp only [single, hoffers, if_true, call, hcall, respond]
  rfl

/-- An addition that meets with a fault. -/
theorem single_add_of_some (hmode : d.mode = .addOnly) {e : BackendError} {faults : FaultPlan}
    (h : d.faults.call (.add k) = (some e, faults)) (p : Payload k) :
    single (.add k p) d = ⟨.error e, { d with faults }, [.request (.add k p)]⟩ := by
  have hoffers : d.mode.offers (.add k p) = true := by rw [hmode]; rfl
  have hcall : d.faults.call (Request.add k p).method = (some e, faults) := h
  simp only [single, hoffers, if_true, call, hcall]

/-- What is made of a value does not turn a value into an error. -/
theorem error_of_map_error {ε α β : Type} {f : α → β} {x : Except ε α} {e : ε}
    (h : x.map f = .error e) : x = .error e := by
  cases x with
  | error e' => rw [Except.error.inj h]
  | ok a => contradiction

/-- What a batch has done that broke off in a directory: as many payloads as the planned fault
spares were added, in their order, and nothing else was changed. -/
structure BrokenOff (d : Directory) (k : Kind) (payloads : List (Payload k)) (e : BackendError)
    (d' : Directory) : Prop where
  additions : d.mode = .addOnly
  spared : ∃ n < payloads.length, d.faults.fault? (.add k) = some ⟨n, e⟩ ∧
    d' = { d with
      faults := d'.faults
      contents := (d.contents.addAll k (payloads.take n)).2 }

/-- A batch that fails has broken off where the first planned fault is. -/
theorem brokenOff_of_addEach {payloads : List (Payload k)} {e : BackendError}
    (h : (Backend.addEach single k payloads d).1 = .error e) (hmode : d.mode = .addOnly) :
    d.BrokenOff k payloads e (Backend.addEach single k payloads d).2.1 := by
  refine ⟨hmode, ?_⟩
  -- by the payloads; each that is added takes one from what the fault spares
  induction payloads generalizing d with
  | nil => contradiction
  | cons p rest ih =>
    cases d.faults.call_cases (.add k) with
    | due e' hfault hcall =>
      have hfirst := single_add_of_some hmode hcall p
      simp only [Backend.addEach, hfirst] at h ⊢
      injection h with h
      subst h
      exact ⟨0, Nat.zero_lt_succ _, hfault, rfl⟩
    | unplanned hfault hcall =>
      have hfirst := single_add_of_none hmode hcall p
      simp only [Backend.addEach, hfirst] at h ⊢
      rcases ih (error_of_map_error h) hmode with ⟨n, -, hlater, -⟩
      rw [hfault] at hlater
      contradiction
    | spared m e' later hfault hcall hlater =>
      have hfirst := single_add_of_none hmode hcall p
      simp only [Backend.addEach, hfirst] at h ⊢
      rcases ih (error_of_map_error h) hmode with ⟨n, hn, hrest, hstate⟩
      have hsame : (⟨m, e'⟩ : Fault) = ⟨n, e⟩ := Option.some.inj (hlater.symm.trans hrest)
      injection hsame with hm he
      subst hm he
      exact ⟨m + 1, Nat.succ_lt_succ hn, hfault, hstate⟩

/-! ## Requests -/

/-- What a request can do to a directory: nothing to its records; or a change that is asked for and
succeeds; or a part of a batch, up to the payload that failed. -/
inductive Effect (d : Directory) (r : Request) : Prop
  | idle (h : (d.serve r).state.contents = d.contents)
  | written (hr : r.isWrite = true) (a : r.Answer) (h : (d.serve r).outcome = .ok a)
  | brokenOff {k : Kind} {payloads : List (Payload k)} {e : BackendError}
      (hr : r = .addAll k payloads) (he : (d.serve (.addAll k payloads)).outcome = .error e)
      (h : d.BrokenOff k payloads e (d.serve (.addAll k payloads)).state)

/-- Only a directory that offers everything takes a batch as a whole. -/
theorem serve_addAll (d : Directory) (payloads : List (Payload k)) :
    d.serve (.addAll k payloads) =
      if d.mode = .full then d.call (.addAll k payloads)
      else Backend.addOneByOne single k payloads d := by
  cases hmode : d.mode with
  | full => simp [serve, hmode, Mode.offers]
  | addOnly => simp [serve, hmode, Mode.offers, Request.isWrite]
  | readOnly => simp [serve, hmode, Mode.offers, Request.isWrite]

/-- A batch that fails has broken off, where additions are offered one by one. -/
theorem brokenOff_serve {payloads : List (Payload k)} {e : BackendError}
    (h : (d.serve (.addAll k payloads)).outcome = .error e) (hmode : d.mode = .addOnly) :
    d.BrokenOff k payloads e (d.serve (.addAll k payloads)).state := by
  have hserve := d.serve_addAll payloads
  rw [if_neg (by rw [hmode]; decide)] at hserve
  rw [hserve] at h ⊢
  exact brokenOff_of_addEach h hmode

/-- A directory that offers no changes refuses a batch with its first payload. -/
theorem contents_addEach_of_readOnly (hmode : d.mode = .readOnly) (payloads : List (Payload k)) :
    (Backend.addEach single k payloads d).2.1 = d := by
  cases payloads with
  | nil => rfl
  | cons p rest =>
    have hoffers : d.mode.offers (.add k p) = false := by rw [hmode]; rfl
    have hfirst : single (.add k p) d = Backend.refuse (.add k p) d := by
      simp only [single, hoffers, Bool.false_eq_true, if_false]
    simp only [Backend.addEach, hfirst, Backend.refuse]

/-- A request that is served as a single call has one of the first two effects. -/
theorem Effect.of_effect {r : Request} (h : (d.serve r).state.contents = d.contents ∨
    (r.isWrite = true ∧ ∃ a, (d.serve r).outcome = .ok a)) : Effect d r := by
  rcases h with hidle | ⟨hr, a, ha⟩
  · exact .idle hidle
  · exact .written hr a ha

/-- These are all the things that a request can do. -/
theorem serve_effect (d : Directory) (r : Request) : Effect d r := by
  cases r with
  | claimsFor k id metas =>
    -- the selection is made from a read of all claims
    rcases d.single_effect (.claims k id) with hidle | ⟨hwrite, -⟩
    · exact .idle hidle
    · contradiction
  | addAll k payloads =>
    have hserve := d.serve_addAll payloads
    cases hmode : d.mode with
    | full =>
      rw [if_pos hmode] at hserve
      apply Effect.of_effect
      rw [hserve]
      exact d.call_effect _
    | readOnly =>
      rw [if_neg (by rw [hmode]; decide)] at hserve
      apply Effect.idle
      rw [hserve]
      exact congrArg contents (contents_addEach_of_readOnly hmode payloads)
    | addOnly =>
      cases houtcome : (d.serve (.addAll k payloads)).outcome with
      | ok ids => exact .written rfl ids houtcome
      | error e => exact .brokenOff rfl houtcome (brokenOff_serve houtcome hmode)
  | _ => exact .of_effect (d.single_effect _)

/-- A request that asks for no change makes none. -/
theorem contents_serve_of_read {r : Request} (hr : r.isWrite = false) :
    (d.serve r).state.contents = d.contents := by
  cases d.serve_effect r with
  | idle h => exact h
  | written hw =>
    rw [hr] at hw
    contradiction
  | brokenOff hbatch =>
    rw [hbatch] at hr
    contradiction

/-- A request that fails makes no change, if it is no batch. -/
theorem contents_serve_of_error {r : Request} {e : BackendError}
    (he : (d.serve r).outcome = .error e) (hr : ∀ k payloads, r ≠ .addAll k payloads) :
    (d.serve r).state.contents = d.contents := by
  cases d.serve_effect r with
  | idle h => exact h
  | written _ a ha =>
    rw [he] at ha
    contradiction
  | brokenOff hbatch => exact absurd hbatch (hr _ _)

/-! ## Lists of directories -/

/-- What is recorded in each of the directories. -/
def records (ds : List Directory) : List Contents := ds.map (·.contents)

/-- A backend id leads to the first directory that answers to it. -/
theorem at?_eq_some_iff {b : Int32} {ds : List Directory} : at? b ds = some d ↔
    d.answersTo b = true ∧
      ∃ front back, ds = front ++ d :: back ∧ ∀ d' ∈ front, d'.answersTo b = false := by
  simp only [at?, List.find?_eq_some_iff_append, Bool.not_eq_true']

/-- It is one of the list. -/
theorem mem_of_at? {b : Int32} {ds : List Directory} (h : at? b ds = some d) : d ∈ ds := by
  obtain ⟨-, front, back, rfl, -⟩ := at?_eq_some_iff.1 h
  exact List.mem_append_right front List.mem_cons_self

/-- A request to a list of directories is one to the directory that the backend id leads to. -/
theorem serveAt_append {b : Int32} {front back : List Directory}
    (hfront : ∀ d' ∈ front, d'.answersTo b = false) (hd : d.answersTo b = true) (r : Request) :
    serveAt b r (front ++ d :: back) =
      ⟨(d.serve r).outcome, front ++ (d.serve r).state :: back, (d.serve r).log⟩ := by
  induction front with
  | nil => simp only [List.nil_append, serveAt, hd, if_true]
  | cons d' rest ih =>
    rcases List.forall_mem_cons.1 hfront with ⟨hd', hrest⟩
    simp only [List.cons_append, serveAt, hd', Bool.false_eq_true, if_false, ih hrest]

/-- A request that the directory it leads to makes no change for is none to the whole list. -/
theorem records_serveAt {b : Int32} {r : Request} {ds : List Directory}
    (h : ∀ d, at? b ds = some d → (d.serve r).state.contents = d.contents) :
    records (serveAt b r ds).state = records ds := by
  cases hat : at? b ds with
  | none => rw [serveAt_of_none hat]
  | some d =>
    have hsame := h d hat
    rcases at?_eq_some_iff.1 hat with ⟨hd, front, back, rfl, hfront⟩
    rw [serveAt_append hfront hd]
    simp only [records, List.map_append, List.map_cons, hsame]

/-- A request that asks for no change makes none in any directory. -/
theorem records_serveAt_of_read {b : Int32} {r : Request} (hr : r.isWrite = false)
    (ds : List Directory) : records (serveAt b r ds).state = records ds :=
  records_serveAt fun _ _ => contents_serve_of_read hr

/-- A request that fails makes no change in any directory, if it is no batch. -/
theorem records_serveAt_of_error {b : Int32} {r : Request} {ds : List Directory}
    {e : BackendError} (he : (serveAt b r ds).outcome = .error e)
    (hr : ∀ k payloads, r ≠ .addAll k payloads) :
    records (serveAt b r ds).state = records ds := by
  apply records_serveAt
  intro d hd
  have houtcome : (d.serve r).outcome = .error e := (serveAt_of_some hd).1.symm.trans he
  exact contents_serve_of_error houtcome hr

/-- A request leaves every directory in its place that the backend id does not belong to. -/
theorem getElem?_serveAt {b : Int32} {r : Request} {ds : List Directory} {i : Nat}
    (hi : ds[i]? = some d) (hd : d.answersTo b = false) :
    (serveAt b r ds).state[i]? = some d := by
  cases hat : at? b ds with
  | none =>
    rw [serveAt_of_none hat]
    exact hi
  | some c =>
    rcases at?_eq_some_iff.1 hat with ⟨hc, front, back, rfl, hfront⟩
    have hne : i ≠ front.length := by
      rintro rfl
      rw [List.getElem?_append_right (Nat.le_refl _), Nat.sub_self, List.getElem?_cons_zero] at hi
      rw [Option.some.inj hi, hd] at hc
      contradiction
    have hset : front ++ (c.serve r).state :: back =
        (front ++ c :: back).set front.length (c.serve r).state := by simp
    rw [serveAt_append hfront hc]
    show (front ++ (c.serve r).state :: back)[i]? = some d
    rw [hset, List.getElem?_set_ne hne.symm]
    exact hi

/-- A dialogue leaves every directory in its place that it does not speak to. -/
theorem getElem?_run {α : Type} {dialogue : Dialogue α} {ds : List Directory} {i : Nat}
    (hi : ds[i]? = some d)
    (h : ∀ x ∈ dialogue.exchanges network ds, d.answersTo x.backend = false) :
    (dialogue.run network ds).state[i]? = some d := by
  induction dialogue generalizing ds with
  | done a => exact hi
  | fail e => exact hi
  | ask b r next ih =>
    rcases List.forall_mem_cons.1 h with ⟨hb, hnext⟩
    exact ih _ (getElem?_serveAt hi hb) hnext
  | probe b uri next ih => exact ih _ hi (List.forall_mem_cons.1 h).2
  | note e next ih => exact ih hi h

/-- A dialogue that asks for no change makes none. -/
theorem records_run_of_read {α : Type} {dialogue : Dialogue α}
    (h : dialogue.Puts fun _ r => r.isWrite = false) (ds : List Directory) :
    records (dialogue.run network ds).state = records ds := by
  have hserve : ∀ b r ds', r.isWrite = false → records ds' = records ds →
      records (network.serve b r ds').state = records ds ∧ True := by
    intro b r ds' hr hds'
    exact ⟨(records_serveAt_of_read hr ds').trans hds', trivial⟩
  exact (h.preserves (I := fun ds' => records ds' = records ds) (E := fun _ => True) hserve
    (fun _ _ _ => trivial) rfl).1

/-! ## Answers from records -/

/-- A call that is answered is answered from the records, whatever faults are planned. -/
theorem respond_of_call {a : r.Answer} (h : (d.call r).outcome = .ok a) :
    (d.contents.respond r).1 = .ok a := by
  unfold call at h
  split at h
  · contradiction
  · rcases d.respond_cases r with hrespond | ⟨e, hrespond⟩
    · simpa only [hrespond] using h
    · simp only [hrespond, reduceCtorEq] at h

theorem respond_of_single {a : r.Answer} (h : (d.single r).outcome = .ok a) :
    (d.contents.respond r).1 = .ok a := by
  unfold single at h
  split at h
  · exact respond_of_call h
  · contradiction

/-- A read that a directory of the list answers is answered from the records that the backend id
leads to, and they stay as they are. -/
theorem respond_of_serveAt {a : r.Answer} (hread : r.isWrite = false)
    (hselect : ∀ k id metas, r ≠ .claimsFor k id metas)
    (h : (serveAt b r ds).outcome = .ok a) :
    ∃ d, at? b ds = some d ∧ (d.contents.respond r).1 = .ok a ∧
      ∃ d', at? b (serveAt b r ds).state = some d' ∧ d'.contents = d.contents := by
  cases hat : at? b ds with
  | none =>
    rw [serveAt_of_none hat] at h
    contradiction
  | some d =>
    obtain ⟨houtcome, -, hstate⟩ := serveAt_of_some (r := r) hat
    rw [houtcome] at h
    refine ⟨d, rfl, ?_, _, hstate, contents_serve_of_read hread⟩
    -- all reads but selections are single calls
    cases r with
    | claimsFor k id metas => exact absurd rfl (hselect k id metas)
    | addAll k payloads => contradiction
    | _ => exact respond_of_single h

end Directory

end Federation
