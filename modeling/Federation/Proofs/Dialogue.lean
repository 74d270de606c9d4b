import Federation.Dialogue

/-!
# Federation.Proofs.Dialogue — what can be said of any dialogue

A dialogue is a tree, and what holds of all its branches holds however backends answer. Six such
properties carry most of what is proved about the store: in which ways a dialogue can end
(`Ends`), to which one backend (`SpeaksTo`) or to which backends at all (`SpeaksWithin`) it
speaks, which requests it puts (`Puts`), which events it logs (`Logs`), and what was said before
it ends with a value (`Grants`). What a run made of the dialogue is recorded as its exchanges with
backends.
-/

namespace Federation

/-! ## Exchanges -/

/-- One exchange with a backend: what it was asked and what it said. -/
inductive Exchange where
  /-- A request, its answer or failure, and the questions that it came down to. -/
  | request (backend : Int32) (r : Request) (outcome : Except BackendError r.Answer)
      (log : List Question)
  | support (backend : Int32) (uri : String) (answer : Bool)

namespace Exchange

/-- The backend that was spoken to. -/
def backend : Exchange → Int32
  | request b .. | support b .. => b

/-- The request that was put, if it was one. -/
def request? : Exchange → Option (Int32 × Request)
  | request b r .. => some (b, r)
  | support .. => none

/-- The questions that the backend was asked. -/
def asked : Exchange → List (Int32 × Question)
  | request b _ _ log => log.map (b, ·)
  | support b uri _ => [(b, .supportsClaim uri)]

end Exchange

namespace Dialogue

variable {α β ω : Type}

/-- The exchanges of a run, in order. -/
def exchanges (net : Network ω) : Dialogue α → ω → List Exchange
  | done _, _ | fail _, _ => []
  | ask b r next, s =>
    let reply := net.serve b r s
    .request b r reply.outcome reply.log :: (next reply.outcome).exchanges net reply.state
  | probe b uri next, s =>
    .support b uri (net.supports b uri s) :: (next (net.supports b uri s)).exchanges net s
  | note _ next, s => next.exchanges net s

/-- The questions of a run are those of its exchanges. -/
theorem asked_run (net : Network ω) (d : Dialogue α) (s : ω) :
    (d.run net s).asked = (d.exchanges net s).flatMap Exchange.asked := by
  induction d generalizing s with
  | done a => rfl
  | fail e => rfl
  | ask b r next ih =>
    have hrest := ih (net.serve b r s).outcome (net.serve b r s).state
    simp only [run, exchanges, List.flatMap_cons, hrest]
    rfl
  | probe b uri next ih =>
    have hrest := ih (net.supports b uri s) s
    simp only [run, exchanges, List.flatMap_cons, hrest]
    rfl
  | note e next ih => exact ih s

/-! ## Laws of sequencing -/

/-- Dialogues are sequenced associatively. -/
theorem bind_bind {γ : Type} (d : Dialogue α) (f : α → Dialogue β) (g : β → Dialogue γ) :
    ((d >>= f) >>= g) = d >>= fun a => f a >>= g := by
  induction d with
  | done a => rfl
  | fail e => rfl
  | ask b r next ih => exact congrArg (ask b r) (funext ih)
  | probe b uri next ih => exact congrArg (probe b uri) (funext ih)
  | note e next ih => exact congrArg (note e) ih

/-- Nothing is done by going on with the value alone. -/
theorem id_map (d : Dialogue α) : id <$> d = d := by
  induction d with
  | done a => rfl
  | fail e => rfl
  | ask b r next ih => exact congrArg (ask b r) (funext ih)
  | probe b uri next ih => exact congrArg (probe b uri) (funext ih)
  | note e next ih => exact congrArg (note e) ih

instance : LawfulMonad Dialogue :=
  LawfulMonad.mk' Dialogue id_map (fun _ _ => rfl) bind_bind

@[simp] theorem map_fail (f : α → β) (e : StoreError) : f <$> (fail e : Dialogue α) = fail e := rfl

/-- A request that must succeed: the dialogue goes on after an answer only. -/
theorem demand_bind (task : Task) (b : Int32) (r : Request) (f : r.Answer → Dialogue α) :
    (demand task b r >>= f) = ask b r fun
      | .ok answer => f answer
      | .error e => fail (.backendFailure task e) := by
  refine congrArg (ask b r) (funext ?_)
  rintro (e | answer)
  · rfl
  · rfl

/-- A request that must succeed ends with the answer, or with the failure as the cause. -/
theorem result_demand (task : Task) (b : Int32) (r : Request) (net : Network ω) (s : ω) :
    ((demand task b r).run net s).result =
      (net.serve b r s).outcome.mapError (.backendFailure task) := by
  unfold demand
  cases houtcome : (net.serve b r s).outcome with
  | error e =>
    simp only [run, houtcome]
    rfl
  | ok answer =>
    simp only [run, houtcome]
    rfl

/-- What is made of the value is made of the result; the exchanges and the log stay. -/
theorem run_map (f : α → β) (d : Dialogue α) (net : Network ω) (s : ω) :
    ((f <$> d).run net s).result = (d.run net s).result.map f ∧
      (f <$> d).exchanges net s = d.exchanges net s ∧
      ((f <$> d).run net s).events = (d.run net s).events := by
  induction d generalizing s with
  | done a => exact ⟨rfl, rfl, rfl⟩
  | fail e => exact ⟨rfl, rfl, rfl⟩
  | ask b r next ih =>
    rcases ih (net.serve b r s).outcome (net.serve b r s).state with ⟨hresult, hexchanges, hevents⟩
    exact ⟨hresult, congrArg _ hexchanges, hevents⟩
  | probe b uri next ih =>
    rcases ih (net.supports b uri s) s with ⟨hresult, hexchanges, hevents⟩
    exact ⟨hresult, congrArg _ hexchanges, hevents⟩
  | note e next ih =>
    rcases ih s with ⟨hresult, hexchanges, hevents⟩
    exact ⟨hresult, hexchanges, congrArg _ hevents⟩

/-! ## How a dialogue ends -/

/-- Each way in which the dialogue can end has the property, whatever backends say. -/
def Ends (P : Except StoreError α → Prop) : Dialogue α → Prop
  | done a => P (.ok a)
  | fail e => P (.error e)
  | ask _ _ next => ∀ answer, (next answer).Ends P
  | probe _ _ next => ∀ answer, (next answer).Ends P
  | note _ next => next.Ends P

/-- A run ends in one of the ways in which the dialogue can. -/
theorem Ends.result {P : Except StoreError α → Prop} {d : Dialogue α} (h : d.Ends P)
    (net : Network ω) (s : ω) : P (d.run net s).result := by
  induction d generalizing s with
  | done a => exact h
  | fail e => exact h
  | ask b r next ih => exact ih _ (h _) _
  | probe b uri next ih => exact ih _ (h _) _
  | note e next ih => exact ih h s

/-- What an error may be does not depend on what is done with the value of the dialogue. -/
theorem Ends.map {P : StoreError → Prop} {d : Dialogue α} (f : α → β)
    (h : d.Ends fun result => ∀ e, result = .error e → P e) :
    (f <$> d).Ends fun result => ∀ e, result = .error e → P e := by
  induction d with
  | done a =>
    intro e he
    contradiction
  | fail e => exact fun e' he => h e' (by rw [Except.error.inj he])
  | ask b r next ih => exact fun answer => ih answer (h answer)
  | probe b uri next ih => exact fun answer => ih answer (h answer)
  | note e next ih => exact ih h

/-- Each error with which the dialogue can end has the property. -/
def Fails (P : StoreError → Prop) (d : Dialogue α) : Prop :=
  d.Ends fun result => ∀ e, result = .error e → P e

section Fails

variable {P : StoreError → Prop}

theorem fails_done (a : α) : (done a).Fails P := by
  intro e he
  contradiction

theorem fails_fail {e : StoreError} (h : P e) : (fail e : Dialogue α).Fails P := by
  intro e' he'
  rw [← Except.error.inj he']
  exact h

theorem Fails.map {d : Dialogue α} (f : α → β) (h : d.Fails P) : (f <$> d).Fails P :=
  Ends.map f h

/-- A check comes with errors of its own. -/
theorem Fails.guard {x : Except StoreError α} {f : α → Dialogue β}
    (hx : ∀ e, x = .error e → P e) (hf : ∀ a, x = .ok a → (f a).Fails P) :
    (ofExcept x >>= f).Fails P := by
  cases x with
  | error e => exact fails_fail (hx e rfl)
  | ok a => exact hf a rfl

/-- A request that must succeed comes with the failures of the backend. -/
theorem Fails.demand_bind {task : Task} {b : Int32} {r : Request} {f : r.Answer → Dialogue β}
    (hfailure : ∀ e, P (.backendFailure task e)) (hf : ∀ a, (f a).Fails P) :
    (demand task b r >>= f).Fails P := by
  rw [Dialogue.demand_bind]
  rintro (e | a)
  · exact fails_fail (hfailure e)
  · exact hf a

theorem Fails.demand {task : Task} {b : Int32} {r : Request}
    (hfailure : ∀ e, P (.backendFailure task e)) : (demand task b r).Fails P := by
  rintro (e | a)
  · exact fails_fail (hfailure e)
  · exact fails_done a

end Fails

/-! ## Who is spoken to -/

/-- The dialogue speaks to no backend but the one with this id. -/
def SpeaksTo (b : Int32) : Dialogue α → Prop
  | done _ | fail _ => True
  | ask c _ next => c = b ∧ ∀ answer, (next answer).SpeaksTo b
  | probe c _ next => c = b ∧ ∀ answer, (next answer).SpeaksTo b
  | note _ next => next.SpeaksTo b

/-- The dialogue speaks to no backend but those whose ids are allowed. -/
def SpeaksWithin (P : Int32 → Prop) : Dialogue α → Prop
  | done _ | fail _ => True
  | ask b _ next => P b ∧ ∀ answer, (next answer).SpeaksWithin P
  | probe b _ next => P b ∧ ∀ answer, (next answer).SpeaksWithin P
  | note _ next => next.SpeaksWithin P

section SpeaksWithin

variable {P : Int32 → Prop}

/-- Nobody else is spoken to for making something of the value. -/
theorem SpeaksWithin.map {d : Dialogue α} (f : α → β) (h : d.SpeaksWithin P) :
    (f <$> d).SpeaksWithin P := by
  induction d with
  | done a => trivial
  | fail e => trivial
  | ask c r next ih => exact ⟨h.1, fun answer => ih answer (h.2 answer)⟩
  | probe c uri next ih => exact ⟨h.1, fun answer => ih answer (h.2 answer)⟩
  | note e next ih => exact ih h

/-- More backends may be allowed. -/
theorem SpeaksWithin.mono {Q : Int32 → Prop} {d : Dialogue α} (h : d.SpeaksWithin P)
    (hPQ : ∀ b, P b → Q b) : d.SpeaksWithin Q := by
  induction d with
  | done a => trivial
  | fail e => trivial
  | ask b r next ih => exact ⟨hPQ b h.1, fun answer => ih answer (h.2 answer)⟩
  | probe b uri next ih => exact ⟨hPQ b h.1, fun answer => ih answer (h.2 answer)⟩
  | note e next ih => exact ih h

/-- In a run no other backend is spoken to. -/
theorem SpeaksWithin.backend {d : Dialogue α} (h : d.SpeaksWithin P) (net : Network ω) (w : ω) :
    ∀ x ∈ d.exchanges net w, P x.backend := by
  induction d generalizing w with
  | done a => exact fun _ hx => absurd hx List.not_mem_nil
  | fail e => exact fun _ hx => absurd hx List.not_mem_nil
  | ask b r next ih => exact List.forall_mem_cons.2 ⟨h.1, ih _ (h.2 _) _⟩
  | probe b uri next ih => exact List.forall_mem_cons.2 ⟨h.1, ih _ (h.2 _) w⟩
  | note e next ih => exact ih h w

end SpeaksWithin

/-- To speak to one backend is to allow no other. -/
theorem speaksTo_iff_within {b : Int32} {d : Dialogue α} :
    d.SpeaksTo b ↔ d.SpeaksWithin (· = b) := by
  induction d with
  | done a => exact Iff.rfl
  | fail e => exact Iff.rfl
  | ask c r next ih => exact and_congr_right fun _ => forall_congr' ih
  | probe c uri next ih => exact and_congr_right fun _ => forall_congr' ih
  | note e next ih => exact ih

theorem SpeaksTo.map {b : Int32} {d : Dialogue α} (f : α → β) (h : d.SpeaksTo b) :
    (f <$> d).SpeaksTo b :=
  speaksTo_iff_within.2 ((speaksTo_iff_within.1 h).map f)

/-! ## What is requested -/

/-- Every request that the dialogue can put to a backend is allowed, whatever backends say. -/
def Puts (P : Int32 → Request → Prop) : Dialogue α → Prop
  | done _ | fail _ => True
  | ask b r next => P b r ∧ ∀ answer, (next answer).Puts P
  | probe _ _ next => ∀ answer, (next answer).Puts P
  | note _ next => next.Puts P

section Puts

variable {P : Int32 → Request → Prop}

/-- What allows more is allowed too. -/
theorem Puts.mono {Q : Int32 → Request → Prop} {d : Dialogue α} (h : d.Puts P)
    (hPQ : ∀ b r, P b r → Q b r) : d.Puts Q := by
  induction d with
  | done a => trivial
  | fail e => trivial
  | ask b r next ih => exact ⟨hPQ b r h.1, fun answer => ih answer (h.2 answer)⟩
  | probe b uri next ih => exact fun answer => ih answer (h answer)
  | note e next ih => exact ih h

/-- Two dialogues in a row. -/
theorem Puts.bind {d : Dialogue α} {f : α → Dialogue β} (h : d.Puts P) (hf : ∀ a, (f a).Puts P) :
    (d >>= f).Puts P := by
  induction d with
  | done a => exact hf a
  | fail e => trivial
  | ask b r next ih => exact ⟨h.1, fun answer => ih answer (h.2 answer)⟩
  | probe b uri next ih => exact fun answer => ih answer (h answer)
  | note e next ih => exact ih h

/-- Nothing else is requested for making something of the value. -/
theorem Puts.map {d : Dialogue α} (f : α → β) (h : d.Puts P) : (f <$> d).Puts P :=
  h.bind fun _ => trivial

theorem Puts.demand {task : Task} {b : Int32} {r : Request} (h : P b r) :
    (demand task b r).Puts P := by
  refine ⟨h, ?_⟩
  rintro (e | answer)
  · trivial
  · trivial

/-- A check puts no request, and what follows it knows that it was passed. -/
theorem Puts.guard {x : Except StoreError α} {f : α → Dialogue β}
    (hf : ∀ a, x = .ok a → (f a).Puts P) : (ofExcept x >>= f).Puts P := by
  cases x with
  | error e => trivial
  | ok a => exact hf a rfl

/-- What allowed requests preserve holds after a run, and what they ensure of an exchange holds of
all exchanges of the run. -/
theorem Puts.preserves {net : Network ω} {I : ω → Prop} {E : Exchange → Prop} {d : Dialogue α}
    (h : d.Puts P)
    (hserve : ∀ b r s, P b r → I s → I (net.serve b r s).state ∧
      E (.request b r (net.serve b r s).outcome (net.serve b r s).log))
    (hsupports : ∀ b uri answer, E (.support b uri answer)) {s : ω} (hs : I s) :
    I (d.run net s).state ∧ ∀ x ∈ d.exchanges net s, E x := by
  induction d generalizing s with
  | done a => exact ⟨hs, fun _ hx => absurd hx List.not_mem_nil⟩
  | fail e => exact ⟨hs, fun _ hx => absurd hx List.not_mem_nil⟩
  | ask b r next ih =>
    rcases hserve b r s h.1 hs with ⟨hstate, hexchange⟩
    rcases ih (net.serve b r s).outcome (h.2 _) hstate with ⟨hend, hlater⟩
    exact ⟨hend, List.forall_mem_cons.2 ⟨hexchange, hlater⟩⟩
  | probe b uri next ih =>
    rcases ih (net.supports b uri s) (h _) hs with ⟨hend, hlater⟩
    exact ⟨hend, List.forall_mem_cons.2 ⟨hsupports b uri _, hlater⟩⟩
  | note e next ih => exact ih h hs

/-- In a run no other request is put. -/
theorem Puts.request {d : Dialogue α} (h : d.Puts P) (net : Network ω) (s : ω) :
    ∀ x ∈ d.exchanges net s, ∀ b r, x.request? = some (b, r) → P b r := by
  refine (h.preserves (I := fun _ => True) ?_ ?_ trivial).2
  · intro b r s hP _
    refine ⟨trivial, ?_⟩
    intro b' r' hsame
    injection hsame with hsame
    injection hsame with hb hr
    subst hb hr
    exact hP
  · intro b uri answer b' r' hnone
    contradiction

end Puts

/-! ## What is logged -/

/-- Every event that the dialogue can log has the property, whatever backends say. -/
def Logs (P : Event → Prop) : Dialogue α → Prop
  | done _ | fail _ => True
  | ask _ _ next => ∀ answer, (next answer).Logs P
  | probe _ _ next => ∀ answer, (next answer).Logs P
  | note e next => P e ∧ next.Logs P

section Logs

variable {P : Event → Prop}

/-- Two dialogues in a row. -/
theorem Logs.bind {d : Dialogue α} {f : α → Dialogue β} (h : d.Logs P) (hf : ∀ a, (f a).Logs P) :
    (d >>= f).Logs P := by
  induction d with
  | done a => exact hf a
  | fail e => trivial
  | ask b r next ih => exact fun answer => ih answer (h answer)
  | probe b uri next ih => exact fun answer => ih answer (h answer)
  | note e next ih => exact ⟨h.1, ih h.2⟩

/-- Nothing else is logged for making something of the value. -/
theorem Logs.map {d : Dialogue α} (f : α → β) (h : d.Logs P) : (f <$> d).Logs P :=
  h.bind fun _ => trivial

/-- A request that must succeed logs nothing. -/
theorem logs_demand (task : Task) (b : Int32) (r : Request) : (demand task b r).Logs P := by
  rintro (e | answer)
  · trivial
  · trivial

/-- A check logs nothing. -/
theorem Logs.guard {x : Except StoreError α} {f : α → Dialogue β} (hf : ∀ a, (f a).Logs P) :
    (ofExcept x >>= f).Logs P := by
  cases x with
  | error e => trivial
  | ok a => exact hf a

/-- In a run nothing else is logged. -/
theorem Logs.events {d : Dialogue α} (h : d.Logs P) (net : Network ω) (s : ω) :
    ∀ e ∈ (d.run net s).events, P e := by
  induction d generalizing s with
  | done a => exact fun _ he => absurd he List.not_mem_nil
  | fail e => exact fun _ he => absurd he List.not_mem_nil
  | ask b r next ih => exact ih _ (h _) _
  | probe b uri next ih => exact ih _ (h _) s
  | note e next ih => exact List.forall_mem_cons.2 ⟨h.1, ih h.2 s⟩

end Logs

/-! ## What a value rests on -/

/-- Whenever the dialogue ends with a value, the exchanges that led there and the value have the
property. -/
def Grants (P : List Exchange → α → Prop) : Dialogue α → Prop
  | done a => P [] a
  | fail _ => True
  | ask b r next => ∀ outcome log,
    (next outcome).Grants fun exchanges => P (.request b r outcome log :: exchanges)
  | probe b uri next => ∀ answer,
    (next answer).Grants fun exchanges => P (.support b uri answer :: exchanges)
  | note _ next => next.Grants P

section Grants

variable {P : List Exchange → β → Prop}

/-- The value of a run rests on the exchanges of the run. -/
theorem Grants.run {P : List Exchange → α → Prop} {d : Dialogue α} (h : d.Grants P)
    (net : Network ω) {s : ω} {a : α} (ha : (d.run net s).result = .ok a) :
    P (d.exchanges net s) a := by
  induction d generalizing P s with
  | done a' =>
    injection ha with ha
    subst ha
    exact h
  | fail e => contradiction
  | ask b r next ih => exact ih _ (h _ (net.serve b r s).log) ha
  | probe b uri next ih => exact ih _ (h _) ha
  | note e next ih => exact ih h ha

theorem Grants.mono {Q : List Exchange → β → Prop} {d : Dialogue β} (h : d.Grants P)
    (hPQ : ∀ exchanges a, P exchanges a → Q exchanges a) : d.Grants Q := by
  induction d generalizing P Q with
  | done a => exact hPQ [] a h
  | fail e => trivial
  | ask b r next ih => exact fun outcome log => ih outcome (h outcome log) fun exchanges => hPQ _
  | probe b uri next ih => exact fun answer => ih answer (h answer) fun exchanges => hPQ _
  | note e next ih => exact ih h hPQ

/-- What holds of all values is granted. -/
theorem Grants.of_forall {d : Dialogue β} (h : ∀ exchanges a, P exchanges a) : d.Grants P := by
  induction d generalizing P with
  | done a => exact h [] a
  | fail e => trivial
  | ask b r next ih => exact fun outcome log => ih outcome fun exchanges => h _
  | probe b uri next ih => exact fun answer => ih answer fun exchanges => h _
  | note e next ih => exact ih h

/-- What is made of a value rests on the same exchanges. -/
theorem Grants.map {f : α → β} {d : Dialogue α}
    (h : d.Grants fun exchanges a => P exchanges (f a)) : (f <$> d).Grants P := by
  induction d generalizing P with
  | done a => exact h
  | fail e => trivial
  | ask b r next ih => exact fun outcome log => ih outcome (h outcome log)
  | probe b uri next ih => exact fun answer => ih answer (h answer)
  | note e next ih => exact ih h

/-- A check adds no exchange, and what follows it knows that it was passed. -/
theorem Grants.guard {x : Except StoreError α} {f : α → Dialogue β}
    (hf : ∀ a, x = .ok a → (f a).Grants P) : (ofExcept x >>= f).Grants P := by
  cases x with
  | error e => trivial
  | ok a => exact hf a rfl

/-- After a request that must succeed, the value rests on its answer too. -/
theorem Grants.demand_bind {task : Task} {b : Int32} {r : Request} {f : r.Answer → Dialogue β}
    (hf : ∀ answer log,
      (f answer).Grants fun exchanges => P (.request b r (.ok answer) log :: exchanges)) :
    (demand task b r >>= f).Grants P := by
  rw [Dialogue.demand_bind]
  rintro (e | answer) log
  · trivial
  · exact hf answer log

end Grants

end Dialogue

end Federation
