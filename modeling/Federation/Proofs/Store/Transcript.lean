import Federation.Proofs.Store.Conduct

/-!
# Federation.Proofs.Store.Transcript — what can come of an operation

The runs of an orderly dialogue, laid out exchange by exchange. A transcript ends after the first
failure of the backend, after the first report of an absence and after the first write; each of
these decides the result, and only reads stand before them. Every operation but a login refuses
its arguments at once, or leaves such a transcript.
-/

namespace Federation

/-- The answer to a write says nothing of what is there. -/
theorem Request.isWrite_of_reportsAbsence {r : Request} {a : r.Answer}
    (h : r.reportsAbsence a = true) : r.isWrite = false := by
  cases r with
  | isPresent k id => rfl
  | find k claim => rfl
  | _ => contradiction

namespace Exchange

/-- The failure that the backend answered with. -/
def failure? : Exchange → Option BackendError
  | request _ _ (.error e) _ => some e
  | _ => none

/-- The backend answered that what it was asked for is not there. -/
def reportsAbsence : Exchange → Bool
  | request _ r (.ok a) _ => r.reportsAbsence a
  | _ => false

/-- What was asked for is a change. -/
def isWrite : Exchange → Bool
  | request _ r _ _ => r.isWrite
  | support .. => false

end Exchange

namespace Dialogue

variable {ω α : Type}

/-! ## Transcripts -/

/-- The exchanges with one backend from a state on, with the result and the state at their end. -/
inductive Transcript (net : Network ω) (b : Int32) :
    ω → List Exchange → Except StoreError α → ω → Prop
  | settled (a : α) (w : ω) : Transcript net b w [] (.ok a) w
  | failed (task : Task) {r : Request} {e : BackendError} {log : List Question} {w w' : ω}
      (h : net.serve b r w = ⟨.error e, w', log⟩) :
      Transcript net b w [.request b r (.error e) log] (.error (.backendFailure task e)) w'
  | absent (what : Absence) {r : Request} {a : r.Answer} {log : List Question} {w w' : ω}
      (ha : r.reportsAbsence a = true) (h : net.serve b r w = ⟨.ok a, w', log⟩) :
      Transcript net b w [.request b r (.ok a) log] (.error (.notFound what)) w'
  | read {r : Request} {a : r.Answer} {log : List Question} {w w' w'' : ω} {xs : List Exchange}
      {result : Except StoreError α} (hr : r.isWrite = false)
      (h : net.serve b r w = ⟨.ok a, w', log⟩) (rest : Transcript net b w' xs result w'') :
      Transcript net b w (.request b r (.ok a) log :: xs) result w''
  | wrote (v : α) {r : Request} {a : r.Answer} {log : List Question} {w w' : ω}
      (hr : r.isWrite = true) (h : net.serve b r w = ⟨.ok a, w', log⟩) :
      Transcript net b w [.request b r (.ok a) log] (.ok v) w'

/-- The run of a dialogue has a transcript. -/
def Transcribed (net : Network ω) (b : Int32) (d : Dialogue α) (w : ω) : Prop :=
  Transcript net b w (d.exchanges net w) (d.run net w).result (d.run net w).state

variable {net : Network ω} {b : Int32}

theorem Settled.transcribed {d : Dialogue α} (h : Settled d) (w : ω) : Transcribed net b d w := by
  cases h with
  | done a => exact .settled a w
  | note e a => exact .settled a w

/-- A request that must succeed is transcribed if its failure ends the dialogue, and what follows
its answer goes on from there. -/
theorem transcribed_demand_bind {β : Type} {task : Task} {r : Request}
    {next : r.Answer → Dialogue β} {w : ω} (hanswer : ∀ a w' log, net.serve b r w = ⟨.ok a, w', log⟩ →
      Transcript net b w (.request b r (.ok a) log :: (next a).exchanges net w')
        ((next a).run net w').result ((next a).run net w').state) :
    Transcribed net b (demand task b r >>= next) w := by
  unfold Transcribed
  rw [demand_bind]
  rcases hserve : net.serve b r w with ⟨e | a, w', log⟩
  · simp only [exchanges, run, hserve]
    exact .failed task hserve
  · simp only [exchanges, run, hserve]
    exact hanswer a w' log hserve

/-- All runs of an orderly dialogue have transcripts. -/
theorem Orderly.transcribed {d : Dialogue α} (h : Orderly b d) (net : Network ω) (w : ω) :
    Transcribed net b d w := by
  induction h generalizing w with
  | settled h => exact h.transcribed w
  | read task r next hr habsent _ ih =>
    apply transcribed_demand_bind
    intro a w' log hserve
    cases ha : r.reportsAbsence a with
    | false => exact .read hr hserve (ih a ha w')
    | true =>
      rcases habsent a ha with ⟨what, hwhat⟩
      rw [hwhat]
      exact .absent what ha hserve
  | write task r next hr hnext =>
    apply transcribed_demand_bind
    intro a w' log hserve
    -- nothing is said after a write, so the rest of the transcript is empty
    generalize hd : next a = d
    have hsettled : Settled d := hd ▸ hnext a
    cases hsettled with
    | done v => exact .wrote v hr hserve
    | note e v => exact .wrote v hr hserve

/-! ## Reading a transcript -/

namespace Transcript

variable {w w' : ω} {xs : List Exchange} {result : Except StoreError α}

/-- What is left of a transcript is one too. -/
theorem suffix {before after : List Exchange} {x : Exchange} (h : Transcript net b w xs result w')
    (hxs : xs = before ++ x :: after) : ∃ w₁, Transcript net b w₁ (x :: after) result w' := by
  -- an exchange that others follow is a read, and the rest of the transcript is that of the read
  induction before generalizing w xs with
  | nil =>
    subst hxs
    exact ⟨w, h⟩
  | cons y rest ih =>
    cases h with
    | settled a => contradiction
    | read hr hserve hrest =>
      injection hxs with _ hxs
      exact ih hrest hxs
    | failed | absent | wrote =>
      injection hxs with _ hxs
      exact absurd hxs.symm (List.append_ne_nil_of_right_ne_nil rest (List.cons_ne_nil x after))

/-- Where nobody was asked, nothing was changed. -/
theorem state_of_silent (h : Transcript net b w xs result w') (hxs : xs = []) : w' = w := by
  cases h with
  | settled a => rfl
  | _ => contradiction

/-- All exchanges are requests to the one backend. -/
theorem request (h : Transcript net b w xs result w') :
    ∀ x ∈ xs, ∃ r outcome log, x = .request b r outcome log := by
  induction h with
  | settled a w => exact fun _ hx => absurd hx List.not_mem_nil
  | read _ _ _ ih => exact List.forall_mem_cons.2 ⟨⟨_, _, _, rfl⟩, ih⟩
  | failed | absent | wrote => exact List.forall_mem_singleton.2 ⟨_, _, _, rfl⟩

/-- A failure is the end, and the result. -/
theorem of_failure {x : Exchange} {e : BackendError} {before after : List Exchange}
    (h : Transcript net b w xs result w') (hxs : xs = before ++ x :: after)
    (hx : x.failure? = some e) : after = [] ∧ ∃ task, result = .error (.backendFailure task e) := by
  rcases h.suffix hxs with ⟨w₁, hend⟩
  cases hend with
  | failed task hserve =>
    injection hx with hx
    subst hx
    exact ⟨rfl, task, rfl⟩
  | absent | read | wrote => contradiction

/-- A write is the end. -/
theorem of_write {x : Exchange} {before after : List Exchange}
    (h : Transcript net b w xs result w') (hxs : xs = before ++ x :: after)
    (hx : x.isWrite = true) : after = [] := by
  rcases h.suffix hxs with ⟨w₁, hend⟩
  cases hend with
  | read hr _ _ =>
    have hwrite : Request.isWrite _ = true := hx
    rw [hr] at hwrite
    contradiction
  | failed | absent | wrote => rfl

/-- An error rests on the last exchange: a failure, or the report of an absence. -/
theorem of_error {e : StoreError} (h : Transcript net b w xs result w')
    (hresult : result = .error e) :
    ∃ before x, xs = before ++ [x] ∧
      ((∃ task cause, x.failure? = some cause ∧ e = .backendFailure task cause) ∨
        (∃ what, x.reportsAbsence = true ∧ e = .notFound what)) := by
  induction h with
  | settled a w => contradiction
  | wrote v => contradiction
  | failed task hserve =>
    injection hresult with hresult
    exact ⟨[], _, rfl, .inl ⟨task, _, rfl, hresult.symm⟩⟩
  | absent what ha hserve =>
    injection hresult with hresult
    exact ⟨[], _, rfl, .inr ⟨what, ha, hresult.symm⟩⟩
  | read _ _ _ ih =>
    rcases ih hresult with ⟨before, x, hxs, hx⟩
    exact ⟨_ :: before, x, by rw [hxs]; rfl, hx⟩

end Transcript

end Dialogue

namespace Store

/-! ## Operations -/

/-- Every operation but a login refuses its arguments at once, or is an orderly dialogue. -/
theorem refused_or_orderly (s : Store) {op : Operation} (hop : op.isLogin = false) :
    (∃ reason, s.perform op = .fail (.invalidInput reason)) ∨
      ∃ b, (s.perform op).Orderly b := by
  rcases s.exists_addresses hop with ⟨b, hb⟩
  cases admitted_perform hop hb with
  | refused reason h => exact .inl ⟨reason, h⟩
  | orderly h => exact .inr ⟨b, h⟩

end Store

end Federation
