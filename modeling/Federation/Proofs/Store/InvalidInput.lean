import Federation.Directory.Network
import Federation.Proofs.Store.Conduct

/-!
# Federation.Proofs.Store.InvalidInput — refused arguments leave no trace

An invalid input is found before any backend is spoken to. So a dialogue that can end with such an
error anywhere else than at its very start would break the promise, and none can.
-/

namespace Federation.Store

open Dialogue (Admitted Orderly)

variable {s : Store}

/-- The outcome is not that an argument was refused. -/
def Accepted {α : Type} (result : Except StoreError α) : Prop :=
  ∀ e, result = .error e → e.kind ≠ .invalidInput

theorem accepted_ok {α : Type} (a : α) : Accepted (.ok a : Except StoreError α) := by
  intro e he
  contradiction

theorem accepted_error {α : Type} {e : StoreError} (h : e.kind ≠ .invalidInput) :
    Accepted (.error e : Except StoreError α) := by
  intro e' he
  rw [← Except.error.inj he]
  exact h

/-! ## Logins -/

/-- A login at one backend is never refused for its arguments. -/
theorem accepted_authenticateAt (b : BackendConfig) (claim : Claim)
    (credentials : List Credential) : (authenticateAt b claim credentials).Ends Accepted := by
  rintro (e | localId)
  · show Dialogue.Ends Accepted (if e.isAuthentication then _ else _)
    split
    · exact accepted_error nofun
    · exact accepted_error nofun
  · exact accepted_ok _

/-- A search for a backend that accepts a login is never refused for its arguments. -/
theorem accepted_scan (claim : Claim) (credentials : List Credential) (l : List BackendConfig) :
    (scan claim credentials l).Ends Accepted := by
  induction l with
  | nil => exact accepted_error nofun
  | cons b rest ih =>
    rintro (_ | _)
    · exact ih
    · rintro (e | localId)
      · show Dialogue.Ends Accepted (if e.isAuthentication then _ else _)
        split
        · exact ih
        · exact accepted_error nofun
      · exact accepted_ok _

/-- A login is refused for its arguments at once or not at all. -/
theorem refused_or_accepted_authenticate (s : Store) (claim : Claim)
    (credentials : List Credential) (name : Option String) :
    (∃ reason, s.authenticate claim credentials name = .fail (.invalidInput reason)) ∨
      (s.authenticate claim credentials name).Ends Accepted := by
  unfold authenticate
  split
  · exact .inr (accepted_error nofun)
  · split
    · rename_i n _
      cases hb : s.registry.byName n with
      | error e =>
        rcases guard_byName s.registry n e hb with ⟨reason, rfl⟩
        exact .inl ⟨reason, rfl⟩
      | ok b => exact .inr (accepted_authenticateAt b claim credentials)
    · exact .inr (accepted_scan claim credentials s.registry.ordered)

/-! ## All operations -/

/-- An operation is refused for its arguments at once or not at all. -/
theorem refused_or_accepted (s : Store) (op : Operation) :
    (∃ reason, s.perform op = .fail (.invalidInput reason)) ∨ (s.perform op).Ends Accepted := by
  cases hlogin : op.isLogin with
  | false =>
    rcases s.exists_addresses hlogin with ⟨a, ha⟩
    cases admitted_perform hlogin ha with
    | refused reason h => exact .inl ⟨reason, h⟩
    | orderly h =>
      -- it ends with a value, an absence or a backend's failure, and none of them is a refusal
      refine .inr (h.ends accepted_ok ?_ ?_)
      · exact fun what => accepted_error nofun
      · exact fun task e => accepted_error nofun
  | true =>
    cases op with
    | authenticate claim credentials backend =>
      rcases s.refused_or_accepted_authenticate claim credentials backend with ⟨reason, h⟩ | h
      · refine .inl ⟨reason, ?_⟩
        rw [perform, h, Dialogue.map_fail]
      · exact .inr (h.map _)
    | _ => contradiction

/-- Invalid input means that nothing was touched: no backend was spoken to, all are as they were,
and there is nothing behind the error. -/
theorem untouched_of_invalidInput {ω : Type} (net : Network ω) (s : Store) (c : Command) (w : ω)
    (e : StoreError) (h : ((s.obey c).run net w).result = .error e)
    (hkind : e.kind = .invalidInput) :
    (s.obey c).exchanges net w = [] ∧ ((s.obey c).run net w).asked = [] ∧
      ((s.obey c).run net w).state = w ∧ e.cause? = none := by
  rcases s.refused_or_accepted c.operation with ⟨reason, hrefused⟩ | haccepted
  · have hobey : s.obey c = .fail (.invalidInput reason) := hrefused
    rw [hobey] at h ⊢
    have he : e = .invalidInput reason := (Except.error.inj h).symm
    rw [he]
    exact ⟨rfl, rfl, rfl, rfl⟩
  · have haccepted : Accepted ((s.obey c).run net w).result := haccepted.result net w
    exact absurd hkind (haccepted e h)

/-- A batch is refused for its last payload before its first one is added. -/
theorem untouched_of_invalidInput_batch :
    let c := Command.operate (.addAll .user [⟨[⟨Claim.usernameUri, "ann"⟩], []⟩, ⟨[], []⟩] none)
    let d := (⟨.standard, .poles⟩ : Store).obey c
    let w := Registry.poles.ordered.map Directory.new
    (d.run Directory.network w).result = .error (.invalidInput (.emptyPayload .user)) ∧
      (d.run Directory.network w).asked = [] ∧ (d.run Directory.network w).state = w := by
  intro c d w
  have hresult : (d.run Directory.network w).result =
      .error (.invalidInput (.emptyPayload .user)) := rfl
  obtain ⟨-, hasked, hstate, -⟩ := untouched_of_invalidInput Directory.network
    ⟨.standard, .poles⟩ c w _ hresult rfl
  exact ⟨hresult, hasked, hstate⟩

end Federation.Store
