import Federation.Proofs.Directory.Network
import Federation.Proofs.Store.Requests
import Federation.Proofs.Store.Transcript

/-!
# Federation.Proofs.Store.Failures — failures of backends are passed on

A failure of a backend ends an operation and comes back as the cause of its error, whatever the
failure says of itself: one that speaks of an absent entity or of refused credentials is a backend
failure all the same. An error of another kind, and every value, means that no backend failed.
-/

namespace Federation

/-! ## Candid results -/

/-- A result that tells what was heard from backends. -/
structure Candid {α : Type} (xs : List Exchange) (result : Except StoreError α) : Prop where
  /-- A failure is the last thing that is heard, and the cause of the error. -/
  failure : ∀ before x after e, xs = before ++ x :: after → x.failure? = some e →
    after = [] ∧ ∃ err, result = .error err ∧ err.kind = .backendFailure ∧
      err.backendCause? = some e
  /-- Nothing else leads to such an error. -/
  backendFailure : ∀ err, result = .error err → err.kind = .backendFailure →
    ∃ x ∈ xs, ∃ e, x.failure? = some e ∧ err.backendCause? = some e
  /-- What is not found was reported to be absent, by a backend that was heard last. -/
  notFound : ∀ err, result = .error err → err.kind = .notFound →
    (∀ x ∈ xs, x.failure? = none) ∧ ∃ before x, xs = before ++ [x] ∧ x.reportsAbsence = true
  value : ∀ a, result = .ok a → ∀ x ∈ xs, x.failure? = none
  kind : ∀ err, result = .error err →
    err.kind ≠ .authenticationFailed ∧ err.kind ≠ .configuration

namespace Candid

variable {α : Type}

/-- A refusal of arguments, when nobody was asked. -/
theorem invalid (reason : InvalidInput) :
    Candid [] (.error (.invalidInput reason) : Except StoreError α) where
  failure _ _ _ _ hxs _ := absurd hxs.symm (List.append_ne_nil_of_right_ne_nil _ nofun)
  backendFailure _ herr hkind := by
    rw [← Except.error.inj herr] at hkind
    contradiction
  notFound _ herr hkind := by
    rw [← Except.error.inj herr] at hkind
    contradiction
  value _ ha := by contradiction
  kind _ herr := by
    rw [← Except.error.inj herr]
    exact ⟨nofun, nofun⟩

end Candid

namespace Dialogue

variable {ω α : Type} {net : Network ω} {b : Int32} {w w' : ω} {xs : List Exchange}
  {result : Except StoreError α}

/-- Where a transcript ends otherwise than with a backend failure, there was none. -/
theorem Transcript.unfailing (h : Transcript net b w xs result w')
    (hresult : ∀ task e, result ≠ .error (.backendFailure task e)) :
    ∀ x ∈ xs, x.failure? = none := by
  intro x hx
  cases hfailure : x.failure? with
  | none => rfl
  | some e =>
    rcases List.append_of_mem hx with ⟨before, after, hxs⟩
    rcases h.of_failure hxs hfailure with ⟨-, task, hfailed⟩
    exact absurd hfailed (hresult task e)

/-- A transcript has a candid result. -/
theorem Transcript.candid (h : Transcript net b w xs result w') : Candid xs result where
  failure before x after e hxs hx := by
    rcases h.of_failure hxs hx with ⟨hlast, task, hresult⟩
    exact ⟨hlast, _, hresult, rfl, rfl⟩
  backendFailure err herr hkind := by
    rcases h.of_error herr with ⟨before, x, hxs, ⟨task, e, hx, rfl⟩ | ⟨what, -, rfl⟩⟩
    · have hmem : x ∈ xs := hxs ▸ List.mem_append_right before (List.mem_singleton_self x)
      exact ⟨x, hmem, e, hx, rfl⟩
    · contradiction
  notFound err herr hkind := by
    rcases h.of_error herr with ⟨before, x, hxs, ⟨task, e, -, rfl⟩ | ⟨what, hx, rfl⟩⟩
    · contradiction
    · refine ⟨h.unfailing ?_, before, x, hxs, hx⟩
      rw [herr]
      exact nofun
  value a ha := by
    apply h.unfailing
    rw [ha]
    exact nofun
  kind err herr := by
    rcases h.of_error herr with ⟨before, x, -, ⟨task, e, -, rfl⟩ | ⟨what, -, rfl⟩⟩
    · exact ⟨nofun, nofun⟩
    · exact ⟨nofun, nofun⟩

end Dialogue

namespace Store

/-! ## All operations but logins -/

/-- Failures of backends are neither swallowed nor taken for something else. Whatever backends
answer, every command but a login puts requests of its own only, stops at the first failure with
that failure as the cause, and answers that something was not found only after a backend said so. -/
theorem obey_candid {ω : Type} (net : Network ω) (s : Store) (c : Command) (w : ω)
    (hc : c.operation.isLogin = false) :
    (∀ x ∈ (s.obey c).exchanges net w,
        ∃ b r outcome log, x = .request b r outcome log ∧ s.Asks c.operation b r) ∧
      Candid ((s.obey c).exchanges net w) ((s.obey c).run net w).result := by
  rcases s.refused_or_orderly hc with ⟨reason, hrefused⟩ | ⟨b, horderly⟩
  · have hobey : s.obey c = .fail (.invalidInput reason) := hrefused
    rw [hobey]
    exact ⟨fun _ hx => absurd hx List.not_mem_nil, .invalid reason⟩
  · have htranscript := horderly.transcribed net w
    refine ⟨fun x hx => ?_, htranscript.candid⟩
    rcases htranscript.request x hx with ⟨r, outcome, log, rfl⟩
    have hasks := (s.asks_perform c.operation).request net w _ hx b r rfl
    exact ⟨b, r, outcome, log, rfl, hasks⟩

/-- A user is there, but the groups of the user cannot be had: the backend says that the
account was not found, and the store that the backend failed. -/
theorem obey_candid_memberships :
    let s : Store := ⟨.standard, .poles⟩
    let gone := BackendError.notFound "account" "u.1"
    let ds := Registry.poles.ordered.map fun b => { Directory.new b with
      faults := [(.memberships .user, ⟨0, gone⟩)]
      contents := Contents.empty.seedUser "u.1" "ann" "pw" }
    let ann := EntityId.encode ⟨-2147483648, "u.1"⟩
    let c := Command.operate (.memberships .user ann)
    c.operation.isLogin = false ∧
      ∃ err, ((s.obey c).run Directory.network ds).result = .error err ∧
        err.kind = .backendFailure ∧ err.backendCause? = some gone := by
  intro s gone ds ann c
  refine ⟨rfl, ?_⟩
  have hread : s.registry.decode ann = .ok ⟨-2147483648, "u.1"⟩ :=
    Registry.decode_eq_ok_iff.2 ⟨⟨_, List.mem_cons_self, rfl⟩, by decide, rfl⟩
  rcases locate_of_decode hread .user with ⟨b, -, hid, hlocate⟩
  have hexchanges : (s.obey c).exchanges Directory.network ds =
      [.request (-2147483648) (.isPresent .user "u.1") (.ok true)
          [.request (.isPresent .user "u.1")],
        .request (-2147483648) (.memberships .user "u.1") (.error gone)
          [.request (.memberships .user "u.1")]] := by
    show Dialogue.exchanges Directory.network (Answer.handles .group <$> s.memberships .user ann)
      ds = _
    rw [memberships, hlocate]
    simp only [ensurePresent, Dialogue.ofExcept, Dialogue.done_bind, hid]
    rfl
  have hcandid := (s.obey_candid Directory.network c ds rfl).2
  rcases hcandid.failure [_] _ [] gone hexchanges rfl with ⟨-, herr⟩
  exact herr

end Store

end Federation
