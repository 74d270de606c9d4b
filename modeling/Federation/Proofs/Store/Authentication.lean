import Federation.Proofs.Dialogue
import Federation.Proofs.Registry
import Federation.Store.Authentication

/-!
# Federation.Proofs.Store.Authentication — who is asked to log a user in

A login without a backend name is a search through the registry. Its reference is given here in
terms of what each backend has to say: of the backends that support the claim, in the order of
the registry, the first that does not refuse the credentials decides. The search asks the backends
up to that one, and answers as that one does.
-/

namespace Federation

/-! ## Oracles -/

/-- What each backend would say to any request, and about any claim URI. -/
structure Oracle where
  answer : (backend : Int32) → (r : Request) → Except BackendError r.Answer
  supports : (backend : Int32) → (uri : String) → Bool

namespace Oracle

/-- The oracle says what was said in the exchange. -/
def Explains (o : Oracle) : Exchange → Prop
  | .request b r outcome _ => o.answer b r = outcome
  | .support b uri said => o.supports b uri = said

/-- The oracle that says at one backend what another oracle says there. -/
def override (o : Oracle) (b : Int32) (o' : Oracle) : Oracle where
  answer c r := if c = b then o'.answer c r else o.answer c r
  supports c uri := if c = b then o'.supports c uri else o.supports c uri

/-- The oracle of what backends say in one state of a network. -/
def ofState {ω : Type} (net : Network ω) (s : ω) : Oracle where
  answer b r := (net.serve b r s).outcome
  supports b uri := net.supports b uri s

/-- Nothing changes for exchanges with other backends. -/
theorem explains_override {o o' : Oracle} {b : Int32} {x : Exchange} (hx : x.backend ≠ b)
    (h : o.Explains x) : (o.override b o').Explains x := by
  cases x with
  | request c r outcome log =>
    have hc : ¬ c = b := hx
    simpa only [Explains, override, if_neg hc] using h
  | support c uri said =>
    have hc : ¬ c = b := hx
    simpa only [Explains, override, if_neg hc] using h

/-- At the overridden backend the other oracle speaks. -/
theorem explains_override_self {o o' : Oracle} {b : Int32} {x : Exchange} (hx : x.backend = b)
    (h : o'.Explains x) : (o.override b o').Explains x := by
  cases x with
  | request c r outcome log =>
    have hc : c = b := hx
    simpa only [Explains, override, if_pos hc] using h
  | support c uri said =>
    have hc : c = b := hx
    simpa only [Explains, override, if_pos hc] using h

/-- Where backends have no state, they say in a dialogue what they always say. -/
theorem explains_ofState {α : Type} (net : Network Unit) (d : Dialogue α) :
    ∀ x ∈ d.exchanges net (), (ofState net ()).Explains x := by
  induction d with
  | done a => exact fun _ hx => absurd hx List.not_mem_nil
  | fail e => exact fun _ hx => absurd hx List.not_mem_nil
  | ask b r next ih => exact List.forall_mem_cons.2 ⟨rfl, ih _⟩
  | probe b uri next ih => exact List.forall_mem_cons.2 ⟨rfl, ih _⟩
  | note e next ih => exact ih

/-! ## The reference -/

variable (o : Oracle) (claim : Claim) (credentials : List Credential)

/-- The backends that support the claim of a login. -/
def candidates (backends : List BackendConfig) : List BackendConfig :=
  backends.filter fun b => o.supports b.id claim.uri

/-- A backend decides a login unless it refuses the credentials. -/
def decides (b : BackendConfig) : Bool :=
  match o.answer b.id (.authenticate claim credentials) with
  | .ok _ => true
  | .error e => !e.isAuthentication

/-- The backend that decides a login: the first of the candidates that does. -/
def decider? (backends : List BackendConfig) : Option BackendConfig :=
  (o.candidates claim backends).find? (o.decides claim credentials)

/-- The backends at which a login is tried: the candidates up to and including the one that
decides, or all of them if none does. -/
def tried (backends : List BackendConfig) : List BackendConfig :=
  (o.candidates claim backends).takeWhile (!o.decides claim credentials ·) ++
    (o.decider? claim credentials backends).toList

/-- The answer to a login: what the deciding backend says, or a refusal without a cause. -/
def verdict (backends : List BackendConfig) : Except StoreError User :=
  match o.decider? claim credentials backends with
  | none => .error (.authenticationFailed none)
  | some b =>
    match o.answer b.id (.authenticate claim credentials) with
    | .ok localId => .ok ⟨EntityId.encode ⟨b.id, localId⟩, b.name⟩
    | .error e => .error (.backendFailure (.authenticate b.name) e)

variable {o claim credentials} {b : BackendConfig} {rest : List BackendConfig}

/-- A backend that does not support the claim plays no part. -/
theorem candidates_of_unsupported (h : o.supports b.id claim.uri = false) :
    o.candidates claim (b :: rest) = o.candidates claim rest := by
  rw [candidates, List.filter_cons, h]
  rfl

/-- A backend that supports the claim is the next candidate. -/
theorem candidates_of_supported (h : o.supports b.id claim.uri = true) :
    o.candidates claim (b :: rest) = b :: o.candidates claim rest := by
  rw [candidates, List.filter_cons, h]
  rfl

/-- A backend that does not support the claim does not decide. -/
theorem decider?_of_unsupported (h : o.supports b.id claim.uri = false) :
    o.decider? claim credentials (b :: rest) = o.decider? claim credentials rest := by
  rw [decider?, decider?, candidates_of_unsupported h]

/-- A candidate that decides ends the search. -/
theorem decider?_of_decides (hs : o.supports b.id claim.uri = true)
    (hd : o.decides claim credentials b = true) :
    o.decider? claim credentials (b :: rest) = some b := by
  rw [decider?, candidates_of_supported hs, List.find?_cons, hd]

/-- A candidate that refuses the credentials is passed over. -/
theorem decider?_of_refuses (hs : o.supports b.id claim.uri = true)
    (hd : o.decides claim credentials b = false) :
    o.decider? claim credentials (b :: rest) = o.decider? claim credentials rest := by
  rw [decider?, candidates_of_supported hs, List.find?_cons, hd]
  rfl

/-- A login is not tried where the claim is not supported. -/
theorem tried_of_unsupported (h : o.supports b.id claim.uri = false) :
    o.tried claim credentials (b :: rest) = o.tried claim credentials rest := by
  rw [tried, tried, decider?_of_unsupported h, candidates_of_unsupported h]

/-- No candidate after one that decides is tried. -/
theorem tried_of_decides (hs : o.supports b.id claim.uri = true)
    (hd : o.decides claim credentials b = true) : o.tried claim credentials (b :: rest) = [b] := by
  rw [tried, decider?_of_decides hs hd, candidates_of_supported hs, List.takeWhile_cons, hd]
  rfl

/-- After a candidate that refuses the credentials the others are tried. -/
theorem tried_of_refuses (hs : o.supports b.id claim.uri = true)
    (hd : o.decides claim credentials b = false) :
    o.tried claim credentials (b :: rest) = b :: o.tried claim credentials rest := by
  rw [tried, decider?_of_refuses hs hd, candidates_of_supported hs, List.takeWhile_cons, hd]
  rfl

/-- A login is answered alike if the same backend decides it. -/
theorem verdict_congr {l l' : List BackendConfig}
    (h : o.decider? claim credentials l = o.decider? claim credentials l') :
    o.verdict claim credentials l = o.verdict claim credentials l' := by
  unfold verdict
  rw [h]

end Oracle

namespace Store

/-! ## One step of the search -/

section Search

variable {ω : Type} (net : Network ω) (claim : Claim) (credentials : List Credential)

/-- What a search does at the next backend: it skips the backend, or ends with its answer, or goes
on after its refusal, or breaks off at another failure. -/
inductive Attempt (b : BackendConfig) (rest : List BackendConfig) (w : ω) : Prop where
  | skipped (hs : net.supports b.id claim.uri w = false)
      (hx : (scan claim credentials (b :: rest)).exchanges net w =
        .support b.id claim.uri false :: (scan claim credentials rest).exchanges net w)
      (hr : ((scan claim credentials (b :: rest)).run net w).result =
        ((scan claim credentials rest).run net w).result)
  | accepted (localId : String) (w' : ω) (log : List Question)
      (hs : net.supports b.id claim.uri w = true)
      (ha : net.serve b.id (.authenticate claim credentials) w = ⟨.ok localId, w', log⟩)
      (hx : (scan claim credentials (b :: rest)).exchanges net w =
        [.support b.id claim.uri true,
          .request b.id (.authenticate claim credentials) (.ok localId) log])
      (hr : ((scan claim credentials (b :: rest)).run net w).result = .ok (.of b localId))
  | refused (e : BackendError) (w' : ω) (log : List Question)
      (hs : net.supports b.id claim.uri w = true)
      (ha : net.serve b.id (.authenticate claim credentials) w = ⟨.error e, w', log⟩)
      (he : e.isAuthentication = true)
      (hx : (scan claim credentials (b :: rest)).exchanges net w =
        .support b.id claim.uri true ::
          .request b.id (.authenticate claim credentials) (.error e) log ::
          (scan claim credentials rest).exchanges net w')
      (hr : ((scan claim credentials (b :: rest)).run net w).result =
        ((scan claim credentials rest).run net w').result)
  | broken (e : BackendError) (w' : ω) (log : List Question)
      (hs : net.supports b.id claim.uri w = true)
      (ha : net.serve b.id (.authenticate claim credentials) w = ⟨.error e, w', log⟩)
      (he : e.isAuthentication = false)
      (hx : (scan claim credentials (b :: rest)).exchanges net w =
        [.support b.id claim.uri true,
          .request b.id (.authenticate claim credentials) (.error e) log])
      (hr : ((scan claim credentials (b :: rest)).run net w).result =
        .error (.backendFailure (.authenticate b.name) e))

/-- These are all the things that a search does at the next backend. -/
theorem attempt (b : BackendConfig) (rest : List BackendConfig) (w : ω) :
    Attempt net claim credentials b rest w := by
  cases hs : net.supports b.id claim.uri w with
  | false =>
    refine .skipped hs ?_ ?_
    · simp only [scan, Dialogue.exchanges, hs]
    · simp only [scan, Dialogue.run, hs]
  | true =>
    -- the backend is asked, and what it says decides between the other three
    rcases ha : net.serve b.id (.authenticate claim credentials) w with ⟨e | localId, w', log⟩
    · cases he : e.isAuthentication with
      | true =>
        refine .refused e w' log hs ha he ?_ ?_
        · simp only [scan, Dialogue.exchanges, hs, ha, he, if_true]
        · simp only [scan, Dialogue.run, hs, ha, he, if_true]
      | false =>
        refine .broken e w' log hs ha he ?_ ?_
        · simp only [scan, Dialogue.exchanges, hs, ha, he, Bool.false_eq_true, if_false]
        · simp only [scan, Dialogue.run, hs, ha, he, Bool.false_eq_true, if_false, loginFailure]
    · refine .accepted localId w' log hs ha ?_ ?_
      · simp only [scan, Dialogue.exchanges, hs, ha]
      · simp only [scan, Dialogue.run, hs, ha]

/-! ## The whole search -/

/-- A search speaks only to the backends that it is to go through. -/
theorem backend_of_mem_scan (l : List BackendConfig) (w : ω) :
    ∀ x ∈ (scan claim credentials l).exchanges net w, x.backend ∈ l.map (·.id) := by
  induction l generalizing w with
  | nil => exact fun _ hx => absurd hx List.not_mem_nil
  | cons b rest ih =>
    have hhead : b.id ∈ (b :: rest).map (·.id) := List.mem_cons_self
    have htail : ∀ w', ∀ x ∈ (scan claim credentials rest).exchanges net w',
        x.backend ∈ (b :: rest).map (·.id) :=
      fun w' x hx => List.mem_cons_of_mem b.id (ih w' x hx)
    cases attempt net claim credentials b rest w with
    | skipped _ hscan _ =>
      rw [hscan]
      exact List.forall_mem_cons.2 ⟨hhead, htail w⟩
    | accepted _ _ _ _ _ hscan _ =>
      rw [hscan]
      exact List.forall_mem_cons.2 ⟨hhead, List.forall_mem_cons.2 ⟨hhead, List.forall_mem_nil _⟩⟩
    | refused _ w' _ _ _ _ hscan _ =>
      rw [hscan]
      exact List.forall_mem_cons.2 ⟨hhead, List.forall_mem_cons.2 ⟨hhead, htail w'⟩⟩
    | broken _ _ _ _ _ _ hscan _ =>
      rw [hscan]
      exact List.forall_mem_cons.2 ⟨hhead, List.forall_mem_cons.2 ⟨hhead, List.forall_mem_nil _⟩⟩

/-- No backend is heard twice in a search, so there is an oracle for all that is said. -/
theorem exists_oracle_scan {l : List BackendConfig} (hl : l.Pairwise fun a b => a.id ≠ b.id)
    (w : ω) : ∃ o : Oracle, ∀ x ∈ (scan claim credentials l).exchanges net w, o.Explains x := by
  induction l generalizing w with
  | nil => exact ⟨.ofState net w, fun _ hx => absurd hx List.not_mem_nil⟩
  | cons b rest ih =>
    rcases List.pairwise_cons.1 hl with ⟨hb, hrest⟩
    -- the head speaks as it does now, the others as they do when their turn comes
    have hlater : ∀ {o : Oracle} {w' : ω} {x : Exchange},
        (∀ y ∈ (scan claim credentials rest).exchanges net w', o.Explains y) →
        x ∈ (scan claim credentials rest).exchanges net w' →
        (o.override b.id (.ofState net w)).Explains x := by
      intro o w' x ho hx
      have hmem := backend_of_mem_scan net claim credentials rest w' x hx
      rcases List.mem_map.1 hmem with ⟨b', hb', hid⟩
      have hne : x.backend ≠ b.id := fun he => hb b' hb' (by rw [hid, he])
      exact Oracle.explains_override hne (ho x hx)
    have hsupport : ∀ {o : Oracle} {said : Bool}, net.supports b.id claim.uri w = said →
        (o.override b.id (.ofState net w)).Explains (.support b.id claim.uri said) := by
      intro o said hs
      exact Oracle.explains_override_self rfl hs
    have hrequest : ∀ {o : Oracle} {outcome : Except BackendError String} {w' : ω}
        {log : List Question},
        net.serve b.id (.authenticate claim credentials) w = ⟨outcome, w', log⟩ →
        (o.override b.id (.ofState net w)).Explains
          (.request b.id (.authenticate claim credentials) outcome log) := by
      intro o outcome w' log ha
      exact Oracle.explains_override_self rfl (congrArg Reply.outcome ha)
    cases attempt net claim credentials b rest w with
    | skipped hs hscan _ =>
      rcases ih hrest w with ⟨o, ho⟩
      refine ⟨o.override b.id (.ofState net w), ?_⟩
      rw [hscan]
      exact List.forall_mem_cons.2 ⟨hsupport hs, fun x hx => hlater ho hx⟩
    | accepted localId w' log hs ha hscan _ =>
      rcases ih hrest w with ⟨o, -⟩
      refine ⟨o.override b.id (.ofState net w), ?_⟩
      rw [hscan]
      exact List.forall_mem_cons.2 ⟨hsupport hs, List.forall_mem_singleton.2 (hrequest ha)⟩
    | refused e w' log hs ha he hscan _ =>
      rcases ih hrest w' with ⟨o, ho⟩
      refine ⟨o.override b.id (.ofState net w), ?_⟩
      rw [hscan]
      exact List.forall_mem_cons.2
        ⟨hsupport hs, List.forall_mem_cons.2 ⟨hrequest ha, fun x hx => hlater ho hx⟩⟩
    | broken e w' log hs ha he hscan _ =>
      rcases ih hrest w with ⟨o, -⟩
      refine ⟨o.override b.id (.ofState net w), ?_⟩
      rw [hscan]
      exact List.forall_mem_cons.2 ⟨hsupport hs, List.forall_mem_singleton.2 (hrequest ha)⟩

/-- Whatever oracle explains a search, the search tries the backends that the reference names and
answers as it says. -/
theorem scan_eq_reference {l : List BackendConfig} {w : ω} {o : Oracle}
    (ho : ∀ x ∈ (scan claim credentials l).exchanges net w, o.Explains x) :
    ((scan claim credentials l).exchanges net w).filterMap Exchange.request? =
        (o.tried claim credentials l).map (fun b => (b.id, .authenticate claim credentials)) ∧
      ((scan claim credentials l).run net w).result = o.verdict claim credentials l := by
  -- along the registry; the state moves on with each refusal, the oracle stays the same
  induction l generalizing w with
  | nil => exact ⟨rfl, rfl⟩
  | cons b rest ih =>
    cases attempt net claim credentials b rest w with
    | skipped hs hscan hresult =>
      rw [hscan] at ho
      rcases List.forall_mem_cons.1 ho with ⟨hsupport, hlater⟩
      rcases ih hlater with ⟨hrequests, hverdict⟩
      constructor
      · rw [hscan, Oracle.tried_of_unsupported hsupport, ← hrequests]
        rfl
      · rw [hresult, hverdict,
          Oracle.verdict_congr (Oracle.decider?_of_unsupported hsupport)]
    | accepted localId w' log _ _ hscan hresult =>
      rw [hscan] at ho
      rcases List.forall_mem_cons.1 ho with ⟨hsupport, hanswer⟩
      have hanswer : o.answer b.id (.authenticate claim credentials) = .ok localId :=
        hanswer _ List.mem_cons_self
      have hdecides : o.decides claim credentials b = true := by
        rw [Oracle.decides, hanswer]
      constructor
      · rw [hscan, Oracle.tried_of_decides hsupport hdecides]
        rfl
      · rw [hresult, Oracle.verdict, Oracle.decider?_of_decides hsupport hdecides]
        simp only [hanswer]
        rfl
    | refused e w' log _ _ he hscan hresult =>
      rw [hscan] at ho
      rcases List.forall_mem_cons.1 ho with ⟨hsupport, hrest⟩
      rcases List.forall_mem_cons.1 hrest with ⟨hanswer, hlater⟩
      have hanswer : o.answer b.id (.authenticate claim credentials) = .error e := hanswer
      have hdecides : o.decides claim credentials b = false := by
        rw [Oracle.decides, hanswer]
        simp only [he, Bool.not_true]
      rcases ih hlater with ⟨hrequests, hverdict⟩
      constructor
      · rw [hscan, Oracle.tried_of_refuses hsupport hdecides, List.map_cons, ← hrequests]
        rfl
      · rw [hresult, hverdict,
          Oracle.verdict_congr (Oracle.decider?_of_refuses hsupport hdecides)]
    | broken e w' log _ _ he hscan hresult =>
      rw [hscan] at ho
      rcases List.forall_mem_cons.1 ho with ⟨hsupport, hanswer⟩
      have hanswer : o.answer b.id (.authenticate claim credentials) = .error e :=
        hanswer _ List.mem_cons_self
      have hdecides : o.decides claim credentials b = true := by
        rw [Oracle.decides, hanswer]
        simp only [he, Bool.not_false]
      constructor
      · rw [hscan, Oracle.tried_of_decides hsupport hdecides]
        rfl
      · rw [hresult, Oracle.verdict, Oracle.decider?_of_decides hsupport hdecides]
        simp only [hanswer]

end Search

/-- A login without a backend name is a search: whatever backends answer, there is an oracle for
what they say, and any such oracle determines which backends are asked to authenticate, once each
and in the order of priority and insertion, and how the login is answered. -/
theorem authenticate_eq_reference {ω : Type} (net : Network ω) (s : Store) (w : ω) (claim : Claim)
    (credentials : List Credential) (name : Option String) (hvalue : claim.value ≠ "")
    (hcredentials : credentials ≠ []) (hname : name = none ∨ name = some "") :
    let login := s.authenticate claim credentials name
    (∀ backends, Registry.ofList backends = .ok s.registry →
        Registry.InTurn backends s.registry.ordered) ∧
      (s.registry.ordered.Pairwise fun a b => a.id ≠ b.id) ∧
      (∃ o : Oracle, ∀ x ∈ login.exchanges net w, o.Explains x) ∧
      ∀ o : Oracle, (∀ x ∈ login.exchanges net w, o.Explains x) →
        (login.exchanges net w).filterMap Exchange.request? =
            (o.tried claim credentials s.registry.ordered).map
              (fun b => (b.id, .authenticate claim credentials)) ∧
          (login.run net w).result = o.verdict claim credentials s.registry.ordered := by
  intro login
  have hlogin : login = scan claim credentials s.registry.ordered := by
    have hblank : (claim.isBlank || credentials.isEmpty) = false := by
      simp [Claim.isBlank, hvalue, hcredentials]
    have hgiven : given? name = none := by
      rcases hname with rfl | rfl
      · rfl
      · rfl
    show s.authenticate claim credentials name = _
    rw [authenticate, hblank, hgiven]
    rfl
  refine ⟨fun backends h => Registry.ordered_inTurn h, s.registry.distinctIds, ?_, ?_⟩
  · -- ids are distinct, so nobody is asked twice
    rw [hlogin]
    exact exists_oracle_scan net claim credentials s.registry.distinctIds w
  · intro o ho
    rw [hlogin] at ho ⊢
    exact scan_eq_reference net claim credentials ho

/-- A network in which one backend refuses all logins and the others accept them. -/
def gates (closed : Int32) : Network Unit where
  serve b r _ :=
    match r with
    | .authenticate .. =>
      ⟨if b = closed then .error (.invalidCredentials "closed") else .ok "7", (), []⟩
    | r => ⟨.error (.notSupported r.title), (), []⟩
  supports _ _ _ := true

/-- A user whom the preferred backend refuses is found in the other one. -/
theorem authenticate_eq_reference_poles :
    let login := authenticate ⟨.standard, .poles⟩ ⟨"name", "eve"⟩ [.password "?"] (some "")
    (login.exchanges (gates (-2147483648)) ()).filterMap Exchange.request? =
        [(-2147483648, .authenticate ⟨"name", "eve"⟩ [.password "?"]),
          (2147483647, .authenticate ⟨"name", "eve"⟩ [.password "?"])] ∧
      (login.run (gates (-2147483648)) ()).result =
        .ok ⟨EntityId.encode ⟨2147483647, "7"⟩, "south"⟩ := by
  intro login
  have hreference := authenticate_eq_reference (gates (-2147483648)) ⟨.standard, .poles⟩ ()
    ⟨"name", "eve"⟩ [.password "?"] (some "") (by decide) (List.cons_ne_nil _ _) (.inr rfl)
  obtain ⟨hrequests, hresult⟩ := hreference.2.2.2 (.ofState (gates (-2147483648)) ())
    (Oracle.explains_ofState _ login)
  exact ⟨hrequests, hresult⟩

end Store

end Federation
