import Federation.Proofs.Store.Authentication

/-!
# Federation.Proofs.Store.Discretion — a refused login says nothing

A login that is refused looks the same whoever refused it, and why; only where one backend was
named is its answer kept as the cause. Seen from outside, two logins without a backend name cannot
be told apart if all that differs is how backends refuse: neither by their answer, nor by the
backends that are asked.
-/

namespace Federation

/-! ## What is asked -/

namespace Exchange

/-- The question of an exchange, and the backend that it was put to. -/
def address : Exchange → Int32 × Question
  | request b r _ _ => (b, .request r)
  | support b uri _ => (b, .supportsClaim uri)

end Exchange

namespace Oracle

variable {α : Type}

/-- What is seen of a dialogue with backends that say what the oracle says: how it ends, and what
was asked. -/
def seen (o : Oracle) : Dialogue α → Except StoreError α × List (Int32 × Question)
  | .done a => (.ok a, [])
  | .fail e => (.error e, [])
  | .ask b r next =>
    let (result, asked) := o.seen (next (o.answer b r))
    (result, (b, .request r) :: asked)
  | .probe b uri next =>
    let (result, asked) := o.seen (next (o.supports b uri))
    (result, (b, .supportsClaim uri) :: asked)
  | .note _ next => o.seen next

/-- A run is seen as by any oracle that explains it. -/
theorem seen_of_explains {ω : Type} {net : Network ω} {d : Dialogue α} {w : ω} {o : Oracle}
    (h : ∀ x ∈ d.exchanges net w, o.Explains x) :
    ((d.run net w).result, (d.exchanges net w).map Exchange.address) = o.seen d := by
  induction d generalizing w with
  | done a => rfl
  | fail e => rfl
  | ask b r next ih =>
    rcases List.forall_mem_cons.1 h with ⟨hsaid, hlater⟩
    have hanswer : o.answer b r = (net.serve b r w).outcome := hsaid
    have hrest := ih (net.serve b r w).outcome hlater
    simp only [seen, hanswer, ← hrest]
    rfl
  | probe b uri next ih =>
    rcases List.forall_mem_cons.1 h with ⟨hsaid, hlater⟩
    have hanswer : o.supports b uri = net.supports b uri w := hsaid
    have hrest := ih (net.supports b uri w) hlater
    simp only [seen, hanswer, ← hrest]
    rfl
  | note e next ih => exact ih h

end Oracle

/-! ## Likeness -/

/-- Two answers to a login that differ at most in how they refuse the credentials. -/
inductive Similar : Except BackendError String → Except BackendError String → Prop
  | accepted (localId : String) : Similar (.ok localId) (.ok localId)
  | refused {e e' : BackendError} (he : e.isAuthentication = true)
      (he' : e'.isAuthentication = true) : Similar (.error e) (.error e')
  | failed {e : BackendError} (he : e.isAuthentication = false) : Similar (.error e) (.error e)

/-- What the store goes by of a backend. -/
def BackendConfig.identity (b : BackendConfig) : Int32 × String × Int32 :=
  (b.id, b.name, b.priority)

/-- Registries of lists that are alike have their backends in the same order. -/
theorem Registry.identities_ordered {bs bs' : List BackendConfig} {r r' : Registry}
    (h : ofList bs = .ok r) (h' : ofList bs' = .ok r')
    (hsame : bs.map (·.identity) = bs'.map (·.identity)) :
    r.ordered.map (·.identity) = r'.ordered.map (·.identity) := by
  have harrange : ∀ l : List BackendConfig, (arrange l).map (·.identity) =
      (l.map (·.identity)).mergeSort fun a b => a.2.2 ≤ b.2.2 :=
    fun l => List.map_mergeSort fun _ _ _ _ => rfl
  rw [ordered_of_ofList h, ordered_of_ofList h', harrange, harrange, hsame]

namespace Oracle

/-- The two oracles speak alike to a login at the backend. -/
structure AlikeAt (o o' : Oracle) (claim : Claim) (credentials : List Credential) (b : Int32) :
    Prop where
  supports : o.supports b claim.uri = o'.supports b claim.uri
  answer : Similar (o.answer b (.authenticate claim credentials))
    (o'.answer b (.authenticate claim credentials))

end Oracle

namespace Store

/-! ## Searches -/

/-- Nothing is seen of a difference between backends that are alike and speak alike. -/
theorem seen_scan {o o' : Oracle} {claim : Claim} {credentials : List Credential}
    {l l' : List BackendConfig} (hl : l.map (·.identity) = l'.map (·.identity))
    (h : ∀ b ∈ l, o.AlikeAt o' claim credentials b.id) :
    o.seen (scan claim credentials l) = o'.seen (scan claim credentials l') := by
  induction l generalizing l' with
  | nil =>
    have hnil : l' = [] := List.map_eq_nil_iff.1 hl.symm
    rw [hnil]
    rfl
  | cons b rest ih =>
    rcases List.map_eq_cons_iff.1 hl.symm with ⟨b', rest', rfl, hb, hrest⟩
    rcases List.forall_mem_cons.1 h with ⟨halike, hlater⟩
    have hsearch := ih hrest.symm hlater
    -- only the id and the name of a backend are looked at
    rcases b with ⟨id, name, priority, enabled, properties⟩
    rcases b' with ⟨id', name', priority', enabled', properties'⟩
    injection hb.symm with hid hb
    injection hb with hname _
    subst hid hname
    have hsupports := halike.supports
    have hanswer := halike.answer
    cases hs : o.supports id claim.uri with
    | false =>
      have hs' : o'.supports id claim.uri = false := hsupports.symm.trans hs
      simp only [scan, Oracle.seen, hs, hs', hsearch]
    | true =>
      have hs' : o'.supports id claim.uri = true := hsupports.symm.trans hs
      generalize ha : o.answer id (.authenticate claim credentials) = x at hanswer
      generalize ha' : o'.answer id (.authenticate claim credentials) = y at hanswer
      cases hanswer with
      | accepted localId =>
        simp only [scan, Oracle.seen, hs, hs', ha, ha']
        rfl
      | refused he he' =>
        simp only [scan, Oracle.seen, hs, hs', ha, ha', he, he', if_true, hsearch]
      | failed he =>
        simp only [scan, Oracle.seen, hs, hs', ha, ha', he, Bool.false_eq_true, if_false,
          loginFailure]

/-- A search is refused without a cause. -/
theorem fails_scan (claim : Claim) (credentials : List Credential) (l : List BackendConfig) :
    (scan claim credentials l).Fails fun e =>
      e.kind = .authenticationFailed → e = .authenticationFailed none := by
  induction l with
  | nil => exact Dialogue.fails_fail fun _ => rfl
  | cons b rest ih =>
    rintro (_ | _)
    · exact ih
    · rintro (e | localId)
      · show Dialogue.Fails _ (if e.isAuthentication then _ else _)
        split
        · exact ih
        · exact Dialogue.fails_fail nofun
      · exact Dialogue.fails_done _

end Store

/-! ## Logins -/

/-- A login: the store with its backends in some state, and the arguments. -/
structure Login (ω : Type) where
  store : Store
  net : Network ω
  state : ω
  claim : Claim
  credentials : List Credential
  name : Option String

namespace Login

variable {ω ω' : Type}

/-- The dialogue of a login with the backends. -/
def dialogue (x : Login ω) : Dialogue User :=
  x.store.authenticate x.claim x.credentials x.name

/-- How a login ends. -/
def result (x : Login ω) : Except StoreError User := (x.dialogue.run x.net x.state).result

/-- What is said in a login. -/
def exchanges (x : Login ω) : List Exchange := x.dialogue.exchanges x.net x.state

/-- No backend is named. -/
def Unnamed (x : Login ω) : Prop := Store.given? x.name = none

/-- The one backend that is named was asked and refused the credentials, with the error `e`. -/
structure RefusedBy (x : Login ω) (e : BackendError) : Prop where
  named : ∃ name b log, Store.given? x.name = some name ∧ x.store.registry.byName name = .ok b ∧
    x.exchanges = [.request b.id (.authenticate x.claim x.credentials) (.error e) log]
  refusal : e.isAuthentication = true

/-- A login without a backend name is refused at once, or a search. -/
theorem dialogue_of_unnamed {x : Login ω} (h : x.Unnamed) :
    x.dialogue = if x.claim.isBlank || x.credentials.isEmpty
      then .fail (.authenticationFailed none)
      else Store.scan x.claim x.credentials x.store.registry.ordered := by
  unfold Unnamed at h
  rw [dialogue, Store.authenticate, h]

/-- A login is refused without a cause, unless the backend that is named has refused it. -/
theorem of_refused {x : Login ω} {e : StoreError} (h : x.result = .error e)
    (hkind : e.kind = .authenticationFailed) :
    e = .authenticationFailed none ∨
      ∃ cause, e = .authenticationFailed (some cause) ∧ x.RefusedBy cause := by
  by_cases hblank : (x.claim.isBlank || x.credentials.isEmpty) = true
  · have hdialogue : x.dialogue = .fail (.authenticationFailed none) := by
      rw [dialogue, Store.authenticate, if_pos hblank]
    rw [result, hdialogue] at h
    exact .inl (Except.error.inj h).symm
  · cases hname : Store.given? x.name with
    | none =>
      have hdialogue : x.dialogue = Store.scan x.claim x.credentials x.store.registry.ordered := by
        rw [dialogue_of_unnamed hname, if_neg hblank]
      have hfails := Store.fails_scan x.claim x.credentials x.store.registry.ordered
      rw [result, hdialogue] at h
      exact .inl (Dialogue.Ends.result hfails x.net x.state e h hkind)
    | some n =>
      cases hb : x.store.registry.byName n with
      | error e' =>
        have hdialogue : x.dialogue = .fail e' := by
          rw [dialogue, Store.authenticate, if_neg hblank, hname]
          simp only [hb]
          rfl
        rw [result, hdialogue, Registry.eq_of_byName_error hb] at h
        rw [← Except.error.inj h] at hkind
        contradiction
      | ok b =>
        have hdialogue : x.dialogue = Store.authenticateAt b x.claim x.credentials := by
          rw [dialogue, Store.authenticate, if_neg hblank, hname]
          simp only [hb]
          rfl
        -- the answer of the one backend decides
        rcases ha : x.net.serve b.id (.authenticate x.claim x.credentials) x.state with
          ⟨cause | localId, w', log⟩
        · cases hcause : cause.isAuthentication with
          | true =>
            have hexchanges : x.exchanges =
                [.request b.id (.authenticate x.claim x.credentials) (.error cause) log] := by
              simp only [exchanges, hdialogue, Store.authenticateAt, Dialogue.exchanges, ha,
                hcause, if_true]
            simp only [result, hdialogue, Store.authenticateAt, Dialogue.run, ha, hcause,
              if_true] at h
            refine .inr ⟨cause, (Except.error.inj h).symm, ?_, hcause⟩
            exact ⟨n, b, log, hname, hb, hexchanges⟩
          | false =>
            simp only [result, hdialogue, Store.authenticateAt, Dialogue.run, ha, hcause,
              Bool.false_eq_true, if_false, Store.loginFailure] at h
            rw [← Except.error.inj h] at hkind
            contradiction
        · simp only [result, hdialogue, Store.authenticateAt, Dialogue.run, ha] at h
          contradiction

/-- Without a backend name there is only one way to be refused. -/
theorem eq_of_refused_unnamed {x : Login ω} {e : StoreError} (hx : x.Unnamed)
    (h : x.result = .error e) (hkind : e.kind = .authenticationFailed) :
    e = .authenticationFailed none := by
  rcases of_refused h hkind with hnone | ⟨cause, -, hrefused⟩
  · exact hnone
  · rcases hrefused.named with ⟨name, b, log, hname, -⟩
    rw [hx] at hname
    contradiction

/-- What is said of a refusal does not depend on its cause. -/
theorem said_of_refused {e e' : StoreError} (h : e.kind = .authenticationFailed)
    (h' : e'.kind = .authenticationFailed) : e.message = e'.message ∧ e.text = e'.text := by
  cases e with
  | authenticationFailed cause =>
    cases e' with
    | authenticationFailed cause' => exact ⟨rfl, rfl⟩
    | _ => contradiction
  | _ => contradiction

/-- Two logins that name no backend and differ at most in how backends refuse them. Backends are
alike in the order in which the stores were given them, and what they say is said by two oracles
that differ in nothing but refusals. -/
structure Resembles (x : Login ω) (y : Login ω') : Prop where
  unnamed : x.Unnamed ∧ y.Unnamed
  claim : x.claim = y.claim
  credentials : x.credentials = y.credentials
  backends : ∃ bs bs', Registry.ofList bs = .ok x.store.registry ∧
    Registry.ofList bs' = .ok y.store.registry ∧
    bs.map (·.identity) = bs'.map (·.identity)
  answers : ∃ o o' : Oracle,
    (∀ e ∈ x.exchanges, o.Explains e) ∧ (∀ e ∈ y.exchanges, o'.Explains e) ∧
    ∀ b ∈ x.store.registry.ordered, o.AlikeAt o' x.claim x.credentials b.id

/-- Logins that resemble each other end alike and ask alike. -/
theorem Resembles.alike {x : Login ω} {y : Login ω'} (h : x.Resembles y) :
    x.result = y.result ∧
      x.exchanges.map Exchange.address = y.exchanges.map Exchange.address := by
  rcases h.backends with ⟨bs, bs', hbs, hbs', hsame⟩
  rcases h.answers with ⟨o, o', ho, ho', halike⟩
  have hordered := Registry.identities_ordered hbs hbs' hsame
  have hdialogue := dialogue_of_unnamed h.unnamed.1
  have hdialogue' := dialogue_of_unnamed h.unnamed.2
  rw [← h.claim, ← h.credentials] at hdialogue'
  have hseen : o.seen x.dialogue = o'.seen y.dialogue := by
    rw [hdialogue, hdialogue']
    by_cases hblank : (x.claim.isBlank || x.credentials.isEmpty) = true
    · rw [if_pos hblank, if_pos hblank]
      rfl
    · rw [if_neg hblank, if_neg hblank]
      exact Store.seen_scan hordered halike
  have hboth := (Oracle.seen_of_explains ho).trans (hseen.trans (Oracle.seen_of_explains ho').symm)
  exact ⟨congrArg (·.1) hboth, congrArg (·.2) hboth⟩

/-- Logins are discreet. Two that are refused say the same, whoever refused them and why; without
a backend name they are the same error, and no cause is left but the refusal of a backend that was
named. Two logins without a backend name that differ only in how backends refuse them cannot be
told apart, neither by their answer nor by the backends that are asked. -/
theorem refusals_discreet (x : Login ω) (y : Login ω') :
    (∀ e e', x.result = .error e → e.kind = .authenticationFailed →
      y.result = .error e' → e'.kind = .authenticationFailed →
        (e.message = e'.message ∧ e.text = e'.text) ∧
        (x.Unnamed → y.Unnamed → e = e' ∧ e.cause? = none) ∧
        ∀ c, e.cause? = some c → ∃ cause, c = .backend cause ∧ x.RefusedBy cause) ∧
    (x.Resembles y → x.result = y.result ∧
      x.exchanges.map Exchange.address = y.exchanges.map Exchange.address) := by
  constructor
  · intro e e' he hkind he' hkind'
    refine ⟨said_of_refused hkind hkind', ?_, ?_⟩
    · intro hx hy
      rw [eq_of_refused_unnamed hx he hkind, eq_of_refused_unnamed hy he' hkind']
      exact ⟨rfl, rfl⟩
    · intro c hc
      rcases of_refused he hkind with rfl | ⟨cause, rfl, hrefused⟩
      · contradiction
      · exact ⟨cause, (Option.some.inj hc).symm, hrefused⟩
  · exact Resembles.alike

/-- Backends that refuse all logins, each in words of its own. -/
def closed (words : Int32 → BackendError) : Network Unit where
  serve b r _ :=
    match r with
    | .authenticate .. => ⟨.error (words b), (), []⟩
    | r => ⟨.error (.notSupported r.title), (), []⟩
  supports _ _ _ := true

/-- A login that both backends refuse looks the same in whatever words they do so, and says the
same as one that the named backend refuses. -/
theorem refusals_discreet_poles :
    let s : Store := ⟨.standard, .poles⟩
    let login (words : Int32 → BackendError) (name : Option String) : Login Unit :=
      ⟨s, closed words, (), ⟨"name", "eve"⟩, [.password "?"], name⟩
    let unknown := login (fun _ => .authenticationFailed "unknown user") none
    let wrong := login (fun b => if b = 2147483647 then .invalidCredentials "wrong password"
      else .authenticationFailed "locked") (some "")
    let named := login (fun _ => .invalidCredentials "wrong password") (some "South")
    (unknown.result = wrong.result ∧
        unknown.exchanges.map Exchange.address = wrong.exchanges.map Exchange.address) ∧
      ∃ e e', named.result = .error e ∧ unknown.result = .error e' ∧ e.text = e'.text ∧
        ∀ c, e.cause? = some c → ∃ cause, c = .backend cause ∧ named.RefusedBy cause := by
  intro s login unknown wrong named
  have hexplains : ∀ words name, ∀ x ∈ (login words name).exchanges,
      (Oracle.ofState (closed words) ()).Explains x :=
    fun words name => Oracle.explains_ofState (closed words) _
  have hresembles : unknown.Resembles wrong := by
    refine ⟨⟨rfl, rfl⟩, rfl, rfl, ?_, ?_⟩
    · exact ⟨_, _, Registry.ofList_poles, Registry.ofList_poles, rfl⟩
    · refine ⟨_, _, hexplains _ _, hexplains _ _, ?_⟩
      intro b _
      refine ⟨rfl, .refused rfl ?_⟩
      show BackendError.isAuthentication (if b.id = 2147483647 then _ else _) = true
      split
      · rfl
      · rfl
  have hnamed : named.result =
      .error (.authenticationFailed (some (.invalidCredentials "wrong password"))) := rfl
  have hunknown : unknown.result = .error (.authenticationFailed none) := rfl
  obtain ⟨⟨-, htext⟩, -, hcause⟩ := (named.refusals_discreet unknown).1 _ _ hnamed rfl hunknown rfl
  exact ⟨(unknown.refusals_discreet wrong).2 hresembles, _, _, hnamed, hunknown, htext, hcause⟩

end Login

end Federation
