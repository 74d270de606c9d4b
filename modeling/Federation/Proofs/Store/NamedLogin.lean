import Federation.Proofs.Directory.Network
import Federation.Proofs.Store.Discretion

/-!
# Federation.Proofs.Store.NamedLogin — logins with and without a backend name

A login without a backend name is a search through the backends; a login that names one is an
attempt there alone. Made from the same state, the two agree: the backend that decides the search
says the same if it is named, and the candidates before it, all of them if none decides, refuse
the login if they are named. What makes this true is that backends keep to themselves, so that a
backend says at its turn in a search what it would have said at the start.
-/

namespace Federation

/-! ## What a named backend answers -/

namespace Oracle

variable {o : Oracle} {claim : Claim} {credentials : List Credential} {b : BackendConfig}
  {l : List BackendConfig}

/-- The answer to a login at one backend: what the backend says, where a refusal of the
credentials is left as the cause. -/
def answerAt (o : Oracle) (claim : Claim) (credentials : List Credential) (b : BackendConfig) :
    Except StoreError User :=
  match o.answer b.id (.authenticate claim credentials) with
  | .ok localId => .ok (.of b localId)
  | .error e =>
    if e.isAuthentication then .error (.authenticationFailed (some e))
    else .error (.backendFailure (.authenticate b.name) e)

/-- What a backend can answer if it is named: it accepts the login or fails, and then it decides a
search too, or it refuses the credentials. -/
inductive Reaction (o : Oracle) (claim : Claim) (credentials : List Credential)
    (b : BackendConfig) : Prop
  | accepted (localId : String)
      (hsaid : o.answer b.id (.authenticate claim credentials) = .ok localId)
      (hd : o.decides claim credentials b = true)
      (h : o.answerAt claim credentials b = .ok (.of b localId))
  | refused (e : BackendError) (hd : o.decides claim credentials b = false)
      (h : o.answerAt claim credentials b = .error (.authenticationFailed (some e)))
  | failed (e : BackendError)
      (hsaid : o.answer b.id (.authenticate claim credentials) = .error e)
      (hd : o.decides claim credentials b = true)
      (h : o.answerAt claim credentials b = .error (.backendFailure (.authenticate b.name) e))

/-- A backend answers in one of these ways. -/
theorem reaction (o : Oracle) (claim : Claim) (credentials : List Credential)
    (b : BackendConfig) : Reaction o claim credentials b := by
  cases hsaid : o.answer b.id (.authenticate claim credentials) with
  | ok localId =>
    refine .accepted localId hsaid ?_ ?_
    · simp only [decides, hsaid]
    · simp only [answerAt, hsaid]
  | error e =>
    cases he : e.isAuthentication with
    | true =>
      refine .refused e ?_ ?_
      · simp only [decides, hsaid, he, Bool.not_true]
      · simp only [answerAt, hsaid, he, if_true]
    | false =>
      refine .failed e hsaid ?_ ?_
      · simp only [decides, hsaid, he, Bool.not_false]
      · simp only [answerAt, hsaid, he, Bool.false_eq_true, if_false]

/-- A backend that does not decide a login refuses it. -/
theorem answerAt_of_refuses (hd : o.decides claim credentials b = false) :
    ∃ e, o.answerAt claim credentials b = .error e ∧ e.kind = .authenticationFailed := by
  cases o.reaction claim credentials b with
  | refused e _ h => exact ⟨_, h, rfl⟩
  | accepted _ _ hdecides _ | failed _ _ hdecides _ =>
    rw [hd] at hdecides
    contradiction

/-- A backend that decides a login and does not let a user in fails. -/
theorem kind_of_decides (hd : o.decides claim credentials b = true) {e : StoreError}
    (he : o.answerAt claim credentials b = .error e) : e.kind = .backendFailure := by
  cases o.reaction claim credentials b with
  | accepted _ _ _ h =>
    rw [h] at he
    contradiction
  | refused _ hrefuses _ =>
    rw [hd] at hrefuses
    contradiction
  | failed cause _ _ h =>
    rw [h] at he
    rw [← Except.error.inj he]
    rfl

/-- Who is let in is a user of the backend. -/
theorem of_answerAt {user : User} (h : o.answerAt claim credentials b = .ok user) :
    ∃ localId, user = .of b localId := by
  cases o.reaction claim credentials b with
  | accepted localId _ _ haccepted => exact ⟨localId, Except.ok.inj (h.symm.trans haccepted)⟩
  | refused _ _ herror | failed _ _ _ herror =>
    rw [h] at herror
    contradiction

/-! ## The backend that decides -/

/-- The deciding backend is the first of all that supports the claim and decides. -/
theorem decider?_eq_find? : o.decider? claim credentials l =
    l.find? fun b => o.supports b.id claim.uri && o.decides claim credentials b := by
  rw [decider?, candidates, List.find?_filter]
  simp only [Bool.decide_and, Bool.decide_eq_true]

/-- What the verdict on a login rests on: all candidates refuse it, or one decides it and those
before it refuse it. -/
inductive Deciding (o : Oracle) (claim : Claim) (credentials : List Credential)
    (l : List BackendConfig) : Prop
  | nobody (h : ∀ b ∈ l, o.supports b.id claim.uri = true → o.decides claim credentials b = false)
      (hverdict : o.verdict claim credentials l = .error (.authenticationFailed none))
  | one (front : List BackendConfig) (b : BackendConfig) (back : List BackendConfig)
      (hl : l = front ++ b :: back) (hs : o.supports b.id claim.uri = true)
      (hd : o.decides claim credentials b = true)
      (hfront : ∀ a ∈ front, o.supports a.id claim.uri = true →
        o.decides claim credentials a = false)
      (hverdict : o.verdict claim credentials l = o.answerAt claim credentials b)

/-- The verdict is what the deciding backend answers if it is named. -/
theorem verdict_of_decider? (h : o.decider? claim credentials l = some b)
    (hd : o.decides claim credentials b = true) :
    o.verdict claim credentials l = o.answerAt claim credentials b := by
  unfold verdict
  rw [h]
  cases o.reaction claim credentials b with
  | accepted localId hsaid _ hanswer =>
    rw [hanswer]
    simp only [hsaid]
    rfl
  | failed e hsaid _ hanswer =>
    rw [hanswer]
    simp only [hsaid]
  | refused _ hrefuses _ =>
    rw [hd] at hrefuses
    contradiction

/-- Every verdict rests on one of these. -/
theorem deciding (o : Oracle) (claim : Claim) (credentials : List Credential)
    (l : List BackendConfig) : Deciding o claim credentials l := by
  cases hdecider : o.decider? claim credentials l with
  | none =>
    have hnone := hdecider
    rw [decider?_eq_find?, List.find?_eq_none] at hnone
    refine .nobody ?_ ?_
    · intro b hb hs
      simpa [hs] using hnone b hb
    · simp only [verdict, hdecider]
  | some b =>
    have hfirst := hdecider
    rw [decider?_eq_find?, List.find?_eq_some_iff_append] at hfirst
    obtain ⟨hb, front, back, hl, hfront⟩ := hfirst
    obtain ⟨hs, hd⟩ := Bool.and_eq_true_iff.1 hb
    refine .one front b back hl hs hd ?_ (verdict_of_decider? hdecider hd)
    intro a ha hsa
    simpa [hsa] using hfront a ha

end Oracle

namespace Store

/-! ## From the same state -/

section SameState

variable {ω π : Type} {net : Network ω} {part : Int32 → ω → π} {claim : Claim}
  {credentials : List Credential}

/-- A backend says at its turn in a search what it would have said in the state `w₀`, if its own
part of the state is still the same: those that are asked before it change their own parts only. -/
theorem explains_scan (hnet : net.Separated part) {l : List BackendConfig}
    (hl : l.Pairwise fun a b => a.id ≠ b.id) {w₀ w : ω}
    (hparts : ∀ b ∈ l, part b.id w = part b.id w₀) :
    ∀ x ∈ (scan claim credentials l).exchanges net w, (Oracle.ofState net w₀).Explains x := by
  induction l generalizing w with
  | nil => exact fun _ hx => absurd hx List.not_mem_nil
  | cons b rest ih =>
    obtain ⟨hb, hrest⟩ := List.pairwise_cons.1 hl
    obtain ⟨hpart, hlater⟩ := List.forall_mem_cons.1 hparts
    have hsupport : ∀ {said}, net.supports b.id claim.uri w = said →
        (Oracle.ofState net w₀).Explains (.support b.id claim.uri said) := by
      intro said hsaid
      exact (hnet.supports_congr hpart.symm).trans hsaid
    have hrequest : ∀ {outcome w' log},
        net.serve b.id (.authenticate claim credentials) w = ⟨outcome, w', log⟩ →
        (Oracle.ofState net w₀).Explains
          (.request b.id (.authenticate claim credentials) outcome log) := by
      intro outcome w' log hserve
      have hsame := (hnet.serve_congr (r := .authenticate claim credentials) hpart.symm).1
      rw [hserve] at hsame
      exact hsame
    cases attempt net claim credentials b rest w with
    | skipped hs hscan _ =>
      rw [hscan]
      exact List.forall_mem_cons.2 ⟨hsupport hs, ih hrest hlater⟩
    | accepted localId w' log hs ha hscan _ =>
      rw [hscan]
      exact List.forall_mem_cons.2 ⟨hsupport hs, List.forall_mem_singleton.2 (hrequest ha)⟩
    | refused e w' log hs ha _ hscan _ =>
      -- the search goes on from another state, which differs in the part of this backend only
      have hmoved : ∀ c ∈ rest, part c.id w' = part c.id w₀ := by
        intro c hc
        have hframe := hnet.serve_frame (r := .authenticate claim credentials) (w := w)
          (hb c hc).symm
        rw [ha] at hframe
        exact hframe.trans (hlater c hc)
      rw [hscan]
      exact List.forall_mem_cons.2
        ⟨hsupport hs, List.forall_mem_cons.2 ⟨hrequest ha, ih hrest hmoved⟩⟩
    | broken e w' log hs ha _ hscan _ =>
      rw [hscan]
      exact List.forall_mem_cons.2 ⟨hsupport hs, List.forall_mem_singleton.2 (hrequest ha)⟩

/-- So a search is answered by the verdict on what backends say at its start. -/
theorem result_scan (hnet : net.Separated part) {l : List BackendConfig}
    (hl : l.Pairwise fun a b => a.id ≠ b.id) (w : ω) :
    ((scan claim credentials l).run net w).result =
      (Oracle.ofState net w).verdict claim credentials l := by
  have hparts : ∀ b ∈ l, part b.id w = part b.id w := fun _ _ => rfl
  have hexplains : ∀ x ∈ (scan claim credentials l).exchanges net w,
      (Oracle.ofState net w).Explains x := explains_scan hnet hl hparts
  exact (scan_eq_reference net claim credentials hexplains).2

/-- A login at one backend is answered by what the backend says. -/
theorem result_authenticateAt (net : Network ω) (b : BackendConfig) (w : ω) :
    ((authenticateAt b claim credentials).run net w).result =
      (Oracle.ofState net w).answerAt claim credentials b := by
  have hanswer : (Oracle.ofState net w).answer b.id (.authenticate claim credentials) =
      (net.serve b.id (.authenticate claim credentials) w).outcome := rfl
  rw [Oracle.answerAt, hanswer]
  rcases ha : net.serve b.id (.authenticate claim credentials) w with ⟨e | localId, w', log⟩
  · cases he : e.isAuthentication with
    | true => simp only [authenticateAt, Dialogue.run, ha, he, if_true]
    | false =>
      simp only [authenticateAt, Dialogue.run, ha, he, Bool.false_eq_true, if_false, loginFailure]
  · simp only [authenticateAt, Dialogue.run, ha]

end SameState

/-! ## Names -/

/-- The name is one by which a login can name the backend: it is not empty, and leads there. -/
structure Names (s : Store) (name : String) (b : BackendConfig) : Prop where
  given : name ≠ ""
  leads : s.registry.byName name = .ok b

/-- A backend of the store can be named by its declared name, unless that is empty. -/
theorem names_declared {s : Store} {b : BackendConfig} (hb : b ∈ s.registry.ordered)
    (hname : b.name ≠ "") : s.Names b.name b :=
  ⟨hname, Registry.byName_eq_ok_iff.2 ⟨hb, rfl⟩⟩

end Store

namespace Login

variable {ω : Type}

/-! ## Agreement -/

/-- The same login with a backend name. -/
def naming (x : Login ω) (name : String) : Login ω := { x with name := some name }

/-- The backend supports the claim of the login. -/
def Supports (x : Login ω) (b : BackendConfig) : Prop :=
  x.net.supports b.id x.claim.uri x.state = true

/-- The login is refused. -/
def Refused (x : Login ω) : Prop :=
  ∃ e, x.result = .error e ∧ e.kind = .authenticationFailed

/-- What a login without a backend name says of the logins from the same state that name one. -/
structure Agrees (x : Login ω) : Prop where
  /-- Who is let in is the user of a backend that, if it is named, lets the same user in. -/
  accepted : ∀ user, x.result = .ok user →
    ∃ b ∈ x.store.registry.ordered, x.Supports b ∧ (∃ localId, user = .of b localId) ∧
      ∀ name, x.store.Names name b → (x.naming name).result = .ok user
  /-- Who is refused is refused by every supporting backend that is named. -/
  refused : x.Refused → ∀ b ∈ x.store.registry.ordered, x.Supports b →
    ∀ name, x.store.Names name b → (x.naming name).Refused
  /-- A failure is that of a supporting backend, with the same error if that backend is named,
  and supporting backends before it in the order refuse the login if they are named. -/
  failed : ∀ e, x.result = .error e → e.kind = .backendFailure →
    ∃ front b back, x.store.registry.ordered = front ++ b :: back ∧ x.Supports b ∧
      (∀ name, x.store.Names name b → (x.naming name).result = .error e) ∧
      ∀ a ∈ front, x.Supports a → ∀ name, x.store.Names name a → (x.naming name).Refused
  /-- There are no errors of another kind. -/
  kinds : ∀ e, x.result = .error e →
    e.kind = .authenticationFailed ∨ e.kind = .backendFailure

/-- A login that is refused agrees with others if all candidates refuse it. -/
theorem agrees_of_refused {x : Login ω} (hx : x.result = .error (.authenticationFailed none))
    (h : ∀ b ∈ x.store.registry.ordered, x.Supports b → ∀ name, x.store.Names name b →
      (x.naming name).Refused) : x.Agrees := by
  constructor
  · intro user huser
    rw [hx] at huser
    contradiction
  · intro _
    exact h
  · intro e he hkind
    rw [hx] at he
    rw [← Except.error.inj he] at hkind
    contradiction
  · intro e he
    rw [hx] at he
    left
    rw [← Except.error.inj he]
    rfl

/-- A login for nobody, or without credentials, is refused, whether it names a backend or not. -/
theorem result_of_blank {x : Login ω}
    (hblank : (x.claim.isBlank || x.credentials.isEmpty) = true) :
    x.result = .error (.authenticationFailed none) := by
  rw [result, dialogue, Store.authenticate, if_pos hblank]
  rfl

/-- A login that names a backend is answered by what that backend says. -/
theorem result_naming {x : Login ω} (hbusy : ¬(x.claim.isBlank || x.credentials.isEmpty) = true)
    {name : String} {b : BackendConfig} (hname : x.store.Names name b) :
    (x.naming name).result = (Oracle.ofState x.net x.state).answerAt x.claim x.credentials b := by
  have hgiven : Store.given? (some name) = some name := by simp [Store.given?, hname.given]
  have hdialogue : (x.naming name).dialogue = Store.authenticateAt b x.claim x.credentials := by
    show x.store.authenticate x.claim x.credentials (some name) = _
    rw [Store.authenticate, if_neg hbusy, hgiven]
    simp only [hname.leads]
    rfl
  rw [result, hdialogue]
  exact Store.result_authenticateAt x.net b x.state

/-- Where backends keep to themselves, a login without a backend name agrees with those that name
one. -/
theorem agrees_of_unnamed {π : Type} {part : Int32 → ω → π} {x : Login ω}
    (hnet : x.net.Separated part) (hx : x.Unnamed) : x.Agrees := by
  by_cases hblank : (x.claim.isBlank || x.credentials.isEmpty) = true
  · refine agrees_of_refused (result_of_blank hblank) ?_
    intro b _ _ name _
    exact ⟨_, result_of_blank (x := x.naming name) hblank, rfl⟩
  have hrefused : ∀ {name b}, x.store.Names name b →
      (Oracle.ofState x.net x.state).decides x.claim x.credentials b = false →
      (x.naming name).Refused := by
    intro name b hname hd
    obtain ⟨e, he, hkind⟩ := Oracle.answerAt_of_refuses hd
    exact ⟨e, (result_naming hblank hname).trans he, hkind⟩
  have hresult : x.result = (Oracle.ofState x.net x.state).verdict x.claim x.credentials
      x.store.registry.ordered := by
    rw [result, dialogue_of_unnamed hx, if_neg hblank]
    exact Store.result_scan hnet x.store.registry.distinctIds x.state
  cases (Oracle.ofState x.net x.state).deciding x.claim x.credentials x.store.registry.ordered with
  | nobody hall hverdict =>
    refine agrees_of_refused (hresult.trans hverdict) ?_
    intro b hb hs name hname
    exact hrefused hname (hall b hb hs)
  | one front b back hl hs hd hfront hverdict =>
    have hanswer := hresult.trans hverdict
    have hb : b ∈ x.store.registry.ordered := by
      rw [hl]
      exact List.mem_append_right front List.mem_cons_self
    -- the deciding backend answers the search as it answers if it is named
    have hsame : ∀ name, x.store.Names name b → (x.naming name).result = x.result :=
      fun name hname => (result_naming hblank hname).trans hanswer.symm
    have hkind : ∀ e, x.result = .error e → e.kind = .backendFailure :=
      fun e he => Oracle.kind_of_decides hd (hanswer.symm.trans he)
    constructor
    · intro user huser
      refine ⟨b, hb, hs, Oracle.of_answerAt (hanswer.symm.trans huser), ?_⟩
      intro name hname
      exact (hsame name hname).trans huser
    · rintro ⟨e, he, hauthentication⟩
      rw [hkind e he] at hauthentication
      contradiction
    · intro e he _
      refine ⟨front, b, back, hl, hs, ?_, ?_⟩
      · intro name hname
        exact (hsame name hname).trans he
      · intro a ha hsa name hname
        exact hrefused hname (hfront a ha hsa)
    · intro e he
      exact .inr (hkind e he)

/-- Searching and naming agree. For every state of the directories, whatever faults they have, a
login without a backend name and the logins from the same state that name a backend, by its
declared name or in another letter case, say the same: who is let in is let in by the backend that
holds the user; who is refused is refused everywhere; and a failure comes from a backend that
fails with the same error if it is named, while all candidates before it refuse. -/
theorem unnamed_agrees (s : Store) (ds : List Directory) (claim : Claim)
    (credentials : List Credential) {name : Option String}
    (hname : name = none ∨ name = some "") :
    (∀ b ∈ s.registry.ordered, b.name ≠ "" → s.Names b.name b) ∧
      (⟨s, Directory.network, ds, claim, credentials, name⟩ : Login (List Directory)).Agrees := by
  constructor
  · intro b hb hdeclared
    exact Store.names_declared hb hdeclared
  · have hunnamed : Store.given? name = none := by
      rcases hname with rfl | rfl
      · rfl
      · rfl
    exact agrees_of_unnamed Directory.network_separated hunnamed

/-- The preferred backend does not know a user, and the other one times out: whoever failed does so
with the same error under its declared name, and who stands before it refuses under that name. -/
theorem unnamed_agrees_poles :
    let s : Store := ⟨.standard, .poles⟩
    let outage : FaultPlan := [(.authenticate, ⟨0, .timeout "bind"⟩)]
    let ds := Registry.poles.ordered.map fun b =>
      { Directory.new b with faults := if b.name = "south" then outage else [] }
    let x : Login (List Directory) :=
      ⟨s, Directory.network, ds, ⟨Claim.usernameUri, "eve"⟩, [.password "?"], some ""⟩
    let e := StoreError.backendFailure (.authenticate "south") (.timeout "bind")
    x.result = .error e ∧ ∃ front b back, s.registry.ordered = front ++ b :: back ∧
      (x.naming b.name).result = .error e ∧
      ∀ a ∈ front, x.Supports a → (x.naming a.name).Refused := by
  intro s outage ds x e
  have hresult : x.result = .error e := rfl
  obtain ⟨hdeclared, hagrees⟩ := unnamed_agrees s ds ⟨Claim.usernameUri, "eve"⟩ [.password "?"]
    (.inr rfl)
  have hnames : ∀ b ∈ s.registry.ordered, s.Names b.name b := by
    have hnonempty : ∀ b ∈ s.registry.ordered, b.name ≠ "" := by decide
    intro b hb
    exact hdeclared b hb (hnonempty b hb)
  obtain ⟨front, b, back, hl, -, hsame, hfront⟩ := hagrees.failed e hresult rfl
  have hmem : ∀ a ∈ front ++ [b], a ∈ s.registry.ordered := by
    intro a ha
    rw [hl, List.append_cons]
    exact List.mem_append_left back ha
  refine ⟨hresult, front, b, back, hl, ?_, ?_⟩
  · exact hsame b.name (hnames b (hmem b (List.mem_append_right front (List.mem_singleton_self b))))
  · intro a ha hsupports
    exact hfront a ha hsupports a.name (hnames a (hmem a (List.mem_append_left [b] ha)))

end Login

end Federation
