import Federation.Proofs.Directory.Effects
import Federation.Proofs.Store.Requests
import Federation.Proofs.Store.Transcript

/-!
# Federation.Proofs.Store.Routing — every request goes where it is addressed to

An operation is addressed by a unique id, by the unique ids of two ends of a membership, or by the
name of a backend. Such an address stands for one backend. All requests of the operation go there,
with the local ids that are written in the unique ids; no other backend is asked or changed, and a
request for a change is the last one.
-/

namespace Federation

/-! ## Addresses -/

/-- What an operation is addressed by. -/
inductive Address where
  /-- The unique id of an entity. -/
  | entity (uniqueId : String)
  /-- The unique ids of the ends of a membership. -/
  | membership (user group : String)
  /-- The name of a backend, or none. -/
  | backend (name : Option String)

namespace Operation

/-- The address of an operation. A change of memberships goes by its owner. -/
def address : Operation → Address
  | authenticate _ _ backend | getByClaim _ _ backend | list _ _ _ _ backend | add _ _ backend
  | addAll _ _ backend => .backend backend
  | isMember user group => .membership user group
  | get _ uniqueId | memberships _ uniqueId | claims _ uniqueId | claimsFor _ uniqueId _
  | replaceClaims _ uniqueId _ | changeClaims _ uniqueId _ _ | replaceCredentials uniqueId _
  | changeCredentials uniqueId _ _ | delete _ uniqueId | replaceMemberships _ uniqueId _
  | changeMemberships _ uniqueId _ _ => .entity uniqueId

/-- The operation reads, or logs a user in. -/
def isReading : Operation → Bool
  | authenticate .. | get .. | getByClaim .. | list .. | memberships .. | isMember .. | claims ..
  | claimsFor .. => true
  | _ => false

end Operation

namespace Store

variable {s : Store} {b : BackendConfig} {r : Request}

/-- The request to the backend `b` is one that the address stands for. -/
inductive Routes (s : Store) : Address → BackendConfig → Request → Prop
  /-- It is about the entity with the local id that the unique id is read as. -/
  | entity {uniqueId localId : String} {b : BackendConfig} {r : Request}
      (hread : s.registry.decode uniqueId = .ok ⟨b.id, localId⟩)
      (hr : r.ids.head? = some localId) : Routes s (.entity uniqueId) b r
  /-- It asks for one of the ends, or for the membership. -/
  | membership {user group : String} {b : BackendConfig} {u g : String} {r : Request}
      (hu : s.registry.decode user = .ok ⟨b.id, u⟩) (hg : s.registry.decode group = .ok ⟨b.id, g⟩)
      (hr : r ∈ [.isPresent .user u, .isPresent .group g, .isMember u g]) :
      Routes s (.membership user group) b r
  /-- The backend has the name, in whatever letter case. -/
  | named {name : String} {b : BackendConfig} {r : Request} (hname : name ≠ "")
      (hb : b.folded = Text.lowercase name) : Routes s (.backend (some name)) b r
  /-- Without a name it is the primary one. -/
  | primary {name : Option String} {r : Request} (hname : name = none ∨ name = some "") :
      Routes s (.backend name) s.registry.primary r

/-! ## Operations keep to their address -/

/-- A backend name that leads to a backend stands for it. -/
theorem routes_of_resolve {name : Option String} (h : s.resolve name = .ok b) (r : Request) :
    s.Routes (.backend name) b r := by
  cases name with
  | none =>
    have hb : s.registry.primary = b := Except.ok.inj h
    rw [← hb]
    exact .primary (.inl rfl)
  | some n =>
    by_cases hn : n = ""
    · subst hn
      have hb : s.registry.primary = b := Except.ok.inj h
      rw [← hb]
      exact .primary (.inr rfl)
    · rw [resolve_of_ne_empty hn] at h
      exact .named hn (Registry.byName_eq_ok_iff.1 h).2

/-- A unique id that is read stands for a backend of the registry. -/
theorem registered_of_decode {uniqueId localId : String} {a : Int32}
    (h : s.registry.decode uniqueId = .ok ⟨a, localId⟩) :
    ∃ b ∈ s.registry.ordered, b.id = a :=
  (Registry.decode_eq_ok_iff.1 h).1

/-- The requests of an operation are those that its address stands for. -/
theorem routes_of_asks {op : Operation} {a : Int32} (hop : op.isLogin = false)
    (h : s.Asks op a r) : ∃ b ∈ s.registry.ordered, b.id = a ∧ s.Routes op.address b r := by
  cases h with
  | authenticate => contradiction
  | find hb | list _ hb | add hb | addAll hb =>
    exact ⟨_, mem_of_resolve hb, rfl, routes_of_resolve hb _⟩
  | get h | ownerPresent h | memberships h | claims h | claimsFor h | replaceClaims h
  | changeClaims h | replaceCredentials h | changeCredentials h | delete h
  | replaceMemberships h _ | changeMemberships h _ _ =>
    rcases registered_of_decode h with ⟨b, hb, rfl⟩
    exact ⟨b, hb, rfl, .entity h rfl⟩
  | userPresent hu hg =>
    rcases registered_of_decode hu with ⟨b, hb, rfl⟩
    exact ⟨b, hb, rfl, .membership hu hg (by simp)⟩
  | groupPresent hu hg =>
    rcases registered_of_decode hu with ⟨b, hb, rfl⟩
    exact ⟨b, hb, rfl, .membership hu hg (by simp)⟩
  | isMember hu hg =>
    rcases registered_of_decode hu with ⟨b, hb, rfl⟩
    exact ⟨b, hb, rfl, .membership hu hg (by simp)⟩

/-- A search for a backend that accepts a login speaks to the backends that it goes through. -/
theorem speaksWithin_scan {P : Int32 → Prop} {claim : Claim} {credentials : List Credential}
    {l : List BackendConfig} (h : ∀ b ∈ l, P b.id) :
    (scan claim credentials l).SpeaksWithin P := by
  induction l with
  | nil => trivial
  | cons b rest ih =>
    rcases List.forall_mem_cons.1 h with ⟨hb, hrest⟩
    refine ⟨hb, ?_⟩
    rintro (_ | _)
    · exact ih hrest
    · refine ⟨hb, ?_⟩
      rintro (e | localId)
      · show Dialogue.SpeaksWithin P (if e.isAuthentication then _ else _)
        split
        · exact ih hrest
        · trivial
      · trivial

/-- A login speaks to backends of the registry. -/
theorem speaksWithin_authenticate (s : Store) (claim : Claim) (credentials : List Credential)
    (name : Option String) :
    (s.authenticate claim credentials name).SpeaksWithin s.registry.Registered := by
  unfold authenticate
  split
  · trivial
  · split
    · rename_i n _
      cases hb : s.registry.byName n with
      | error e => trivial
      | ok b =>
        have hone := speaksTo_authenticateAt b claim credentials
        apply (Dialogue.speaksTo_iff_within.1 hone).mono
        rintro a rfl
        exact ⟨b, (Registry.byName_eq_ok_iff.1 hb).1, rfl⟩
    · exact speaksWithin_scan fun b hb => ⟨b, hb, rfl⟩

/-- No operation speaks to a backend that is not registered. -/
theorem speaksWithin_perform (s : Store) (op : Operation) :
    (s.perform op).SpeaksWithin s.registry.Registered := by
  cases hlogin : op.isLogin with
  | false =>
    rcases s.refused_or_orderly hlogin with ⟨reason, hrefused⟩ | ⟨b, horderly⟩
    · rw [hrefused]
      trivial
    · apply horderly.speaksWithin
      refine (s.asks_perform op).mono fun a r hasks => ?_
      rcases routes_of_asks hlogin hasks with ⟨b', hb', hid, -⟩
      exact ⟨b', hb', hid⟩
  | true =>
    cases op with
    | authenticate claim credentials name =>
      exact (s.speaksWithin_authenticate claim credentials name).map _
    | _ => contradiction

/-- A reading operation asks for no change. -/
theorem isWrite_of_asks {op : Operation} {a : Int32} (hop : op.isReading = true)
    (h : s.Asks op a r) : r.isWrite = false := by
  cases h with
  | add | addAll | replaceClaims | changeClaims | replaceCredentials | changeCredentials | delete
  | replaceMemberships | changeMemberships => contradiction
  | _ => rfl

/-- A reading operation puts no request for a change. -/
theorem puts_of_isReading {op : Operation} (hop : op.isReading = true) :
    (s.perform op).Puts fun _ r => r.isWrite = false :=
  (s.asks_perform op).mono fun _ _ => isWrite_of_asks hop

/-! ## Runs -/

/-- An operation that deals with the backend `b` and nobody else. -/
structure Routed {ω : Type} (net : Network ω) (s : Store) (op : Operation) (w : ω)
    (b : BackendConfig) : Prop where
  registered : b ∈ s.registry.ordered
  /-- All requests are those that the address stands for, and go to its backend. -/
  requests : ∀ x ∈ (s.perform op).exchanges net w,
    ∃ r outcome log, x = .request b.id r outcome log ∧ s.Routes op.address b r
  /-- Nobody else is asked anything. -/
  asked : ∀ q ∈ ((s.perform op).run net w).asked, q.1 = b.id
  /-- After a request for a change there is no other. -/
  lastWrite : ∀ before x after, (s.perform op).exchanges net w = before ++ x :: after →
    x.isWrite = true → after = []
  /-- Nobody else is changed, if backends have parts of the state of their own. -/
  frame : ∀ (π : Type) (part : Int32 → ω → π), net.Separated part → ∀ a, a ≠ b.id →
    part a ((s.perform op).run net w).state = part a w

/-- Every operation but a login is routed, unless nobody is asked. -/
theorem untouched_or_routed {ω : Type} (s : Store) {op : Operation} (hop : op.isLogin = false)
    (net : Network ω) (w : ω) :
    ((s.perform op).exchanges net w = [] ∧ ((s.perform op).run net w).asked = [] ∧
        ((s.perform op).run net w).state = w) ∨
      ∃ b, Routed net s op w b := by
  rcases s.refused_or_orderly hop with ⟨reason, hrefused⟩ | ⟨a, horderly⟩
  · left
    rw [hrefused]
    exact ⟨rfl, rfl, rfl⟩
  have htranscript := horderly.transcribed net w
  have hasked := (s.perform op).asked_run net w
  have hrequest : ∀ x ∈ (s.perform op).exchanges net w, ∃ r outcome log,
      x = .request a r outcome log ∧ ∃ b ∈ s.registry.ordered, b.id = a ∧
        s.Routes op.address b r := by
    intro x hx
    rcases htranscript.request x hx with ⟨r, outcome, log, rfl⟩
    have hasks := (s.asks_perform op).request net w _ hx a r rfl
    exact ⟨r, outcome, log, rfl, routes_of_asks hop hasks⟩
  cases hexchanges : (s.perform op).exchanges net w with
  | nil =>
    left
    refine ⟨rfl, ?_, htranscript.state_of_silent hexchanges⟩
    rw [hasked, hexchanges]
    rfl
  | cons x rest =>
    -- the first request names the backend, and the others go to the same one
    have hx : x ∈ (s.perform op).exchanges net w := hexchanges ▸ List.mem_cons_self
    rcases hrequest x hx with ⟨_, _, _, -, b, hb, rfl, -⟩
    right
    refine ⟨b, hb, ?_, ?_, ?_, ?_⟩
    · intro y hy
      rcases hrequest y hy with ⟨r, outcome, log, rfl, b', hb', hid, hroutes⟩
      rw [Registry.eq_of_id_eq hb' hb hid] at hroutes
      exact ⟨r, outcome, log, rfl, hroutes⟩
    · intro q hq
      rw [hasked] at hq
      rcases List.mem_flatMap.1 hq with ⟨y, hy, hqy⟩
      rcases hrequest y hy with ⟨r, outcome, log, rfl, -⟩
      rcases List.mem_map.1 hqy with ⟨question, -, rfl⟩
      rfl
    · intro before y after hsplit hy
      exact htranscript.of_write hsplit hy
    · intro π part hnet c hc
      exact horderly.speaksTo.frame hnet hc w

/-- Operations are routed exactly. An operation but a login asks nobody, or the one backend that
its address stands for; whatever backends answer, no other is asked or changed, and a change is
asked for once at most, and last. An operation that reads, or a login, asks for no change at all.
Among directories, all but the one that was asked stay as they were, and the records of all do if
no change was asked for. -/
theorem perform_routed (s : Store) (op : Operation) :
    (∀ (ω : Type) (net : Network ω) (w : ω),
      (op.isLogin = false →
        ((s.perform op).exchanges net w = [] ∧ ((s.perform op).run net w).asked = [] ∧
            ((s.perform op).run net w).state = w) ∨
          ∃ b, Routed net s op w b) ∧
        (op.isReading = true → ∀ x ∈ (s.perform op).exchanges net w, x.isWrite = false)) ∧
    ∀ ds : List Directory,
      let after := ((s.perform op).run Directory.network ds).state
      (∀ (i : Nat) (d : Directory), ds[i]? = some d →
          (∀ x ∈ (s.perform op).exchanges Directory.network ds, d.answersTo x.backend = false) →
          after[i]? = some d) ∧
        (op.isReading = true → after.map (·.contents) = ds.map (·.contents)) := by
  constructor
  · intro ω net w
    constructor
    · intro hop
      exact s.untouched_or_routed hop net w
    · intro hop x hx
      cases x with
      | request b r outcome log => exact (puts_of_isReading hop).request net w _ hx b r rfl
      | support b uri answer => rfl
  · intro ds after
    constructor
    · intro i d hi hd
      exact Directory.getElem?_run hi hd
    · intro hop
      exact Directory.records_run_of_read (puts_of_isReading hop) ds

/-- A user of the other backend is looked up, by a name that is spelled differently. -/
theorem perform_routed_south :
    let s : Store := ⟨.standard, .poles⟩
    let op := Operation.getByClaim .user ⟨Claim.usernameUri, "ann"⟩ (some "SOUTH")
    let ds := Registry.poles.ordered.map fun b =>
      { Directory.new b with contents := Contents.empty.seedUser "u.1" "ann" "pw" }
    let after := ((s.perform op).run Directory.network ds).state
    (op.isLogin = false ∧ op.isReading = true) ∧
      (∃ b, b.id = 2147483647 ∧ Routed Directory.network s op ds b) ∧
      after[0]? = ds[0]? ∧ after.map (·.contents) = ds.map (·.contents) := by
  intro s op ds after
  have hexchanges : (s.perform op).exchanges Directory.network ds =
      [.request 2147483647 (.find .user ⟨Claim.usernameUri, "ann"⟩) (.ok (some "u.1"))
        [.request (.find .user ⟨Claim.usernameUri, "ann"⟩)]] := rfl
  obtain ⟨hnetwork, hdirectories⟩ := s.perform_routed op
  obtain ⟨hplace, hrecords⟩ := hdirectories ds
  refine ⟨⟨rfl, rfl⟩, ?_, ?_, hrecords rfl⟩
  · rcases (hnetwork _ Directory.network ds).1 rfl with ⟨hsilent, -⟩ | ⟨b, hrouted⟩
    · rw [hexchanges] at hsilent
      contradiction
    · have hall := hrouted.requests
      rw [hexchanges] at hall
      rcases List.forall_mem_singleton.1 hall with ⟨r, outcome, log, hx, -⟩
      injection hx with hid
      exact ⟨b, hid.symm, hrouted⟩
  · apply hplace 0 _ rfl
    rw [hexchanges]
    exact List.forall_mem_singleton.2 (by decide)

end Store

end Federation
