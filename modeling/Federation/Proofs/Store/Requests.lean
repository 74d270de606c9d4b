import Federation.Proofs.Store.Conduct

/-!
# Federation.Proofs.Store.Requests — what operations ask of backends

For every operation, the requests that it can put, to which backend and with which arguments
(`Asks`). A request about an entity carries the local id that is written in the entity's unique
id, and goes to the backend that is written there; a request of a listing, a search or an addition
goes to the backend that the name leads to. No operation puts any other request, whatever backends
answer (`asks_perform`).
-/

namespace Federation

namespace Registry

/-- The unique ids are, one by one, those of entities of the backend with these local ids. -/
def Localizes (r : Registry) (backend : Int32) (uniqueIds localIds : List String) : Prop :=
  uniqueIds.map r.decode = localIds.map fun l => .ok ⟨backend, l⟩

theorem localizes_cons {r : Registry} {b : Int32} {raw : String} {raws localIds : List String} :
    r.Localizes b (raw :: raws) localIds ↔ ∃ l rest, localIds = l :: rest ∧
      r.decode raw = .ok ⟨b, l⟩ ∧ r.Localizes b raws rest := by
  unfold Localizes
  rw [List.map_cons]
  constructor
  · intro h
    rcases List.map_eq_cons_iff.1 h.symm with ⟨l, rest, hlist, hhead, htail⟩
    exact ⟨l, rest, hlist, hhead.symm, htail.symm⟩
  · rintro ⟨l, rest, rfl, hhead, htail⟩
    rw [List.map_cons, hhead, htail]

/-- The local ids of entities are not empty. -/
theorem Localizes.ne_empty {r : Registry} {b : Int32} {uniqueIds localIds : List String}
    (h : r.Localizes b uniqueIds localIds) : ∀ l ∈ localIds, l ≠ "" := by
  intro l hl
  have hmem : (.ok ⟨b, l⟩ : Except StoreError EntityId) ∈ uniqueIds.map r.decode := by
    rw [h]
    exact List.mem_map_of_mem hl
  rcases List.mem_map.1 hmem with ⟨raw, -, hraw⟩
  exact (decode_eq_ok_iff.1 hraw).2.1

end Registry

namespace Store

open Dialogue (ofExcept demand)

variable {s : Store} {k : Kind}

/-! ## Routing -/

/-- The empty text is no unique id. -/
theorem decode_empty (r : Registry) : r.decode "" = .error (.invalidInput .uniqueId) := by
  have hnone : EntityId.decode? "" = none := by decide
  rw [Registry.decode, hnone]

/-- An entity is located if its unique id is read, at the backend and under the local id that are
written there. -/
theorem locate_of_decode {uniqueId : String} {e : EntityId}
    (h : s.registry.decode uniqueId = .ok e) (k : Kind) :
    ∃ b ∈ s.registry.ordered, b.id = e.backend ∧ s.locate k uniqueId = .ok ⟨b, e.localId⟩ := by
  rcases (Registry.decode_eq_ok_iff.1 h).1 with ⟨b, hb, hid⟩
  refine ⟨b, hb, hid, ?_⟩
  have hne : uniqueId ≠ "" := by
    rintro rfl
    rw [decode_empty] at h
    contradiction
  have hfound : s.registry.byId? e.backend = some b := Registry.byId?_eq_some_iff.2 ⟨hb, hid⟩
  rw [locate, if_neg hne, h]
  simp only [bind, Except.bind, hfound]
  rfl

/-- Otherwise the id is refused, with words of its own if it is empty. -/
theorem locate_of_decode_error {uniqueId : String} {e : StoreError}
    (h : s.registry.decode uniqueId = .error e) (k : Kind) :
    s.locate k uniqueId =
      .error (.invalidInput (if uniqueId = "" then .entityId k else .uniqueId)) := by
  by_cases hempty : uniqueId = ""
  · rw [locate, if_pos hempty, if_pos hempty]
  · rw [locate, if_neg hempty, if_neg hempty, h, Registry.decode_eq_error h]
    rfl

/-- An entity is located at a backend of the registry. -/
theorem mem_of_locate {uniqueId : String} {p : Place} (h : s.locate k uniqueId = .ok p) :
    p.backend ∈ s.registry.ordered := by
  rcases locate_of_decode (decode_of_locate h) k with ⟨b, hb, -, hlocate⟩
  rw [h] at hlocate
  injection hlocate with hp
  rw [hp]
  exact hb

/-- A name that is not empty is looked up. -/
theorem resolve_of_ne_empty {name : String} (h : name ≠ "") :
    s.resolve (some name) = s.registry.byName name := by
  have hgiven : given? (some name) = some name := by simp [given?, h]
  rw [resolve, hgiven]

/-- A backend name leads to a backend of the registry. -/
theorem mem_of_resolve {name : Option String} {b : BackendConfig} (h : s.resolve name = .ok b) :
    b ∈ s.registry.ordered := by
  unfold resolve at h
  split at h
  · exact (Registry.byName_eq_ok_iff.1 h).1
  · injection h with h
    rw [← h]
    exact List.head_mem _

/-! ## Other ends of memberships -/

/-- What is wrong with a unique id at the other end of a membership of the backend `owner`. -/
def offence? (s : Store) (owner : Int32) (uniqueId : String) : Option InvalidInput :=
  match s.registry.decode uniqueId with
  | .error _ => some .uniqueId
  | .ok e => if e.backend = owner then none else some .acrossBackends

/-- An id is refused for what is wrong with it, or is that of an entity of the owner's backend. -/
theorem localIdIn_cases (s : Store) (owner : Int32) (uniqueId : String) :
    (∃ reason, s.offence? owner uniqueId = some reason ∧
      s.localIdIn owner uniqueId = .error (.invalidInput reason)) ∨
    (s.offence? owner uniqueId = none ∧ ∃ l, s.registry.decode uniqueId = .ok ⟨owner, l⟩ ∧
      s.localIdIn owner uniqueId = .ok l) := by
  unfold offence? localIdIn
  cases hread : s.registry.decode uniqueId with
  | error e =>
    rw [Registry.decode_eq_error hread]
    exact .inl ⟨_, rfl, rfl⟩
  | ok e =>
    by_cases hown : e.backend = owner
    · subst hown
      exact .inr ⟨if_pos rfl, e.localId, rfl, if_pos rfl⟩
    · exact .inl ⟨_, if_neg hown, if_neg hown⟩

/-- Several ids are refused for what is wrong with the first of them that is wrong, or are those of
entities of the owner's backend. -/
theorem localIdsIn_cases (s : Store) (owner : Int32) (uniqueIds : List String) :
    (∃ reason, uniqueIds.findSome? (s.offence? owner) = some reason ∧
      s.localIdsIn owner uniqueIds = .error (.invalidInput reason)) ∨
    (uniqueIds.findSome? (s.offence? owner) = none ∧
      ∃ ls, s.registry.Localizes owner uniqueIds ls ∧ s.localIdsIn owner uniqueIds = .ok ls) := by
  -- by the ids from the first on, as the first that is wrong decides
  induction uniqueIds with
  | nil => exact .inr ⟨rfl, [], rfl, rfl⟩
  | cons raw rest ih =>
    have hstep : s.localIdsIn owner (raw :: rest) = do
        let l ← s.localIdIn owner raw
        let ls ← s.localIdsIn owner rest
        return l :: ls := List.mapM_cons
    rw [hstep, List.findSome?_cons]
    rcases s.localIdIn_cases owner raw with ⟨reason, hoffence, herror⟩ | ⟨hnone, l, hread, hl⟩
    · rw [hoffence, herror]
      exact .inl ⟨reason, rfl, rfl⟩
    · rw [hnone, hl]
      rcases ih with ⟨reason, hoffence, herror⟩ | ⟨hnone, ls, hlocal, hls⟩
      · rw [herror]
        exact .inl ⟨reason, hoffence, rfl⟩
      · rw [hls]
        exact .inr ⟨hnone, l :: ls, Registry.localizes_cons.2 ⟨l, ls, rfl, hread, hlocal⟩, rfl⟩

/-- The local ids that are read off unique ids are those written in them. -/
theorem localizes_of_localIdsIn {owner : Int32} {uniqueIds localIds : List String}
    (h : s.localIdsIn owner uniqueIds = .ok localIds) :
    s.registry.Localizes owner uniqueIds localIds := by
  rcases s.localIdsIn_cases owner uniqueIds with ⟨reason, -, herror⟩ | ⟨-, ls, hlocal, hls⟩
  · rw [h] at herror
    contradiction
  · rw [h] at hls
    injection hls with hls
    rw [hls]
    exact hlocal

/-! ## Requests of each operation -/

/-- The requests that an operation can put, and the backends that it puts them to. -/
inductive Asks (s : Store) : Operation → Int32 → Request → Prop
  | authenticate {claim : Claim} {credentials : List Credential} {name : Option String}
      {b : Int32} (h : s.registry.Registered b) :
      Asks s (.authenticate claim credentials name) b (.authenticate claim credentials)
  | get {k : Kind} {uniqueId : String} {b : Int32} {l : String}
      (h : s.registry.decode uniqueId = .ok ⟨b, l⟩) : Asks s (.get k uniqueId) b (.isPresent k l)
  | find {k : Kind} {claim : Claim} {name : Option String} {b : BackendConfig}
      (h : s.resolve name = .ok b) : Asks s (.getByClaim k claim name) b.id (.find k claim)
  | list {k : Kind} {filter : Filter} {offset length : Int32} {name : Option String} {page : Page}
      {b : BackendConfig} (hpage : Page.ofRange? offset length = .ok (some page))
      (h : s.resolve name = .ok b) :
      Asks s (.list k filter offset length name) b.id (.list k filter page)
  | ownerPresent {k : Kind} {uniqueId : String} {b : Int32} {l : String}
      (h : s.registry.decode uniqueId = .ok ⟨b, l⟩) :
      Asks s (.memberships k uniqueId) b (.isPresent k l)
  | memberships {k : Kind} {uniqueId : String} {b : Int32} {l : String}
      (h : s.registry.decode uniqueId = .ok ⟨b, l⟩) :
      Asks s (.memberships k uniqueId) b (.memberships k l)
  | userPresent {user group : String} {b : Int32} {l m : String}
      (hu : s.registry.decode user = .ok ⟨b, l⟩) (hg : s.registry.decode group = .ok ⟨b, m⟩) :
      Asks s (.isMember user group) b (.isPresent .user l)
  | groupPresent {user group : String} {b : Int32} {l m : String}
      (hu : s.registry.decode user = .ok ⟨b, l⟩) (hg : s.registry.decode group = .ok ⟨b, m⟩) :
      Asks s (.isMember user group) b (.isPresent .group m)
  | isMember {user group : String} {b : Int32} {l m : String}
      (hu : s.registry.decode user = .ok ⟨b, l⟩) (hg : s.registry.decode group = .ok ⟨b, m⟩) :
      Asks s (.isMember user group) b (.isMember l m)
  | claims {k : Kind} {uniqueId : String} {b : Int32} {l : String}
      (h : s.registry.decode uniqueId = .ok ⟨b, l⟩) : Asks s (.claims k uniqueId) b (.claims k l)
  | claimsFor {k : Kind} {uniqueId : String} {metas : List MetaClaim} {b : Int32} {l : String}
      (h : s.registry.decode uniqueId = .ok ⟨b, l⟩) :
      Asks s (.claimsFor k uniqueId metas) b (.claimsFor k l metas)
  | add {k : Kind} {payload : Payload k} {name : Option String} {b : BackendConfig}
      (h : s.resolve name = .ok b) : Asks s (.add k payload name) b.id (.add k payload)
  | addAll {k : Kind} {payloads : List (Payload k)} {name : Option String} {b : BackendConfig}
      (h : s.resolve name = .ok b) : Asks s (.addAll k payloads name) b.id (.addAll k payloads)
  | replaceClaims {k : Kind} {uniqueId : String} {claims : List Claim} {b : Int32} {l : String}
      (h : s.registry.decode uniqueId = .ok ⟨b, l⟩) :
      Asks s (.replaceClaims k uniqueId claims) b (.replaceClaims k l claims)
  | changeClaims {k : Kind} {uniqueId : String} {add remove : List Claim} {b : Int32} {l : String}
      (h : s.registry.decode uniqueId = .ok ⟨b, l⟩) :
      Asks s (.changeClaims k uniqueId add remove) b (.changeClaims k l add remove)
  | replaceCredentials {user : String} {credentials : List Credential} {b : Int32} {l : String}
      (h : s.registry.decode user = .ok ⟨b, l⟩) :
      Asks s (.replaceCredentials user credentials) b (.replaceCredentials l credentials)
  | changeCredentials {user : String} {add remove : List Credential} {b : Int32} {l : String}
      (h : s.registry.decode user = .ok ⟨b, l⟩) :
      Asks s (.changeCredentials user add remove) b (.changeCredentials l add remove)
  | delete {k : Kind} {uniqueId : String} {b : Int32} {l : String}
      (h : s.registry.decode uniqueId = .ok ⟨b, l⟩) : Asks s (.delete k uniqueId) b (.delete k l)
  | replaceMemberships {k : Kind} {uniqueId : String} {others locals : List String} {b : Int32}
      {l : String} (h : s.registry.decode uniqueId = .ok ⟨b, l⟩)
      (hothers : s.registry.Localizes b others locals) :
      Asks s (.replaceMemberships k uniqueId others) b (.replaceMemberships k l locals)
  | changeMemberships {k : Kind} {uniqueId : String} {add remove added removed : List String}
      {b : Int32} {l : String} (h : s.registry.decode uniqueId = .ok ⟨b, l⟩)
      (hadd : s.registry.Localizes b add added) (hremove : s.registry.Localizes b remove removed) :
      Asks s (.changeMemberships k uniqueId add remove) b (.changeMemberships k l added removed)

/-! ## Only these requests -/

section Puts

variable {α : Type} {P : Int32 → Request → Prop}

/-- What follows the location of an entity knows where the entity is. -/
theorem puts_locate {uniqueId : String} {f : Place → Dialogue α}
    (hf : ∀ p, s.registry.decode uniqueId = .ok ⟨p.backend.id, p.localId⟩ → (f p).Puts P) :
    (ofExcept (s.locate k uniqueId) >>= f).Puts P := by
  apply Dialogue.Puts.guard
  intro p hp
  exact hf p (decode_of_locate hp)

/-- What follows the question whether an entity is there. -/
theorem puts_ensurePresent {p : Place} {uniqueId : String} {f : Unit → Dialogue α}
    (hp : P p.backend.id (.isPresent k p.localId)) (hf : (f ()).Puts P) :
    (ensurePresent k p uniqueId >>= f).Puts P := by
  refine Dialogue.Puts.bind (Dialogue.Puts.bind (.demand hp) ?_) fun _ => hf
  intro present
  cases present with
  | false => trivial
  | true => trivial

/-- Where there may be nothing to do, no more is requested. -/
theorem puts_unlessIdle {d : Dialogue α} {a : α} {c : Prop} [Decidable c] (h : d.Puts P) :
    (if c then .done a else d).Puts P := by
  by_cases hc : c
  · rw [if_pos hc]
    trivial
  · rw [if_neg hc]
    exact h

/-- A search for a backend that accepts a login asks backends to authenticate. -/
theorem puts_scan {claim : Claim} {credentials : List Credential} {l : List BackendConfig}
    (h : ∀ b ∈ l, P b.id (.authenticate claim credentials)) :
    (scan claim credentials l).Puts P := by
  induction l with
  | nil => trivial
  | cons b rest ih =>
    rcases List.forall_mem_cons.1 h with ⟨hb, hrest⟩
    rintro (_ | _)
    · exact ih hrest
    · refine ⟨hb, ?_⟩
      rintro (e | localId)
      · show Dialogue.Puts P (if e.isAuthentication then _ else _)
        split
        · exact ih hrest
        · trivial
      · trivial

/-- A login at one backend asks that backend to authenticate. -/
theorem puts_authenticateAt {b : BackendConfig} {claim : Claim} {credentials : List Credential}
    (h : P b.id (.authenticate claim credentials)) :
    (authenticateAt b claim credentials).Puts P := by
  refine ⟨h, ?_⟩
  rintro (e | localId)
  · show Dialogue.Puts P (if e.isAuthentication then _ else _)
    split
    · trivial
    · trivial
  · trivial

/-- A login asks backends of the registry to authenticate. -/
theorem puts_authenticate {claim : Claim} {credentials : List Credential} {name : Option String}
    (h : ∀ b ∈ s.registry.ordered, P b.id (.authenticate claim credentials)) :
    (s.authenticate claim credentials name).Puts P := by
  unfold authenticate
  split
  · trivial
  · split
    · apply Dialogue.Puts.guard
      intro b hb
      exact puts_authenticateAt (h b (Registry.byName_eq_ok_iff.1 hb).1)
    · exact puts_scan h

end Puts

/-- An operation puts no requests but its own, whatever backends answer. -/
theorem asks_perform (s : Store) (op : Operation) : (s.perform op).Puts (s.Asks op) := by
  -- each check adds what it knows of its arguments, and the requests come after all checks
  cases op with
  | authenticate claim credentials name =>
    exact (puts_authenticate fun b hb => .authenticate ⟨b, hb, rfl⟩).map _
  | get k uniqueId =>
    refine .map _ (puts_locate fun p hp => ?_)
    exact puts_ensurePresent (.get hp) trivial
  | getByClaim k claim name =>
    refine .map _ (.guard fun _ _ => .guard fun b hb => ?_)
    refine .bind (.demand (.find hb)) ?_
    rintro (_ | localId)
    · trivial
    · trivial
  | list k filter offset length name =>
    refine .map _ (.guard fun _ _ => .guard fun window hwindow => ?_)
    cases window with
    | none => trivial
    | some page =>
      refine .guard fun b hb => ?_
      exact .map _ (.demand (.list hwindow hb))
  | memberships k uniqueId =>
    refine .map _ (puts_locate fun p hp => ?_)
    refine puts_ensurePresent (.ownerPresent hp) ?_
    exact .map _ (.demand (.memberships hp))
  | isMember user group =>
    refine .map _ (puts_locate fun u hu => puts_locate fun g hg => ?_)
    by_cases hone : u.backend.id = g.backend.id
    · -- both ends are of one backend, so it does not matter which end is said to name it
      have hu' : s.registry.decode user = .ok ⟨g.backend.id, u.localId⟩ := hone ▸ hu
      have hg' : s.registry.decode group = .ok ⟨u.backend.id, g.localId⟩ := hone ▸ hg
      rw [if_pos hone]
      refine puts_ensurePresent (.userPresent hu hg') ?_
      refine puts_ensurePresent (.groupPresent hu' hg) ?_
      exact .demand (.isMember hu hg')
    · rw [if_neg hone]
      trivial
  | claims k uniqueId => exact .map _ (puts_locate fun p hp => .demand (.claims hp))
  | claimsFor k uniqueId metas =>
    exact .map _ (puts_locate fun p hp => puts_unlessIdle (.demand (.claimsFor hp)))
  | add k payload name =>
    refine .map _ (.guard fun _ _ => .guard fun b hb => ?_)
    exact .bind (.demand (.add hb)) fun _ => trivial
  | addAll k payloads name =>
    refine .map _ (.guard fun _ _ => .guard fun b hb => ?_)
    exact .bind (.demand (.addAll hb)) fun _ => trivial
  | replaceClaims k uniqueId claims =>
    exact .map _ (puts_locate fun p hp => .demand (.replaceClaims hp))
  | changeClaims k uniqueId add remove =>
    exact .map _ (puts_locate fun p hp => puts_unlessIdle (.demand (.changeClaims hp)))
  | replaceCredentials user credentials =>
    exact .map _ (puts_locate fun p hp => .demand (.replaceCredentials hp))
  | changeCredentials user add remove =>
    exact .map _ (puts_locate fun p hp => puts_unlessIdle (.demand (.changeCredentials hp)))
  | delete k uniqueId =>
    refine .map _ (puts_locate fun p hp => ?_)
    exact .bind (.demand (.delete hp)) fun _ => trivial
  | replaceMemberships k uniqueId others =>
    refine .map _ (puts_locate fun p hp => .guard fun locals hlocals => ?_)
    exact .demand (.replaceMemberships hp (localizes_of_localIdsIn hlocals))
  | changeMemberships k uniqueId add remove =>
    refine .map _ (puts_locate fun p hp => puts_unlessIdle ?_)
    refine .guard fun added hadded => .guard fun removed hremoved => ?_
    exact .demand (.changeMemberships hp (localizes_of_localIdsIn hadded)
      (localizes_of_localIdsIn hremoved))

end Store

end Federation
