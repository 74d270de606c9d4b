import Federation.Proofs.Store.Interleaving
import Federation.Proofs.Store.Requests

/-!
# Federation.Proofs.Store.Membership — memberships never cross backends

A change of memberships names an owner and the entities at the other ends, all by unique id. It
reaches the owner's backend whole or not at all: all ids must be read, and all must be ids of the
owner's backend, before the backend is asked to change anything. It is then asked once, for the
local ids that are written in the ids, in their order.
-/

namespace Federation

/-! ## Changes of memberships -/

/-- A change of the memberships of an entity, with the entities at the other ends given by their
unique ids, or by their local ids. -/
inductive MembershipEdit where
  | replace (others : List String)
  | change (add remove : List String)

namespace MembershipEdit

/-- The operation of the store, with unique ids. -/
def operation (k : Kind) (owner : String) : MembershipEdit → Operation
  | replace others => .replaceMemberships k owner others
  | change add remove => .changeMemberships k owner add remove

/-- The request to a backend, with local ids. -/
def request (k : Kind) (localId : String) : MembershipEdit → Request
  | replace others => .replaceMemberships k localId others
  | change add remove => .changeMemberships k localId add remove

/-- The ids of the other ends, those to be added before those to be removed. -/
def ids : MembershipEdit → List String
  | replace others => others
  | change add remove => add ++ remove

/-- Nothing is to be added and nothing to be removed. A replacement is never idle, as there may be
memberships to forget. -/
def isIdle : MembershipEdit → Bool
  | replace _ => false
  | change add remove => add.isEmpty && remove.isEmpty

/-- A change with nothing to be done has no other ends. -/
theorem ids_of_isIdle (edit : MembershipEdit) (h : edit.isIdle = true) : edit.ids = [] := by
  cases edit with
  | replace others => contradiction
  | change add remove =>
    rw [isIdle, Bool.and_eq_true, List.isEmpty_iff, List.isEmpty_iff] at h
    rw [ids, h.1, h.2, List.append_nil]

/-- The second edit is the first one with local ids of a backend in the place of unique ids. -/
def Localizes (r : Registry) (backend : Int32) : MembershipEdit → MembershipEdit → Prop
  | replace others, replace locals => r.Localizes backend others locals
  | change add remove, change added removed =>
    r.Localizes backend add added ∧ r.Localizes backend remove removed
  | _, _ => False

end MembershipEdit

/-- The request is one for a change of memberships. -/
def Request.editsMemberships : Request → Bool
  | .replaceMemberships .. | .changeMemberships .. => true
  | _ => false

/-- A backend was asked for a change of memberships. -/
def Exchange.editsMemberships : Exchange → Bool
  | .request _ r _ _ => r.editsMemberships
  | .support .. => false

theorem MembershipEdit.editsMemberships_request (k : Kind) (l : String) (edit : MembershipEdit) :
    (edit.request k l).editsMemberships = true := by
  cases edit with
  | replace others => rfl
  | change add remove => rfl

/-! ## Ids of one backend -/

section Localizes

variable {s : Store} {b : Int32}

/-- There is only one way to read unique ids. -/
theorem Registry.Localizes.unique {uniqueIds first second : List String}
    (hfirst : s.registry.Localizes b uniqueIds first)
    (hsecond : s.registry.Localizes b uniqueIds second) : first = second := by
  have hsame := Eq.trans (Eq.symm hfirst) hsecond
  refine (List.map_inj_right ?_).1 hsame
  intro l m h
  injection h with h
  injection h

/-- Nothing is wrong with ids of entities of the backend. -/
theorem Registry.Localizes.no_offence {uniqueIds localIds : List String}
    (h : s.registry.Localizes b uniqueIds localIds) :
    uniqueIds.findSome? (s.offence? b) = none := by
  rw [List.findSome?_eq_none_iff]
  intro raw hraw
  have hmem : s.registry.decode raw ∈ uniqueIds.map s.registry.decode := List.mem_map_of_mem hraw
  rw [h] at hmem
  rcases List.mem_map.1 hmem with ⟨l, -, hread⟩
  rw [Store.offence?, ← hread]
  exact if_pos rfl

theorem MembershipEdit.Localizes.unique {edit first second : MembershipEdit}
    (hfirst : edit.Localizes s.registry b first) (hsecond : edit.Localizes s.registry b second) :
    first = second := by
  cases edit with
  | replace others =>
    cases first with
    | replace locals =>
      cases second with
      | replace locals' => rw [Registry.Localizes.unique hfirst hsecond]
      | change _ _ => contradiction
    | change _ _ => contradiction
  | change add remove =>
    cases first with
    | replace _ => contradiction
    | change added removed =>
      cases second with
      | replace _ => contradiction
      | change added' removed' =>
        rw [Registry.Localizes.unique hfirst.1 hsecond.1,
          Registry.Localizes.unique hfirst.2 hsecond.2]

theorem MembershipEdit.Localizes.no_offence {edit locals : MembershipEdit}
    (h : edit.Localizes s.registry b locals) : edit.ids.findSome? (s.offence? b) = none := by
  cases edit with
  | replace others =>
    cases locals with
    | replace _ => exact Registry.Localizes.no_offence h
    | change _ _ => contradiction
  | change add remove =>
    cases locals with
    | replace _ => contradiction
    | change _ _ =>
      rw [MembershipEdit.ids, List.findSome?_append, Registry.Localizes.no_offence h.1,
        Registry.Localizes.no_offence h.2]
      rfl

end Localizes

namespace Store

open Dialogue (ofExcept demand)

variable {s : Store} {k : Kind} {owner : String} {edit : MembershipEdit}

/-! ## One form for all changes -/

/-- The edit with the local ids of entities of the backend `owner`. -/
def localEdit (s : Store) (owner : Int32) : MembershipEdit → Except StoreError MembershipEdit
  | .replace others => do
    let locals ← s.localIdsIn owner others
    return .replace locals
  | .change add remove => do
    let added ← s.localIdsIn owner add
    let removed ← s.localIdsIn owner remove
    return .change added removed

/-- An edit is refused for what is wrong with the first of its ids that is wrong, or all of them
are those of entities of the owner's backend. -/
theorem localEdit_cases (s : Store) (owner : Int32) (edit : MembershipEdit) :
    (∃ reason, edit.ids.findSome? (s.offence? owner) = some reason ∧
      s.localEdit owner edit = .error (.invalidInput reason)) ∨
    (edit.ids.findSome? (s.offence? owner) = none ∧
      ∃ locals, edit.Localizes s.registry owner locals ∧ s.localEdit owner edit = .ok locals) := by
  cases edit with
  | replace others =>
    have hedit : s.localEdit owner (.replace others) = do
        let locals ← s.localIdsIn owner others
        return .replace locals := rfl
    rw [hedit]
    rcases s.localIdsIn_cases owner others with ⟨reason, hreason, herror⟩ | ⟨hnone, ls, hls, hok⟩
    · rw [herror]
      exact .inl ⟨reason, hreason, rfl⟩
    · rw [hok]
      exact .inr ⟨hnone, .replace ls, hls, rfl⟩
  | change add remove =>
    have hedit : s.localEdit owner (.change add remove) = do
        let added ← s.localIdsIn owner add
        let removed ← s.localIdsIn owner remove
        return .change added removed := rfl
    rw [hedit, MembershipEdit.ids, List.findSome?_append]
    -- the ids to be added decide first
    rcases s.localIdsIn_cases owner add with ⟨reason, hreason, herror⟩ | ⟨hnone, ls, hls, hok⟩
    · rw [hreason, herror]
      exact .inl ⟨reason, rfl, rfl⟩
    · rw [hnone, hok]
      rcases s.localIdsIn_cases owner remove with ⟨reason, hreason, herror⟩ | ⟨hnone, ms, hms, hok⟩
      · rw [hreason, herror]
        exact .inl ⟨reason, rfl, rfl⟩
      · rw [hnone, hok]
        exact .inr ⟨rfl, .change ls ms, ⟨hls, hms⟩, rfl⟩

/-- A change for an owner whose id is refused is refused. -/
theorem perform_of_decode_error {e : StoreError} (hread : s.registry.decode owner = .error e) :
    s.perform (edit.operation k owner) =
      .fail (.invalidInput (if owner = "" then .entityId k else .uniqueId)) := by
  have hlocate := locate_of_decode_error hread k
  cases edit with
  | replace others =>
    show _ <$> s.replaceMemberships k owner others = _
    rw [replaceMemberships, hlocate]
    rfl
  | change add remove =>
    show _ <$> s.changeMemberships k owner add remove = _
    rw [changeMemberships, hlocate]
    rfl

/-- Any other change is done at once if it is idle, and else comes down to one request after all
other ends were checked. -/
theorem perform_of_decode {e : EntityId} (hread : s.registry.decode owner = .ok e) :
    s.perform (edit.operation k owner) =
      if edit.isIdle then .done .nothing
      else Dialogue.ofExcept (s.localEdit e.backend edit) >>= fun locals =>
        (fun _ => .nothing) <$>
          demand (.updateMemberships k owner) e.backend (locals.request k e.localId) := by
  rcases locate_of_decode hread k with ⟨b, -, hb, hlocate⟩
  rw [← hb]
  cases edit with
  | replace others =>
    show _ <$> s.replaceMemberships k owner others = _
    rw [replaceMemberships, hlocate, localEdit]
    show _ <$> (ofExcept (s.localIdsIn b.id others) >>= _) = _
    cases s.localIdsIn b.id others with
    | error err => rfl
    | ok locals => rfl
  | change add remove =>
    show _ <$> s.changeMemberships k owner add remove = _
    rw [changeMemberships, hlocate, localEdit]
    show _ <$> (if (add.isEmpty && remove.isEmpty) = true then _ else _) = _
    rw [MembershipEdit.isIdle]
    cases add.isEmpty && remove.isEmpty with
    | true => rfl
    | false =>
      -- both sides check the ids to be added first
      cases s.localIdsIn b.id add with
      | error err => rfl
      | ok added =>
        cases s.localIdsIn b.id remove with
        | error err => rfl
        | ok removed => rfl

/-! ## What becomes of a change -/

/-- Why a change of memberships is refused, if it is: for its owner, or else for the first of the
other ids with which something is wrong. -/
def refusal? (s : Store) (k : Kind) (owner : String) (edit : MembershipEdit) :
    Option InvalidInput :=
  match s.registry.decode owner with
  | .error _ => some (if owner = "" then .entityId k else .uniqueId)
  | .ok e => edit.ids.findSome? (s.offence? e.backend)

/-- The owner is read as `e`, all other ends are read as entities of its backend, with the ids in
`locals`, and there is something to be done. -/
structure Reaches (s : Store) (owner : String) (edit : MembershipEdit) (e : EntityId)
    (locals : MembershipEdit) : Prop where
  owner : s.registry.decode owner = .ok e
  others : edit.Localizes s.registry e.backend locals
  busy : edit.isIdle = false

theorem refusal?_of_decode {e : EntityId} (h : s.registry.decode owner = .ok e) :
    s.refusal? k owner edit = edit.ids.findSome? (s.offence? e.backend) := by
  simp only [refusal?, h]

/-- A change that reaches a backend is refused for nothing. -/
theorem Reaches.refusal?_eq_none {e : EntityId} {locals : MembershipEdit}
    (h : s.Reaches owner edit e locals) : s.refusal? k owner edit = none := by
  rw [refusal?_of_decode h.owner]
  exact MembershipEdit.Localizes.no_offence h.others

/-- A change reaches one backend, in one way. -/
theorem Reaches.unique {e e' : EntityId} {locals locals' : MembershipEdit}
    (h : s.Reaches owner edit e locals) (h' : s.Reaches owner edit e' locals') :
    e = e' ∧ locals = locals' := by
  have he : e = e' := Except.ok.inj (h.owner.symm.trans h'.owner)
  subst he
  exact ⟨rfl, MembershipEdit.Localizes.unique h.others h'.others⟩

/-- How a change of memberships ends that reaches no backend: it is refused, unless there is
nothing to do for an owner whose id is read. -/
def EndsIdly (s : Store) (k : Kind) (owner : String) (edit : MembershipEdit)
    (result : Except StoreError Answer) : Prop :=
  (∃ reason, s.refusal? k owner edit = some reason ∧ result = .error (.invalidInput reason)) ∨
    ((∃ e, s.registry.decode owner = .ok e) ∧ edit.isIdle = true ∧ result = .ok .nothing)

/-- What can become of a change of memberships: it ends at once, or the owner's backend is asked
for it. -/
inductive Editing (s : Store) (k : Kind) (owner : String) (edit : MembershipEdit) : Prop
  | atOnce (hnone : ∀ e locals, ¬ s.Reaches owner edit e locals)
      (result : Except StoreError Answer) (hresult : s.EndsIdly k owner edit result)
      (h : s.perform (edit.operation k owner) = ofExcept result)
  | asked (e : EntityId) (locals : MembershipEdit) (hreaches : s.Reaches owner edit e locals)
      (h : s.perform (edit.operation k owner) = (fun _ => .nothing) <$>
        demand (.updateMemberships k owner) e.backend (locals.request k e.localId))

/-- What is refused reaches no backend. -/
theorem editing_of_refusal {reason : InvalidInput}
    (hreason : s.refusal? k owner edit = some reason)
    (h : s.perform (edit.operation k owner) = .fail (.invalidInput reason)) :
    Editing s k owner edit := by
  refine .atOnce ?_ _ (.inl ⟨reason, hreason, rfl⟩) h
  intro e locals hreaches
  rw [hreaches.refusal?_eq_none] at hreason
  contradiction

/-- These are all the things that can become of it. -/
theorem editing (s : Store) (k : Kind) (owner : String) (edit : MembershipEdit) :
    Editing s k owner edit := by
  cases hread : s.registry.decode owner with
  | error e =>
    apply editing_of_refusal _ (perform_of_decode_error hread)
    simp only [refusal?, hread]
  | ok e =>
    have hperform : s.perform (edit.operation k owner) = _ := perform_of_decode hread
    cases hidle : edit.isIdle with
    | true =>
      rw [hidle, if_pos rfl] at hperform
      refine .atOnce ?_ _ (.inr ⟨⟨e, hread⟩, hidle, rfl⟩) hperform
      intro e locals hreaches
      rw [hreaches.busy] at hidle
      contradiction
    | false =>
      rw [hidle, if_neg Bool.false_ne_true] at hperform
      rcases s.localEdit_cases e.backend edit with
        ⟨reason, hreason, herror⟩ | ⟨-, locals, hlocal, hok⟩
      · rw [herror] at hperform
        exact editing_of_refusal ((refusal?_of_decode hread).trans hreason) hperform
      · rw [hok] at hperform
        exact .asked e locals ⟨hread, hlocal, hidle⟩ hperform

/-! ## Whole or not at all -/

/-- What is to be seen of a change of memberships over a network in a state. -/
structure Whole {ω : Type} (net : Network ω) (s : Store) (k : Kind) (owner : String)
    (edit : MembershipEdit) (w : ω) : Prop where
  /-- A backend is asked for the change if and only if the ids allow it. -/
  edits_iff : (∃ x ∈ (s.perform (edit.operation k owner)).exchanges net w,
    x.editsMemberships = true) ↔ ∃ e locals, s.Reaches owner edit e locals
  /-- Then the owner's backend is asked, once, for what is written in the ids. -/
  once : ∀ e locals, s.Reaches owner edit e locals →
    let reply := net.serve e.backend (locals.request k e.localId) w
    (s.perform (edit.operation k owner)).exchanges net w =
      [.request e.backend (locals.request k e.localId) reply.outcome reply.log]
  /-- Else nobody is spoken to. -/
  untouched : (∀ e locals, ¬ s.Reaches owner edit e locals) →
    let run := (s.perform (edit.operation k owner)).run net w
    (s.perform (edit.operation k owner)).exchanges net w = [] ∧ run.asked = [] ∧ run.state = w ∧
      s.EndsIdly k owner edit run.result

/-- Every change of memberships is carried out whole or not at all. -/
theorem whole {ω : Type} (net : Network ω) (s : Store) (k : Kind) (owner : String)
    (edit : MembershipEdit) (w : ω) : s.Whole net k owner edit w := by
  cases s.editing k owner edit with
  | atOnce hnone result hresult h =>
    -- nothing is said in a dialogue that is over at once
    have hsilent : (s.perform (edit.operation k owner)).exchanges net w = [] := by
      rw [h]
      cases result with
      | ok a => rfl
      | error e => rfl
    have hrun : (s.perform (edit.operation k owner)).run net w = ⟨result, w, [], []⟩ := by
      rw [h]
      cases result with
      | ok a => rfl
      | error e => rfl
    constructor
    · rw [hsilent]
      constructor
      · rintro ⟨x, hx, -⟩
        exact absurd hx List.not_mem_nil
      · rintro ⟨e, locals, hreaches⟩
        exact absurd hreaches (hnone e locals)
    · exact fun e locals hreaches => absurd hreaches (hnone e locals)
    · rw [hrun]
      exact fun _ => ⟨hsilent, rfl, rfl, hresult⟩
  | asked e locals hreaches h =>
    have honce : (s.perform (edit.operation k owner)).exchanges net w =
        [.request e.backend (locals.request k e.localId)
          (net.serve e.backend (locals.request k e.localId) w).outcome
          (net.serve e.backend (locals.request k e.localId) w).log] := by
      rw [h, ← bind_pure_comp, Dialogue.demand_bind]
      rw [Dialogue.exchanges]
      cases (net.serve e.backend (locals.request k e.localId) w).outcome with
      | ok a => rfl
      | error err => rfl
    constructor
    · -- the one exchange is the change that was asked for
      rw [honce]
      refine ⟨fun _ => ⟨e, locals, hreaches⟩, fun _ => ⟨_, List.mem_singleton_self _, ?_⟩⟩
      exact locals.editsMemberships_request k e.localId
    · intro e' locals' hreaches'
      obtain ⟨rfl, rfl⟩ := hreaches.unique hreaches'
      exact honce
    · exact fun hnone => absurd hreaches (hnone e locals)

/-- An operation that asks a backend for a change of memberships is one. -/
theorem exists_edit_of_asks {op : Operation} {b : Int32} {r : Request} (h : s.Asks op b r)
    (hr : r.editsMemberships = true) :
    ∃ (k : Kind) (owner : String) (edit : MembershipEdit), op = edit.operation k owner := by
  cases h with
  | replaceMemberships _ _ => exact ⟨_, _, .replace _, rfl⟩
  | changeMemberships _ _ _ => exact ⟨_, _, .change _ _, rfl⟩
  | _ => contradiction

/-- Memberships never cross backends: each change of memberships is carried out whole or not at
all, so that whatever commands are carried out, a backend is asked only for memberships among
entities whose unique ids name that backend. -/
theorem memberships_whole {ω : Type} (net : Network ω) (s : Store) :
    (∀ (k : Kind) (owner : String) (edit : MembershipEdit) (w : ω), s.Whole net k owner edit w) ∧
    (∀ (cs : List Command) (w : ω) (c : Command) (o : Outcome),
      (c, o) ∈ cs.zip (s.course net cs w).1 →
      ∀ x ∈ o.exchanges, x.editsMemberships = true →
        ∃ (k : Kind) (owner : String) (edit : MembershipEdit) (e : EntityId)
          (locals : MembershipEdit), c.operation = edit.operation k owner ∧
            s.Reaches owner edit e locals ∧
            x.request? = some (e.backend, locals.request k e.localId)) := by
  refine ⟨s.whole net, ?_⟩
  intro cs w c o hco x hx hedits
  rcases s.exists_carryOut_of_mem_course net hco with ⟨w', rfl⟩
  have hx : x ∈ (s.perform c.operation).exchanges net w' := hx
  -- only a change of memberships asks for one, and then what is known of it alone applies
  obtain ⟨k, owner, edit, hop⟩ : ∃ (k : Kind) (owner : String) (edit : MembershipEdit),
      c.operation = edit.operation k owner := by
    cases x with
    | request b r outcome log =>
      exact exists_edit_of_asks ((s.asks_perform c.operation).request net w' _ hx b r rfl) hedits
    | support b uri answer => contradiction
  rw [hop] at hx
  have hwhole := s.whole net k owner edit w'
  rcases hwhole.edits_iff.1 ⟨x, hx, hedits⟩ with ⟨e, locals, hreaches⟩
  have honce := hwhole.once e locals hreaches
  rw [honce] at hx
  rw [List.mem_singleton.1 hx]
  exact ⟨k, owner, edit, e, locals, hop, hreaches, rfl⟩

/-- A user joins a group twice over, but not while also leaving a group of another backend. -/
theorem memberships_whole_poles :
    let s : Store := ⟨.standard, .poles⟩
    let w := Registry.poles.ordered.map Directory.new
    let ann := EntityId.encode ⟨-2147483648, "u.1"⟩
    let staff := EntityId.encode ⟨-2147483648, "g.1"⟩
    let away := EntityId.encode ⟨2147483647, "g.1"⟩
    let join := s.perform (.changeMemberships .user ann [staff, staff] [])
    let swap := s.perform (.changeMemberships .user ann [staff] [away, ""])
    (∃ outcome log, join.exchanges Directory.network w =
      [.request (-2147483648) (.changeMemberships .user "u.1" ["g.1", "g.1"] []) outcome log]) ∧
      swap.exchanges Directory.network w = [] ∧
      (swap.run Directory.network w).result = .error (.invalidInput .acrossBackends) := by
  intro s w ann staff away join swap
  have hann : s.registry.decode ann = .ok ⟨-2147483648, "u.1"⟩ :=
    Registry.decode_eq_ok_iff.2 ⟨⟨_, List.mem_cons_self, rfl⟩, by decide, rfl⟩
  have hstaff : s.registry.decode staff = .ok ⟨-2147483648, "g.1"⟩ :=
    Registry.decode_eq_ok_iff.2 ⟨⟨_, List.mem_cons_self, rfl⟩, by decide, rfl⟩
  have haway : s.registry.decode away = .ok ⟨2147483647, "g.1"⟩ :=
    Registry.decode_eq_ok_iff.2
      ⟨⟨_, List.mem_cons_of_mem _ List.mem_cons_self, rfl⟩, by decide, rfl⟩
  have hjoin := (s.memberships_whole Directory.network).1 .user ann (.change [staff, staff] []) w
  have hswap := (s.memberships_whole Directory.network).1 .user ann (.change [staff] [away, ""]) w
  constructor
  · have hboth : s.registry.Localizes (-2147483648) [staff, staff] ["g.1", "g.1"] := by
      simp only [Registry.Localizes, List.map_cons, List.map_nil, hstaff]
    have hreaches : s.Reaches ann (.change [staff, staff] []) ⟨-2147483648, "u.1"⟩
        (.change ["g.1", "g.1"] []) := ⟨hann, ⟨hboth, rfl⟩, rfl⟩
    exact ⟨_, _, hjoin.once _ _ hreaches⟩
  · have hrefusal : s.refusal? .user ann (.change [staff] [away, ""]) = some .acrossBackends := by
      simp [refusal?, offence?, MembershipEdit.ids, hann, hstaff, haway]
    have hnone : ∀ e locals, ¬ s.Reaches ann (.change [staff] [away, ""]) e locals := by
      intro e locals hreaches
      rw [hreaches.refusal?_eq_none] at hrefusal
      contradiction
    rcases hswap.untouched hnone with ⟨hsilent, -, -, hends⟩
    refine ⟨hsilent, ?_⟩
    rcases hends with ⟨reason, hreason, hresult⟩ | ⟨-, hidle, -⟩
    · rw [hrefusal] at hreason
      rw [← Option.some.inj hreason] at hresult
      exact hresult
    · contradiction

end Store

end Federation
