import Federation.Proofs.Directory.Named
import Federation.Proofs.Store.Interleaving
import Federation.Proofs.Store.InvalidInput
import Federation.Proofs.Store.Requests

/-!
# Federation.Proofs.Store.Handles — what the handles of the store are good for

Every handle that the store gives out was vouched for: it is that of an entity which a backend of
the store reported while the operation was carried out, and it carries that backend's declared
name. Such a handle leads back to the entity, unless its local id is the empty text, which the
store passes on but does not read back. Directories that start without empty ids never report one.
-/

namespace Federation

/-- The handles in an answer. -/
def Answer.handedOut : Answer → List ((k : Kind) × Handle k)
  | .handle k h => [⟨k, h⟩]
  | .handles k hs => hs.map fun h => ⟨k, h⟩
  | _ => []

namespace Store

open Dialogue (ofExcept demand Grants)

variable {s : Store} {k : Kind}

/-! ## Provenance -/

/-- The handle is that of an entity that a backend of the store reported in the exchanges. -/
def Vouches (s : Store) (k : Kind) (exchanges : List Exchange) (h : Handle k) : Prop :=
  ∃ b ∈ s.registry.ordered, ∃ l, (b.id, k, l) ∈ exchanges.flatMap Exchange.reports ∧ h = .of b l

theorem Vouches.cons {exchanges : List Exchange} {h : Handle k} (x : Exchange)
    (hv : s.Vouches k exchanges h) : s.Vouches k (x :: exchanges) h := by
  rcases hv with ⟨b, hb, l, hl, hh⟩
  refine ⟨b, hb, l, ?_, hh⟩
  rw [List.flatMap_cons]
  exact List.mem_append_right _ hl

/-- A report in the first exchange vouches for a handle. -/
theorem vouches_of_reported {b : BackendConfig} (hb : b ∈ s.registry.ordered) {r : Request}
    {a : r.Answer} {log : List Question} {exchanges : List Exchange} {l : String}
    (hl : (k, l) ∈ r.reported a) :
    s.Vouches k (.request b.id r (.ok a) log :: exchanges) (.of b l) := by
  refine ⟨b, hb, l, ?_, rfl⟩
  rw [List.flatMap_cons]
  exact List.mem_append_left _ (List.mem_map_of_mem hl)

/-- Everything in a list of handles is vouched for. -/
def VouchesAll (s : Store) (k : Kind) (exchanges : List Exchange) (hs : List (Handle k)) : Prop :=
  ∀ h ∈ hs, s.Vouches k exchanges h

/-- A listing vouches for the handles of what is listed. -/
theorem vouchesAll_of_reported {b : BackendConfig} (hb : b ∈ s.registry.ordered) {r : Request}
    {a : r.Answer} {log : List Question} {exchanges : List Exchange} {ls : List String}
    (hls : ∀ l ∈ ls, (k, l) ∈ r.reported a) :
    s.VouchesAll k (.request b.id r (.ok a) log :: exchanges) (ls.map (.of b)) := by
  intro h hh
  rcases List.mem_map.1 hh with ⟨l, hl, rfl⟩
  exact vouches_of_reported hb (hls l hl)

/-- What follows after an entity was found to be there rests on that report. -/
theorem grants_ensurePresent {α : Type} {P : List Exchange → α → Prop} {p : Place}
    {uniqueId : String} {f : Unit → Dialogue α}
    (hf : ∀ log, (f ()).Grants fun exchanges =>
      P (.request p.backend.id (.isPresent k p.localId) (.ok true) log :: exchanges)) :
    (ensurePresent k p uniqueId >>= f).Grants P := by
  unfold ensurePresent
  rw [bind_assoc]
  apply Grants.demand_bind
  intro present log
  cases present with
  | false => trivial
  | true => exact hf log

theorem grants_get (s : Store) (uniqueId : String) :
    (s.get k uniqueId).Grants (s.Vouches k) := by
  refine .guard fun p hp => grants_ensurePresent fun log => ?_
  exact vouches_of_reported (mem_of_locate hp) (List.mem_singleton_self _)

theorem grants_getByClaim (s : Store) (claim : Claim) (name : Option String) :
    (s.getByClaim k claim name).Grants (s.Vouches k) := by
  refine .guard fun _ _ => .guard fun b hb => .demand_bind fun found log => ?_
  cases found with
  | none => trivial
  | some l => exact vouches_of_reported (mem_of_resolve hb) (List.mem_singleton_self _)

theorem grants_list (s : Store) (filter : Filter) (offset length : Int32) (name : Option String) :
    (s.list k filter offset length name).Grants (s.VouchesAll k) := by
  refine .guard fun _ _ => .guard fun window _ => ?_
  cases window with
  | none => exact fun _ hh => absurd hh List.not_mem_nil
  | some page =>
    refine .guard fun b hb => .demand_bind fun ls log => ?_
    exact vouchesAll_of_reported (mem_of_resolve hb) fun l hl => List.mem_map_of_mem hl

theorem grants_memberships (s : Store) (uniqueId : String) :
    (s.memberships k uniqueId).Grants (s.VouchesAll k.other) := by
  refine .guard fun p hp => grants_ensurePresent fun _ => .demand_bind fun ls log => ?_
  intro h hh
  -- the report that the owner is there comes first and vouches for nobody else
  apply Vouches.cons
  exact vouchesAll_of_reported (mem_of_locate hp) (fun l hl => List.mem_map_of_mem hl) h hh

theorem grants_add (s : Store) (payload : Payload k) (name : Option String) :
    (s.add k payload name).Grants (s.Vouches k) := by
  refine .guard fun _ _ => .guard fun b hb => .demand_bind fun l log => ?_
  exact vouches_of_reported (mem_of_resolve hb) (List.mem_singleton_self _)

theorem grants_addAll (s : Store) (payloads : List (Payload k)) (name : Option String) :
    (s.addAll k payloads name).Grants (s.VouchesAll k) := by
  refine .guard fun _ _ => .guard fun b hb => .demand_bind fun ls log => ?_
  exact vouchesAll_of_reported (mem_of_resolve hb) fun l hl => List.mem_map_of_mem hl

/-- A login that succeeds after a search rests on the report of the backend that accepted it. -/
theorem grants_scan (s : Store) (claim : Claim) (credentials : List Credential)
    {l : List BackendConfig} (hl : ∀ b ∈ l, b ∈ s.registry.ordered) :
    (scan claim credentials l).Grants (s.Vouches .user) := by
  induction l with
  | nil => trivial
  | cons b rest ih =>
    rcases List.forall_mem_cons.1 hl with ⟨hb, hrest⟩
    -- what a backend said before the search went on takes nothing away from a later report
    rintro (_ | _)
    · exact (ih hrest).mono fun _ _ hv => hv.cons _
    · rintro (e | localId) log
      · show Grants _ (if e.isAuthentication then _ else _)
        split
        · exact (ih hrest).mono fun _ _ hv => (hv.cons _).cons _
        · trivial
      · exact (vouches_of_reported hb (List.mem_singleton_self _)).cons _

theorem grants_authenticate (s : Store) (claim : Claim) (credentials : List Credential)
    (name : Option String) : (s.authenticate claim credentials name).Grants (s.Vouches .user) := by
  unfold authenticate
  split
  · trivial
  · split
    · refine .guard fun b hb => ?_
      rintro (e | localId) log
      · show Grants _ (if e.isAuthentication then _ else _)
        split
        · trivial
        · trivial
      · exact vouches_of_reported (Registry.byName_eq_ok_iff.1 hb).1 (List.mem_singleton_self _)
    · exact s.grants_scan claim credentials fun _ hb => hb

/-- All handles in an answer are vouched for. -/
def VouchesFor (s : Store) (exchanges : List Exchange) (a : Answer) : Prop :=
  ∀ h ∈ a.handedOut, s.Vouches h.1 exchanges h.2

/-- An answer with one handle. -/
theorem grants_handle {d : Dialogue (Handle k)} (hd : d.Grants (s.Vouches k)) :
    (Answer.handle k <$> d).Grants s.VouchesFor := by
  refine (hd.mono fun exchanges h hv => ?_).map
  intro h' hh'
  rw [List.mem_singleton.1 hh']
  exact hv

/-- An answer with several handles. -/
theorem grants_handles {d : Dialogue (List (Handle k))} (hd : d.Grants (s.VouchesAll k)) :
    (Answer.handles k <$> d).Grants s.VouchesFor := by
  refine (hd.mono fun exchanges hs hv => ?_).map
  intro h' hh'
  rcases List.mem_map.1 hh' with ⟨h, hh, rfl⟩
  exact hv h hh

/-- An answer without handles. -/
theorem grants_nothing {α : Type} {d : Dialogue α} {f : α → Answer}
    (hf : ∀ a, (f a).handedOut = []) : (f <$> d).Grants s.VouchesFor := by
  refine Grants.map (.of_forall fun exchanges a h hh => ?_)
  rw [hf a] at hh
  contradiction

/-- Every handle that an operation gives out is vouched for. -/
theorem grants_perform (s : Store) (op : Operation) : (s.perform op).Grants s.VouchesFor := by
  cases op with
  | authenticate claim credentials name =>
    exact grants_handle (s.grants_authenticate claim credentials name)
  | get k uniqueId => exact grants_handle (s.grants_get uniqueId)
  | getByClaim k claim name => exact grants_handle (s.grants_getByClaim claim name)
  | list k filter offset length name =>
    exact grants_handles (s.grants_list filter offset length name)
  | memberships k uniqueId => exact grants_handles (s.grants_memberships uniqueId)
  | add k payload name => exact grants_handle (s.grants_add payload name)
  | addAll k payloads name => exact grants_handles (s.grants_addAll payloads name)
  | _ => exact grants_nothing fun _ => rfl

end Store

/-! ## Refused ids -/

/-- The unique ids that an operation is given. -/
def Operation.uniqueIds : Operation → List String
  | get _ uniqueId | memberships _ uniqueId | claims _ uniqueId | claimsFor _ uniqueId _
  | replaceClaims _ uniqueId _ | changeClaims _ uniqueId _ _ | replaceCredentials uniqueId _
  | changeCredentials uniqueId _ _ | delete _ uniqueId => [uniqueId]
  | isMember user group => [user, group]
  | replaceMemberships _ uniqueId others => uniqueId :: others
  | changeMemberships _ uniqueId added removed => uniqueId :: (added ++ removed)
  | authenticate .. | getByClaim .. | list .. | add .. | addAll .. => []

/-- The argument was refused for being no unique id. -/
def InvalidInput.isMalformedId : InvalidInput → Bool
  | uniqueId | entityId _ => true
  | _ => false

/-- The error says that a text is no unique id. -/
def StoreError.isMalformedId : StoreError → Bool
  | invalidInput reason => reason.isMalformedId
  | _ => false

namespace Store

open Dialogue (ofExcept demand)

variable {s : Store} {k : Kind} {uniqueIds : List String}

/-- The text is not read as an entity of the store. -/
def Unread (s : Store) (uniqueId : String) : Prop :=
  ∀ e, s.registry.decode uniqueId ≠ .ok e

/-- If the error says that a text is no unique id, one of these texts is none. -/
def BlamesUnread (s : Store) (uniqueIds : List String) (e : StoreError) : Prop :=
  e.isMalformedId = true → ∃ raw ∈ uniqueIds, s.Unread raw

/-- Other errors blame no id. -/
theorem blamesUnread_of_false {e : StoreError} (h : e.isMalformedId = false) :
    s.BlamesUnread uniqueIds e := by
  intro hmalformed
  rw [h] at hmalformed
  contradiction

/-- An entity is located unless its id is not read. -/
theorem fails_locate {α : Type} {uniqueId : String} {f : Place → Dialogue α}
    (hmem : uniqueId ∈ uniqueIds) (hf : ∀ p, (f p).Fails (s.BlamesUnread uniqueIds)) :
    (ofExcept (s.locate k uniqueId) >>= f).Fails (s.BlamesUnread uniqueIds) := by
  refine .guard ?_ fun p _ => hf p
  intro e he _
  refine ⟨uniqueId, hmem, ?_⟩
  intro entity hread
  rcases locate_of_decode hread k with ⟨b, -, -, hlocate⟩
  rw [he] at hlocate
  contradiction

/-- Ids at the other ends of memberships are read, or one of them is not. -/
theorem fails_localIdsIn {α : Type} {owner : Int32} {others : List String}
    {f : List String → Dialogue α} (hsub : ∀ raw ∈ others, raw ∈ uniqueIds)
    (hf : ∀ ls, (f ls).Fails (s.BlamesUnread uniqueIds)) :
    (ofExcept (s.localIdsIn owner others) >>= f).Fails (s.BlamesUnread uniqueIds) := by
  refine .guard ?_ fun ls _ => hf ls
  intro e he hmalformed
  rcases s.localIdsIn_cases owner others with ⟨reason, hreason, herror⟩ | ⟨-, ls, -, hok⟩
  · rw [he] at herror
    injection herror with herror
    subst herror
    rcases List.exists_of_findSome?_eq_some hreason with ⟨raw, hraw, hoffence⟩
    refine ⟨raw, hsub raw hraw, ?_⟩
    intro entity hread
    -- an id that is read can only be one of another backend
    simp only [offence?, hread] at hoffence
    split at hoffence
    · contradiction
    · injection hoffence with hoffence
      rw [← hoffence] at hmalformed
      contradiction
  · rw [he] at hok
    contradiction

theorem fails_ensurePresent {α : Type} {p : Place} {uniqueId : String} {f : Unit → Dialogue α}
    (hf : (f ()).Fails (s.BlamesUnread uniqueIds)) :
    (ensurePresent k p uniqueId >>= f).Fails (s.BlamesUnread uniqueIds) := by
  unfold ensurePresent
  rw [bind_assoc]
  refine .demand_bind (fun _ => blamesUnread_of_false rfl) fun present => ?_
  cases present with
  | false => exact Dialogue.fails_fail (blamesUnread_of_false rfl)
  | true => exact hf

/-- A request that must succeed blames no id. -/
theorem fails_demand (task : Task) (b : Int32) (r : Request) :
    (demand task b r).Fails (s.BlamesUnread uniqueIds) :=
  .demand fun _ => blamesUnread_of_false rfl

/-- Where there may be nothing to do. -/
theorem fails_unlessIdle {α : Type} {d : Dialogue α} {a : α} {c : Prop} [Decidable c]
    (h : d.Fails (s.BlamesUnread uniqueIds)) :
    (if c then .done a else d).Fails (s.BlamesUnread uniqueIds) := by
  by_cases hc : c
  · rw [if_pos hc]
    exact Dialogue.fails_done a
  · rw [if_neg hc]
    exact h

/-- An operation on entities blames an id only if one of its ids is not read. -/
theorem fails_perform (s : Store) {op : Operation} (hop : op.uniqueIds ≠ []) :
    (s.perform op).Fails (s.BlamesUnread op.uniqueIds) := by
  -- ids are blamed where they are read, and nowhere after that
  cases op with
  | authenticate _ _ _ | getByClaim _ _ _ | list _ _ _ _ _ | add _ _ _ | addAll _ _ _ =>
    exact absurd rfl hop
  | get k uniqueId =>
    refine .map _ (fails_locate (List.mem_singleton_self _) fun p => ?_)
    exact fails_ensurePresent (Dialogue.fails_done _)
  | memberships k uniqueId =>
    refine .map _ (fails_locate (List.mem_singleton_self _) fun p => ?_)
    exact fails_ensurePresent (.map _ (fails_demand _ _ _))
  | isMember user group =>
    refine .map _ (fails_locate List.mem_cons_self fun u => ?_)
    refine fails_locate (List.mem_cons_of_mem _ List.mem_cons_self) fun g => ?_
    by_cases hone : u.backend.id = g.backend.id
    · rw [if_pos hone]
      exact fails_ensurePresent (fails_ensurePresent (fails_demand _ _ _))
    · rw [if_neg hone]
      exact Dialogue.fails_done false
  | claims k uniqueId =>
    exact .map _ (fails_locate (List.mem_singleton_self _) fun p => fails_demand _ _ _)
  | claimsFor k uniqueId metas =>
    refine .map _ (fails_locate (List.mem_singleton_self _) fun p => ?_)
    exact fails_unlessIdle (fails_demand _ _ _)
  | replaceClaims k uniqueId claims =>
    exact .map _ (fails_locate (List.mem_singleton_self _) fun p => fails_demand _ _ _)
  | changeClaims k uniqueId added removed =>
    refine .map _ (fails_locate (List.mem_singleton_self _) fun p => ?_)
    exact fails_unlessIdle (fails_demand _ _ _)
  | replaceCredentials user credentials =>
    exact .map _ (fails_locate (List.mem_singleton_self _) fun p => fails_demand _ _ _)
  | changeCredentials user added removed =>
    refine .map _ (fails_locate (List.mem_singleton_self _) fun p => ?_)
    exact fails_unlessIdle (fails_demand _ _ _)
  | delete k uniqueId =>
    refine .map _ (fails_locate (List.mem_singleton_self _) fun p => ?_)
    exact .demand_bind (fun _ => blamesUnread_of_false rfl) fun _ => Dialogue.fails_done ()
  | replaceMemberships k uniqueId others =>
    refine .map _ (fails_locate List.mem_cons_self fun p => ?_)
    refine fails_localIdsIn (fun raw hraw => List.mem_cons_of_mem _ hraw) fun ls => ?_
    exact fails_demand _ _ _
  | changeMemberships k uniqueId added removed =>
    refine .map _ (fails_locate List.mem_cons_self fun p => fails_unlessIdle ?_)
    refine fails_localIdsIn (fun raw hraw => ?_) fun ls => ?_
    · exact List.mem_cons_of_mem _ (List.mem_append_left _ hraw)
    refine fails_localIdsIn (fun raw hraw => ?_) fun ms => ?_
    · exact List.mem_cons_of_mem _ (List.mem_append_right _ hraw)
    exact fails_demand _ _ _

/-! ## Directories without empty ids -/

/-- The store asks for nothing with an empty id, as it reads none. -/
theorem Asks.named {op : Operation} {b : Int32} {r : Request} (h : s.Asks op b r) :
    "" ∉ r.ids := by
  have hone : ∀ {raw l}, s.registry.decode raw = .ok ⟨b, l⟩ → "" ∉ [l] := by
    intro raw l hread hmem
    exact (Registry.decode_eq_ok_iff.1 hread).2.1 (List.mem_singleton.1 hmem).symm
  cases h with
  | authenticate _ | find _ | list _ _ | add _ | addAll _ => exact List.not_mem_nil
  | get h | ownerPresent h | memberships h | claims h | claimsFor h | replaceClaims h
  | changeClaims h | replaceCredentials h | changeCredentials h | delete h => exact hone h
  | userPresent hu _ => exact hone hu
  | groupPresent _ hg => exact hone hg
  | isMember hu hg =>
    exact List.not_mem_cons_of_ne_of_not_mem (List.ne_of_not_mem_cons (hone hu)) (hone hg)
  | replaceMemberships h hothers =>
    refine List.not_mem_cons_of_ne_of_not_mem (List.ne_of_not_mem_cons (hone h)) ?_
    exact fun hmem => hothers.ne_empty _ hmem rfl
  | changeMemberships h hadd hremove =>
    refine List.not_mem_cons_of_ne_of_not_mem (List.ne_of_not_mem_cons (hone h)) ?_
    intro hmem
    rcases List.mem_append.1 hmem with hmem | hmem
    · exact hadd.ne_empty _ hmem rfl
    · exact hremove.ne_empty _ hmem rfl

/-- A command leaves directories without empty ids as such, and hears of no empty id. -/
theorem named_carryOut (s : Store) (c : Command) {ds : List Directory}
    (h : Directory.AllNamed ds) :
    Directory.AllNamed (s.carryOut Directory.network c ds).2 ∧
      ∀ x ∈ (s.obey c).exchanges Directory.network ds, ∀ e ∈ x.reports, e.2.2 ≠ "" := by
  refine (s.asks_perform c.operation).preserves (I := Directory.AllNamed) ?_ ?_ h
  · -- a request that the store puts names no empty id, so the reply brings none either
    intro b r ds hr hds
    rcases Directory.named_serveAt hds hr.named b with ⟨hstate, hreported⟩
    refine ⟨hstate, ?_⟩
    intro e he
    cases houtcome : (Directory.network.serve b r ds).outcome with
    | error err =>
      rw [houtcome] at he
      contradiction
    | ok a =>
      rw [houtcome] at he
      rcases List.mem_map.1 he with ⟨p, hp, rfl⟩
      exact hreported a houtcome p hp
  · intro b uri answer e he
    contradiction

/-! ## Use of handles -/

/-- The handle leads back to the entity with the local id at the backend. -/
structure Usable (s : Store) (h : Handle k) (b : BackendConfig) (l : String) : Prop where
  read : s.registry.decode h.uniqueId = .ok ⟨b.id, l⟩
  /-- If an operation on it complains of a malformed id, it is another one. -/
  accepted : ∀ (ω : Type) (net : Network ω) (op : Operation) (w : ω) (e : StoreError),
    h.uniqueId ∈ op.uniqueIds → ((s.perform op).run net w).result = .error e →
    e.isMalformedId = true → ∃ raw ∈ op.uniqueIds, raw ≠ h.uniqueId ∧ s.Unread raw

/-- Handles of entities with a local id are usable. -/
theorem usable_of {b : BackendConfig} (hb : b ∈ s.registry.ordered) {l : String} (hl : l ≠ "") :
    s.Usable (.of b l : Handle k) b l := by
  have hread : s.registry.decode (Handle.of b l : Handle k).uniqueId = .ok ⟨b.id, l⟩ :=
    Registry.decode_eq_ok_iff.2 ⟨⟨b, hb, rfl⟩, hl, rfl⟩
  refine ⟨hread, ?_⟩
  intro ω net op w e hop he hmalformed
  have hfails := s.fails_perform (List.ne_nil_of_mem hop)
  rcases Dialogue.Ends.result hfails net w e he hmalformed with ⟨raw, hraw, hunread⟩
  refine ⟨raw, hraw, ?_, hunread⟩
  rintro rfl
  exact hunread _ hread

/-- Every handle that the store gives out, in whatever state of its directories, is that of an
entity which a backend reported, under that backend's declared name. It leads back to the entity,
unless its local id is the empty text, which is passed on but not read back; directories that
start without empty ids report none. -/
theorem handles_usable (s : Store) (ds : List Directory) (cs : List Command) (c : Command)
    (a : Answer) :
    let w := (s.course Directory.network cs ds).2
    ((s.obey c).run Directory.network w).result = .ok a → ∀ h ∈ a.handedOut,
      ∃ b ∈ s.registry.ordered, ∃ l,
        (b.id, h.1, l) ∈ ((s.obey c).exchanges Directory.network w).flatMap Exchange.reports ∧
        h.2.uniqueId = EntityId.encode ⟨b.id, l⟩ ∧ h.2.backendName = b.name ∧
        (l ≠ "" → s.Usable h.2 b l) ∧
        (l = "" → s.registry.decode h.2.uniqueId = .error (.invalidInput .uniqueId)) ∧
        (Directory.AllNamed ds → l ≠ "") := by
  intro w ha h hh
  have hvouched : s.VouchesFor ((s.obey c).exchanges Directory.network w) a :=
    (s.grants_perform c.operation).run Directory.network ha
  rcases hvouched h hh with ⟨b, hb, l, hreported, hof⟩
  refine ⟨b, hb, l, hreported, ?_, ?_, ?_, ?_, ?_⟩
  · rw [hof]
    rfl
  · rw [hof]
    rfl
  · intro hl
    rw [hof]
    exact usable_of hb hl
  · intro hl
    rw [hof]
    exact Registry.decode_encode_of_empty s.registry hl
  · intro hnamed
    -- no command on the way here has brought an empty id in
    have hstep : ∀ c w, Directory.AllNamed w →
        Directory.AllNamed (s.carryOut Directory.network c w).2 :=
      fun c w hw => (s.named_carryOut c hw).1
    have hw : Directory.AllNamed w := s.course_preserves Directory.network hstep cs hnamed
    rcases List.mem_flatMap.1 hreported with ⟨x, hx, hl⟩
    exact (s.named_carryOut c hw).2 x hx _ hl

/-- A group that is found by a listing, where no id is empty. -/
theorem handles_usable_staff :
    let s : Store := ⟨.standard, .poles⟩
    let contents := ((Contents.empty.seedUser "u.1" "ann" "pw").seedGroup "g.1" "staff").join
      ⟨"u.1", "g.1"⟩
    let ds := Registry.poles.ordered.map fun b => { Directory.new b with contents }
    let staff : Group := ⟨EntityId.encode ⟨-2147483648, "g.1"⟩, "north"⟩
    ((s.obey (.operate (.list .group .all 0 (-1) none))).run Directory.network ds).result =
      .ok (.handles .group [staff]) ∧
    ∃ b ∈ s.registry.ordered, ∃ l, staff.backendName = b.name ∧ s.Usable staff b l := by
  intro s contents ds staff
  have hlisted : ((s.obey (.operate (.list .group .all 0 (-1) none))).run Directory.network
      ds).result = .ok (.handles .group [staff]) := rfl
  refine ⟨hlisted, ?_⟩
  have hcontents : contents.Named := by
    have huser : (Contents.empty.seedUser "u.1" "ann" "pw").Named :=
      Contents.named_empty.seedUser (by decide) "ann" "pw"
    refine (huser.seedGroup (by decide) "staff").join fun k => ?_
    cases k with
    | user => decide
    | group => decide
  have hnamed : Directory.AllNamed ds := by
    intro d hd
    rcases List.mem_map.1 hd with ⟨b, -, rfl⟩
    exact hcontents
  obtain ⟨b, hb, l, -, -, hname, husable, -, hl⟩ :=
    s.handles_usable ds [] _ _ hlisted ⟨.group, staff⟩ (List.mem_singleton_self _)
  exact ⟨b, hb, l, hname, husable (hl hnamed)⟩

/-- A user without a local id is listed, under an id that the store then refuses. -/
theorem handle_unusable_of_unnamed :
    let s : Store := ⟨.standard, .poles⟩
    let contents := Contents.empty.seedUser "" "ann" "pw"
    let ds := Registry.poles.ordered.map fun b => { Directory.new b with contents }
    let ann : User := ⟨EntityId.encode ⟨-2147483648, ""⟩, "north"⟩
    ((s.obey (.operate (.list .user .all 0 (-1) none))).run Directory.network ds).result =
      .ok (.handles .user [ann]) ∧
    s.registry.decode ann.uniqueId = .error (.invalidInput .uniqueId) ∧
    ((s.obey (.act .user ann .claims)).run Directory.network ds).result =
      .error (.invalidInput .uniqueId) := by
  intro s contents ds ann
  have hread : s.registry.decode ann.uniqueId = .error (.invalidInput .uniqueId) :=
    Registry.decode_encode_of_empty s.registry rfl
  refine ⟨rfl, hread, ?_⟩
  have hclaims : s.claims .user ann.uniqueId = .fail (.invalidInput .uniqueId) := by
    rw [claims, locate_of_decode_error hread]
    rfl
  show ((Answer.claims <$> s.claims .user ann.uniqueId).run Directory.network ds).result = _
  rw [hclaims]
  rfl

end Store

end Federation
