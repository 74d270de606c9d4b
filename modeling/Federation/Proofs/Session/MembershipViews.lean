import Federation.Proofs.Directory.Memberships
import Federation.Proofs.Session.Course
import Federation.Proofs.Store.Recorded

/-!
# Federation.Proofs.Session.MembershipViews — one relation in three views

A client can ask for the groups of a user, for the users of a group, and whether a user is in a
group. Where directories have no faults, the three questions are answered from one relation at
every point of a session, whatever was done before: by the store, by handles or directly.
-/

namespace Federation

open Directory (network)

/-! ## Sessions -/

namespace Session

variable {s : Session}

/-- The store is one over the directories, of which none has faults. -/
structure Sound (s : Session) : Prop where
  grounded : s.store.Over s.directories
  faultless : ∀ d ∈ s.directories, d.Faultless

/-- It stays so if nothing changes but the records of the directories. -/
theorem Sound.of_shells {s' : Session} (h : s.Sound) (hstore : s'.store = s.store)
    (hshells : s'.directories.map Directory.shell = s.directories.map Directory.shell) :
    s'.Sound := by
  constructor
  case grounded =>
    rw [hstore]
    exact h.grounded.of_configs (Directory.configs_of_shells hshells)
  case faultless => exact Directory.faultless_of_shells hshells h.faultless

/-- A session that starts over directories without faults is sound. -/
theorem sound_of_start {config : StoreConfig} {ds : List Directory} {outage : Option String}
    {events : List Event} (hstart : start config ds outage = (.ok s, events))
    (hfaultless : ∀ d ∈ ds, d.Faultless) : s.Sound := by
  obtain ⟨hmade, rfl, -⟩ := of_start hstart
  exact ⟨⟨config, hmade⟩, hfaultless⟩

/-- Every step leaves it sound. -/
theorem Sound.step (h : s.Sound) (name : Option String) (step : Step) :
    (s.step name step).1.Sound := by
  refine h.of_shells (s.store_step name step) ?_
  cases s.proceeds name step with
  | still authority hc hleft hevents => rw [hleft]
  | direct index r present hc hdirect hstep =>
    obtain ⟨ds, hleft, -, rfl | ⟨d, hd, rfl⟩⟩ := s.askDirectly_eq index r present
    · rw [hstep, hleft]
    · -- the directory that was asked is put back in its place
      obtain ⟨hi, rfl⟩ := List.getElem?_eq_some_iff.1 hd
      rw [hstep, hleft, List.map_set, (h.faultless _ (List.getElem_mem hi)).shell_serve r,
        ← List.map_set, List.set_getElem_self]
  | command c hc hstep =>
    rw [hstep, (s.operate_eq name c.operation).2]
    exact Directory.shells_run _ h.faultless

/-- So it is at every point of a session. -/
theorem Sound.after (h : s.Sound) (steps : List (Option String × Step)) :
    (s.after steps).Sound :=
  after_preserves (fun _ name step hs => hs.step name step) h steps

end Session

/-! ## Views -/

/-- Of the handles of some entities of a backend, one has the unique id of an entity exactly if it
is one of these entities. -/
theorem exists_handle_iff {k : Kind} {c : BackendConfig} {ids : List String} {l : String} :
    (∃ h ∈ ids.map (Handle.of c : String → Handle k), h.uniqueId = EntityId.encode ⟨c.id, l⟩) ↔
      l ∈ ids := by
  constructor
  · rintro ⟨h, hh, hraw⟩
    obtain ⟨l', hl', rfl⟩ := List.mem_map.1 hh
    have hsame : l' = l := congrArg EntityId.localId (EntityId.encode_injective hraw)
    exact hsame ▸ hl'
  · intro hl
    exact ⟨_, List.mem_map_of_mem hl, rfl⟩

namespace Session

/-- What a session shows of a user and a group: whether the one is in the other, the groups of the
user and the users of the group. It is all shown, and it all shows one relation. -/
structure Views (s : Session) (user group : String) (v : Bool) (groups : List Group)
    (users : List User) : Prop where
  member : (s.step none (.operate (.isMember user group))).2.result = .ok (.answer (.truth v))
  ofUser : (s.step none (.operate (.memberships .user user))).2.result =
    .ok (.answer (.handles .group groups))
  ofGroup : (s.step none (.operate (.memberships .group group))).2.result =
    .ok (.answer (.handles .user users))
  inGroups : v = true ↔ ∃ h ∈ groups, h.uniqueId = group
  inUsers : v = true ↔ ∃ h ∈ users, h.uniqueId = user
  /-- Nobody is listed twice. -/
  groupsOnce : groups.Nodup
  usersOnce : users.Nodup

/-- A sound session shows one relation. -/
theorem Sound.views {s : Session} (h : s.Sound) {b : Int32} {l m : String} {d : Directory}
    (hat : Directory.at? b s.directories = some d)
    (huser : (d.contents.entities .user).contains l = true)
    (hgroup : (d.contents.entities .group).contains m = true) (hl : l ≠ "") (hm : m ≠ "") :
    ∃ groups users, s.Views (EntityId.encode ⟨b, l⟩) (EntityId.encode ⟨b, m⟩)
      (d.contents.memberships.contains ⟨l, m⟩) groups users := by
  have hd := h.faultless d (Directory.mem_of_at? hat)
  have hregistered := h.grounded.registered hat
  have hreadUser : s.store.registry.decode (EntityId.encode ⟨b, l⟩) = .ok ⟨b, l⟩ :=
    Registry.decode_eq_ok_iff.2 ⟨hregistered, hl, rfl⟩
  have hreadGroup : s.store.registry.decode (EntityId.encode ⟨b, m⟩) = .ok ⟨b, m⟩ :=
    Registry.decode_eq_ok_iff.2 ⟨hregistered, hm, rfl⟩
  have hchecked :=
    (s.store.adjudicated network _ _ s.directories).checked b l m hreadUser hreadGroup
  have hmember := hchecked.of_recorded hd hat
    (List.forall_mem_cons.2 ⟨huser, List.forall_mem_singleton.2 hgroup⟩)
  obtain ⟨c, rfl, hgroups⟩ := Store.result_memberships hreadUser hd hat huser
  obtain ⟨c', hid, husers⟩ := Store.result_memberships hreadGroup hd hat hgroup
  -- both listings are taken from the relation that the check looks at
  have hlistedGroup : m ∈ d.contents.membershipsOf .user l ↔
      d.contents.memberships.contains ⟨l, m⟩ = true := Contents.mem_membershipsOf_iff
  have hlistedUser : l ∈ d.contents.membershipsOf .group m ↔
      d.contents.memberships.contains ⟨l, m⟩ = true := Contents.mem_membershipsOf_iff
  refine ⟨(d.contents.membershipsOf .user l).map (.of c),
    (d.contents.membershipsOf .group m).map (.of c'), ?_⟩
  constructor
  case member => exact result_step_of_ok hmember none
  case ofUser => exact result_step_of_ok hgroups none
  case ofGroup => exact result_step_of_ok husers none
  case inGroups => exact hlistedGroup.symm.trans exists_handle_iff.symm
  case inUsers =>
    rw [← hid]
    exact hlistedUser.symm.trans exists_handle_iff.symm
  case groupsOnce => exact (d.contents.nodup_membershipsOf .user l).map (Handle.of_injective c)
  case usersOnce => exact (d.contents.nodup_membershipsOf .group m).map (Handle.of_injective c')

/-- The three views of memberships agree. In a session with a store over directories without
faults, whatever steps were carried out, for every user and every group that are recorded in one
reachable directory under ids that are not empty: a check says that the user is in the group if and
only if the group is among the groups of the user, and if and only if the user is among the users
of the group; and no handle is listed twice. -/
theorem membership_views {config : StoreConfig} {ds : List Directory} {outage : Option String}
    {events : List Event} {s : Session} (hstart : start config ds outage = (.ok s, events))
    (hfaultless : ∀ d ∈ ds, d.Faultless) (steps : List (Option String × Step)) {b : Int32}
    {l m : String} {d : Directory}
    (hat : Directory.at? b (s.after steps).directories = some d)
    (huser : (d.contents.entities .user).contains l = true)
    (hgroup : (d.contents.entities .group).contains m = true) (hl : l ≠ "") (hm : m ≠ "") :
    ∃ groups users, (s.after steps).Views (EntityId.encode ⟨b, l⟩) (EntityId.encode ⟨b, m⟩)
      (d.contents.memberships.contains ⟨l, m⟩) groups users :=
  ((sound_of_start hstart hfaultless).after steps).views hat huser hgroup hl hm

/-- A user is still in a group after other entities were added, by the store and past it. -/
theorem membership_views_poles :
    let contents := ((Contents.empty.seedUser "ann" "ann" "pw").seedGroup "staff" "staff").join
      ⟨"ann", "staff"⟩
    let ds := Registry.poles.ordered.map fun b => { Directory.new b with contents }
    let s : Session := ⟨⟨.standard, .poles⟩, ds, ⟨[], none⟩, .empty⟩
    let steps : List (Option String × Step) :=
      [(some "bob", .operate (.add .user ⟨[⟨Claim.usernameUri, "bob"⟩], []⟩ none)),
        (none, .addDirectly 0 .group [⟨[⟨Claim.groupnameUri, "guests"⟩]⟩])]
    ∃ groups users, (s.after steps).Views (EntityId.encode ⟨-2147483648, "ann"⟩)
      (EntityId.encode ⟨-2147483648, "staff"⟩) true groups users := by
  intro contents ds s steps
  have hstart : start .standard ds none = (.ok s, (start .standard ds none).2) := by
    apply Prod.ext
    · simp only [start, Store.create_poles ds rfl]
      rfl
    · rfl
  have hfaultless : ∀ d ∈ ds, d.Faultless := fun _ hd => (Directory.of_mem_filled hd).2
  obtain ⟨d, hat, huser, hgroup, hmember⟩ :
      ∃ d, Directory.at? (-2147483648) (s.after steps).directories = some d ∧
        (d.contents.entities .user).contains "ann" = true ∧
        (d.contents.entities .group).contains "staff" = true ∧
        d.contents.memberships.contains ⟨"ann", "staff"⟩ = true :=
    ⟨_, rfl, by decide, by decide, rfl⟩
  rw [← hmember]
  exact membership_views hstart hfaultless steps hat huser hgroup (by decide) (by decide)

end Session

end Federation
