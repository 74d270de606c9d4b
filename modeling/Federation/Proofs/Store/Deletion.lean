import Federation.Proofs.Directory.Deletion
import Federation.Proofs.Store.MembershipUpdate
import Federation.Proofs.Store.Recorded

/-!
# Federation.Proofs.Store.Deletion — what can be seen of an entity that was deleted

An entity is spread over the records of a directory, and there are many ways to read them. After a
deletion none of them leads to the entity any more: questions that name it are answered that it is
not there, and no answer to another question shows it. All other records are as they were.
-/

namespace Federation

open Directory (network)

/-! ## Questions about absent entities -/

section Absent

variable {d : Directory} {b : Int32} {ds ds' : List Directory}

/-- A check stops at the first party that is not recorded. -/
theorem Checked.of_absent {l m : String} (front : List Party) {rest : List Party} {p : Party}
    {xs : List Exchange} {result : Except StoreError Answer}
    (h : Checked network b l m (front ++ p :: rest) ds xs result ds') (hd : d.Faultless)
    (hat : Directory.at? b ds = some d)
    (hfront : ∀ q ∈ front, (d.contents.entities q.kind).contains q.localId = true)
    (hp : (d.contents.entities p.kind).contains p.localId = false) :
    result = .error (.notFound (.entity p.kind p.uniqueId)) := by
  induction front generalizing xs with
  | nil =>
    cases h with
    | absent hserve => rfl
    | unclear hserve | present hserve _ =>
      rw [hd.serve_isPresent hat, hp] at hserve
      cases hserve
  | cons q rest ih =>
    obtain ⟨hq, hothers⟩ := List.forall_mem_cons.1 hfront
    cases h with
    | unclear hserve | absent hserve =>
      rw [hd.serve_isPresent hat, hq] at hserve
      cases hserve
    | present hserve hrest =>
      rw [hd.serve_isPresent hat] at hserve
      injection hserve with _ hsame
      subst hsame
      exact ih hrest hothers

end Absent

namespace Store

variable {s : Store} {k : Kind} {uniqueId l : String} {c : BackendConfig} {d : Directory}
  {ds : List Directory}

/-- Whatever needs an entity to be there ends with the answer that it is not. -/
theorem result_of_absent {α : Type} {f : Unit → Dialogue α} (hd : d.Faultless)
    (hat : Directory.at? c.id ds = some d)
    (habsent : (d.contents.entities k).contains l = false) :
    ((ensurePresent k ⟨c, l⟩ uniqueId >>= f).run network ds).result =
      .error (.notFound (.entity k uniqueId)) := by
  have hserve := hd.serve_isPresent hat k l
  rw [ensurePresent_bind]
  simp only [Dialogue.run, hserve, habsent]

/-- A single entity is asked for by asking whether it is there. -/
theorem perform_get (hlocate : s.locate k uniqueId = .ok ⟨c, l⟩) :
    s.perform (.get k uniqueId) = ensurePresent k ⟨c, l⟩ uniqueId >>= fun _ =>
      .done (.handle k (.of c l)) := by
  show Answer.handle k <$> s.get k uniqueId = _
  rw [get, hlocate]
  show Answer.handle k <$> (ensurePresent k ⟨c, l⟩ uniqueId >>= _) = _
  rw [map_bind]
  rfl

/-- A deletion is one request. -/
theorem perform_delete {e : EntityId} (hread : s.registry.decode uniqueId = .ok e) :
    ∃ name, s.perform (.delete k uniqueId) = .ask e.backend (.delete k e.localId) fun
      | .ok _ => .note (.deleted k name) (.done .nothing)
      | .error err => .fail (.backendFailure (.delete k uniqueId) err) := by
  obtain ⟨c, -, hid, hlocate⟩ := locate_of_decode hread k
  refine ⟨c.name, ?_⟩
  show (fun _ => Answer.nothing) <$> s.delete k uniqueId = _
  rw [delete, hlocate, ← hid]
  refine congrArg (Dialogue.ask c.id (.delete k e.localId)) (funext ?_)
  rintro (err | _)
  · rfl
  · rfl

/-! ## Reports -/

/-- What is reported to an operation that only reads is mentioned in the records. -/
theorem mentions_of_isReading {op : Operation} (hop : op.isReading = true)
    (hfaultless : ∀ d ∈ ds, d.Faultless) :
    ∀ x ∈ (s.perform op).exchanges network ds, ∀ e ∈ x.reports,
      ∃ d, Directory.at? e.1 ds = some d ∧ d.contents.Mentions e.2.1 e.2.2 := by
  refine ((puts_of_isReading hop).preserves (I := (· = ds)) ?_ ?_ rfl).2
  · rintro b r w hr rfl
    refine ⟨Directory.state_serveAt_of_read hr hfaultless, ?_⟩
    intro e he
    cases houtcome : (network.serve b r w).outcome with
    | error err =>
      rw [houtcome] at he
      contradiction
    | ok a =>
      rw [houtcome] at he
      obtain ⟨⟨k, l⟩, hl, rfl⟩ := List.mem_map.1 he
      exact Directory.mentions_of_serveAt hr houtcome hl
  · intro b uri answer e he
    contradiction

/-- An entity that is not mentioned in the records of its directory is not handed out. -/
theorem not_handedOut {b : Int32} (hfaultless : ∀ d ∈ ds, d.Faultless)
    (hat : Directory.at? b ds = some d) (hnone : ¬ d.contents.Mentions k l) {op : Operation}
    (hop : op.isReading = true) {a : Answer}
    (ha : ((s.perform op).run network ds).result = .ok a) :
    ∀ h ∈ a.handedOut, h.1 = k → h.2.uniqueId ≠ EntityId.encode ⟨b, l⟩ := by
  have hvouched : s.VouchesFor ((s.perform op).exchanges network ds) a :=
    (s.grants_perform op).run network ha
  rintro ⟨k', h⟩ hh hk hid
  obtain ⟨c, -, l', hreported, hof⟩ := hvouched ⟨k', h⟩ hh
  obtain ⟨x, hx, he⟩ := List.mem_flatMap.1 hreported
  obtain ⟨d', hat', hmentions⟩ := mentions_of_isReading hop hfaultless x hx _ he
  -- the handle is the one of this very entity
  have hsame : EntityId.encode ⟨c.id, l'⟩ = EntityId.encode ⟨b, l⟩ := by
    rw [← hid]
    exact (congrArg Handle.uniqueId hof).symm
  have hentity : (⟨c.id, l'⟩ : EntityId) = ⟨b, l⟩ := EntityId.encode_injective hsame
  injection hentity with hbackend hlocal
  subst hbackend hlocal hk
  rw [hat] at hat'
  rw [Option.some.inj hat'] at hnone
  exact hnone hmentions

/-! ## Deletions -/

/-- The check of a membership, from an entity and one of the other kind. -/
def relation : Kind → String → String → Operation
  | .user, user, group => .isMember user group
  | .group, group, user => .isMember user group

/-- The entity with the local id `l` at the backend `b` can no more be seen. -/
structure Gone (s : Store) (ds : List Directory) (k : Kind) (uniqueId : String) (b : Int32)
    (l : String) : Prop where
  get : ((s.perform (.get k uniqueId)).run network ds).result =
    .error (.notFound (.entity k uniqueId))
  memberships : ((s.perform (.memberships k uniqueId)).run network ds).result =
    .error (.notFound (.entity k uniqueId))
  /-- It is in no relation to an entity of the backend that is recorded and whose id is read. -/
  related : ∀ other m d, s.registry.decode other = .ok ⟨b, m⟩ → Directory.at? b ds = some d →
    (d.contents.entities k.other).contains m = true →
    ((s.perform (relation k uniqueId other)).run network ds).result =
      .error (.notFound (.entity k uniqueId))
  /-- An id of the other end that is not read is refused before anybody is asked. -/
  unread : ∀ other, s.Unread other → ∃ reason,
    ((s.perform (relation k uniqueId other)).run network ds).result = .error (.invalidInput reason)
  /-- No listing, look-up or login hands it out. -/
  hidden : ∀ op, op.isReading = true → ∀ a, ((s.perform op).run network ds).result = .ok a →
    ∀ h ∈ a.handedOut, h.1 = k → h.2.uniqueId ≠ uniqueId
  /-- It is not deleted another time. -/
  again : ((s.perform (.delete k uniqueId)).run network ds).result =
    .error (.backendFailure (.delete k uniqueId) (.notFound k l))
  unchanged : ((s.perform (.delete k uniqueId)).run network ds).state = ds

/-- A relation to an absent entity is not found. -/
theorem result_relation_of_absent {b : Int32} {other m : String}
    (hread : s.registry.decode uniqueId = .ok ⟨b, l⟩) (hd : d.Faultless)
    (hat : Directory.at? b ds = some d) (habsent : (d.contents.entities k).contains l = false)
    (hother : s.registry.decode other = .ok ⟨b, m⟩)
    (hpresent : (d.contents.entities k.other).contains m = true) :
    ((s.perform (relation k uniqueId other)).run network ds).result =
      .error (.notFound (.entity k uniqueId)) := by
  cases k with
  | user =>
    have hchecked := (s.adjudicated network uniqueId other ds).checked b l m hread hother
    exact Checked.of_absent [] hchecked hd hat (fun _ hq => absurd hq List.not_mem_nil) habsent
  | group =>
    -- the user is asked for first, and is there
    have hchecked := (s.adjudicated network other uniqueId ds).checked b m l hother hread
    exact Checked.of_absent [⟨.user, other, m⟩] hchecked hd hat
      (List.forall_mem_singleton.2 hpresent) habsent

/-- A relation to an entity whose id is not read is refused. -/
theorem result_relation_of_unread (s : Store) (ds : List Directory) (k : Kind) (uniqueId : String)
    {other : String} (hunread : s.Unread other) : ∃ reason,
      ((s.perform (relation k uniqueId other)).run network ds).result =
        .error (.invalidInput reason) := by
  have hmem : other ∈ (relation k uniqueId other).uniqueIds := by
    cases k with
    | user => exact List.mem_cons_of_mem _ List.mem_cons_self
    | group => exact List.mem_cons_self
  cases hread : s.registry.decode other with
  | ok e => exact absurd hread (hunread e)
  | error e =>
    obtain ⟨reason, hperform⟩ := refused_of_decode_error hread hmem
    rw [hperform]
    exact ⟨reason, rfl⟩

/-- An entity that nothing in its directory mentions is gone. -/
theorem gone_of_not_mentions (x : Slot) {c : Contents}
    (hfaultless : ∀ d ∈ x.holding c, d.Faultless)
    (hread : s.registry.decode uniqueId = .ok ⟨x.backend, l⟩) (hnone : ¬ c.Mentions k l) :
    s.Gone (x.holding c) k uniqueId x.backend l := by
  have hat := x.at?_holding c
  have hd := x.faultless.withContents c
  have habsent : (c.entities k).contains l = false :=
    Bool.eq_false_iff.2 fun hpresent => hnone (.inl hpresent)
  obtain ⟨b, -, hid, hlocate⟩ := locate_of_decode hread k
  have hplace : Directory.at? b.id (x.holding c) = some (x.directory.withContents c) := by
    rw [hid]
    exact hat
  obtain ⟨name, hdelete⟩ := perform_delete (k := k) hread
  have hserve := x.serve c (r := .delete k l) rfl rfl
  rw [Contents.respond, Contents.delete_of_absent habsent] at hserve
  constructor
  case get =>
    rw [perform_get hlocate]
    exact result_of_absent hd hplace habsent
  case memberships =>
    rw [perform_memberships hlocate]
    exact result_of_absent hd hplace habsent
  case related =>
    intro other m d hother hat' hpresent
    rw [hat] at hat'
    rw [← Option.some.inj hat'] at hpresent
    exact result_relation_of_absent hread hd hat habsent hother hpresent
  case unread => exact fun other => s.result_relation_of_unread _ k uniqueId
  case hidden =>
    intro op hop a ha
    rw [(Registry.decode_eq_ok_iff.1 hread).2.2]
    exact not_handedOut hfaultless hat hnone hop ha
  case again =>
    rw [hdelete]
    simp only [Dialogue.run, hserve]
  case unchanged =>
    rw [hdelete]
    simp only [Dialogue.run, hserve]

/-- A deletion that is done was one of an entity that was there. -/
theorem removes_of_delete (x : Slot) {c : Contents}
    (hread : s.registry.decode uniqueId = .ok ⟨x.backend, l⟩) {a : Answer}
    (hdeleted : ((s.perform (.delete k uniqueId)).run network (x.holding c)).result = .ok a) :
    c.Removes (c.delete k l).2 k l ∧
      ((s.perform (.delete k uniqueId)).run network (x.holding c)).state =
        x.holding (c.delete k l).2 := by
  obtain ⟨name, hdelete⟩ := perform_delete (k := k) hread
  have hserve := x.serve c (r := .delete k l) rfl rfl
  rw [Contents.respond] at hserve
  cases hpresent : (c.entities k).contains l with
  | false =>
    rw [Contents.delete_of_absent hpresent] at hserve
    rw [hdelete] at hdeleted
    simp only [Dialogue.run, hserve, reduceCtorEq] at hdeleted
  | true =>
    obtain ⟨hdone, hremoves⟩ := Contents.removes_delete hpresent
    refine ⟨hremoves, ?_⟩
    rw [hdone] at hserve
    rw [hdelete]
    simp only [Dialogue.run, hserve]

/-- A deletion is complete. In every state of directories that offer all changes and have no faults,
if an entity is deleted, it was one that was recorded, and after that it is gone: its directory
holds all that it held before but the entity, a user's password and the memberships with the entity
at one end, and all other directories are as they were. -/
theorem deletion_complete {s : Store} {ds : List Directory} (hover : s.Over ds)
    (hfaultless : ∀ d ∈ ds, d.Faultless) (hfull : ∀ d ∈ ds, d.mode = .full) {k : Kind}
    {uniqueId : String} {a : Answer}
    (hdeleted : ((s.perform (.delete k uniqueId)).run network ds).result = .ok a) :
    ∃ (x : Slot) (l : String) (c : Contents),
      s.registry.decode uniqueId = .ok ⟨x.backend, l⟩ ∧
      ds = x.holding x.directory.contents ∧ x.directory.contents.Removes c k l ∧
      ((s.perform (.delete k uniqueId)).run network ds).state = x.holding c ∧
      s.Gone (x.holding c) k uniqueId x.backend l := by
  cases hread : s.registry.decode uniqueId with
  | error e =>
    have hrefused : ∃ reason, s.perform (.delete k uniqueId) = .fail (.invalidInput reason) :=
      refused_of_decode_error hread (List.mem_singleton_self _)
    obtain ⟨reason, hperform⟩ := hrefused
    rw [hperform] at hdeleted
    contradiction
  | ok e =>
    obtain ⟨b, l⟩ := e
    obtain ⟨⟨c, hc, rfl⟩, -, -⟩ := Registry.decode_eq_ok_iff.1 hread
    obtain ⟨d, hd, -, hat⟩ := hover.at? hc
    obtain ⟨x, hx, rfl, rfl⟩ := Slot.exists_holding hat (hfull d hd) (hfaultless d hd)
    rw [← hx] at hread ⊢
    obtain ⟨hremoves, hstate⟩ := removes_of_delete x hread hdeleted
    -- directories have no faults after an operation if they had none before
    have hshells := Directory.shells_run (s.perform (.delete k uniqueId)) hfaultless
    rw [hstate] at hshells
    have hfaultless' := Directory.faultless_of_shells hshells hfaultless
    exact ⟨x, l, _, rfl, rfl, hremoves, hstate,
      gone_of_not_mentions x hfaultless' hread hremoves.not_mentions⟩

/-- A user is deleted that is in a group with another one. -/
theorem deletion_complete_north :
    let s : Store := ⟨.standard, .poles⟩
    let contents := ((((Contents.empty.seedUser "u.1" "ann" "pw").seedUser "u.2" "bob" "pw").seedGroup
      "g.1" "staff").join ⟨"u.1", "g.1"⟩).join ⟨"u.2", "g.1"⟩
    let ds := Registry.poles.ordered.map fun b => (Directory.new b).withContents contents
    let ann := EntityId.encode ⟨-2147483648, "u.1"⟩
    ∃ (x : Slot) (c : Contents), s.Done [.operate (.delete .user ann)] ds (x.holding c) ∧
      ¬ c.memberships.contains ⟨"u.1", "g.1"⟩ = true ∧
      s.Gone (x.holding c) .user ann (-2147483648) "u.1" := by
  intro s contents ds ann
  have hread : s.registry.decode ann = .ok ⟨-2147483648, "u.1"⟩ := decode_north (by decide)
  have hfaultless : ∀ d ∈ ds, d.Faultless := fun _ hd => (Directory.of_mem_filled hd).2
  have hfull : ∀ d ∈ ds, d.mode = .full := fun _ hd => (Directory.of_mem_filled hd).1
  have hdeleted : ((s.perform (.delete .user ann)).run network ds).result = .ok .nothing := by
    obtain ⟨name, hdelete⟩ := perform_delete (k := .user) hread
    rw [hdelete]
    rfl
  obtain ⟨x, l, c, hread', -, hremoves, hstate, hgone⟩ :=
    deletion_complete (over_poles ds rfl) hfaultless hfull hdeleted
  rw [hread] at hread'
  obtain ⟨hbackend, rfl⟩ := EntityId.mk.inj (Except.ok.inj hread')
  rw [← hbackend] at hgone
  refine ⟨x, c, done_singleton hdeleted hstate, ?_, hgone⟩
  intro hmember
  exact ((hremoves.memberships _).1 hmember).2 rfl

/-- A group without a local id is listed still after a user was deleted, but it cannot be asked
whether that user is in it: not because the user is gone, but because its id is refused. -/
theorem relation_refused_of_unnamed :
    let s : Store := ⟨.standard, .poles⟩
    let contents := (Contents.empty.seedUser "u.1" "ann" "pw").seedGroup "" "staff"
    let ds := Registry.poles.ordered.map fun b => (Directory.new b).withContents contents
    let ann := EntityId.encode ⟨-2147483648, "u.1"⟩
    let staff : Group := ⟨EntityId.encode ⟨-2147483648, ""⟩, "north"⟩
    ∃ after, s.Done [.operate (.delete .user ann)] ds after ∧
      ((s.perform (.list .group .all 0 (-1) none)).run network after).result =
        .ok (.handles .group [staff]) ∧
      ∃ e, ((s.perform (.isMember ann staff.uniqueId)).run network after).result = .error e ∧
        e.kind = .invalidInput := by
  intro s contents ds ann staff
  have hread : s.registry.decode ann = .ok ⟨-2147483648, "u.1"⟩ := decode_north (by decide)
  obtain ⟨name, hdelete⟩ := perform_delete (k := .user) hread
  have hunread : s.Unread staff.uniqueId := by
    intro e he
    rw [Registry.decode_encode_of_empty s.registry rfl] at he
    contradiction
  obtain ⟨reason, hrefused⟩ := s.result_relation_of_unread
    (network.serve (-2147483648) (.delete .user "u.1") ds).state .user ann hunread
  refine ⟨_, done_singleton ?_ ?_, rfl, _, hrefused, rfl⟩
  · rw [hdelete]
    rfl
  · rw [hdelete]
    rfl

end Store

end Federation
