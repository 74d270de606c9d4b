import Federation.Proofs.Directory.Passwords
import Federation.Proofs.Store.RecordEdit
import Federation.Proofs.Store.Recorded

/-!
# Federation.Proofs.Store.Replacement — replacing as changing

What an entity has can be replaced as a whole, or changed by additions and removals. To replace it
is to add what it is to have and to remove what was read of it: both leave the same state, whether
or not the new and the old have something in common, and also where a change with nothing to be
done is not even passed on to the directory.
-/

namespace Federation

open Directory (network)

/-! ## Records -/

namespace Contents

variable {c : Contents} {k : Kind} {l : String}

/-- Claims that are added while all others are removed are those that the entity has then. -/
theorem respond_changeClaims {stored : List Claim} (h : (c.entities k).get? l = some stored)
    (claims : List Claim) :
    (c.respond (.changeClaims k l claims stored)).2 = c.setEntity k l claims := by
  have hnone : stored.filter (fun x => !stored.contains x) = [] := by
    rw [List.filter_eq_nil_iff]
    intro x hx
    simp [hx]
  show (c.updateClaims k l _).2 = _
  rw [updateClaims_of_get? h, hnone, List.nil_append]

theorem respond_replaceClaims {stored : List Claim} (h : (c.entities k).get? l = some stored)
    (claims : List Claim) :
    (c.respond (.replaceClaims k l claims)).2 = c.setEntity k l claims :=
  congrArg Prod.snd (updateClaims_of_get? h _)

end Contents

namespace Store

variable {s : Store} {k : Kind} {b : Int32} {uniqueId l : String}

/-! ## Unique ids of what was read -/

/-- The unique ids of handles at a backend are read as what the handles are of. -/
theorem localizes_handles {c : BackendConfig} (hc : s.registry.Registered c.id) {ids : List String}
    (hids : ∀ id ∈ ids, id ≠ "") :
    s.registry.Localizes c.id ((ids.map (Handle.of c : String → Handle k)).map (·.uniqueId)) ids := by
  induction ids with
  | nil => rfl
  | cons id rest ih =>
    obtain ⟨hid, hrest⟩ := List.forall_mem_cons.1 hids
    have hread : s.registry.decode (Handle.of c id : Handle k).uniqueId = .ok ⟨c.id, id⟩ :=
      Registry.decode_eq_ok_iff.2 ⟨hc, hid, rfl⟩
    exact Registry.localizes_cons.2 ⟨id, rest, rfl, hread, ih hrest⟩

/-! ## Pairs of operations -/

/-- Either of the two operations is done, and leaves the same state. -/
structure Coincide (s : Store) (ds after : List Directory) (op op' : Operation) : Prop where
  first : s.Done [.operate op] ds after
  second : s.Done [.operate op'] ds after

/-- Replacing claims is changing them. -/
theorem coincide_claims (x : Slot) {c : Contents}
    (hread : s.registry.decode uniqueId = .ok ⟨x.backend, l⟩) {stored : List Claim}
    (hstored : (c.entities k).get? l = some stored) (claims : List Claim) :
    s.Coincide (x.holding c) (x.holding (c.setEntity k l claims))
      (.replaceClaims k uniqueId claims) (.changeClaims k uniqueId claims stored) := by
  have hpresent : (c.entities k).contains l = true := Dict.contains_iff.2 ⟨stored, hstored⟩
  constructor
  case first =>
    rw [← Contents.respond_replaceClaims hstored claims]
    exact done_edit x hread hpresent (.replaceClaims claims)
  case second =>
    rw [← Contents.respond_changeClaims hstored claims]
    exact done_edit x hread hpresent (.changeClaims claims stored)

/-- Replacing credentials is changing them, where some password is to be removed. -/
theorem coincide_credentials (x : Slot) {c : Contents}
    (hread : s.registry.decode uniqueId = .ok ⟨x.backend, l⟩)
    (hpresent : (c.entities .user).contains l = true) (credentials : List Credential)
    {p : Credential} (hp : p.isPassword = true) :
    s.Coincide (x.holding c) (x.holding (c.setPassword l (firstPassword? credentials)))
      (.replaceCredentials uniqueId credentials) (.changeCredentials uniqueId credentials [p]) := by
  have hchange : c.changeCredentials l credentials [p] =
      c.setPassword l (firstPassword? credentials) := by
    rw [Contents.changeCredentials_eq, if_pos]
    simp [hp]
  constructor
  case first => exact done_edit x hread hpresent (.replaceCredentials credentials)
  case second =>
    rw [← hchange]
    exact done_edit x hread hpresent (.changeCredentials credentials [p])

/-- Replacing memberships is changing them. -/
theorem coincide_memberships (x : Slot) (c : Contents)
    (hread : s.registry.decode uniqueId = .ok ⟨x.backend, l⟩) {others listed locals : List String}
    (hothers : s.registry.Localizes x.backend others locals)
    (hlisted : s.registry.Localizes x.backend listed (c.membershipsOf k l)) :
    s.Coincide (x.holding c) (x.holding (c.replaceMemberships k l locals))
      (.replaceMemberships k uniqueId others) (.changeMemberships k uniqueId others listed) := by
  have hreplace : (MembershipEdit.replace others).Localizes s.registry x.backend
      (.replace locals) := hothers
  have hchange : (MembershipEdit.change others listed).Localizes s.registry x.backend
      (.change locals (c.membershipsOf k l)) := ⟨hothers, hlisted⟩
  constructor
  case first => exact done_membershipEdit x c hread hreplace
  case second =>
    rw [c.replaceMemberships_eq k l locals]
    exact done_membershipEdit x c hread hchange

/-! ## Replacing -/

/-- For the entity with the local id `l` in its place, each way to replace what it has comes to the
same as to change it, given what is read of it. What is left is said of the records. -/
structure ReplacesByChanging (s : Store) (ds : List Directory) (k : Kind) (uniqueId l : String)
    (x : Slot) : Prop where
  place : ds = x.holding x.directory.contents
  /-- The memberships that are read are those that are to be removed. -/
  memberships : (∀ other ∈ x.directory.contents.membershipsOf k l, other ≠ "") →
    ∃ hs, s.Reads ds (.memberships k uniqueId) (.handles k.other hs) ∧
      ∀ others, s.AllAt x.backend others → ∃ c,
        x.directory.contents.Updates c (fun m => m.ofKind k = l) (s.Pairs k x.backend l others) ∧
        s.Coincide ds (x.holding c) (.replaceMemberships k uniqueId others)
          (.changeMemberships k uniqueId others (hs.map (·.uniqueId)))
  /-- So are the claims that are read. -/
  claims : ∃ stored, s.Reads ds (.claims k uniqueId) (.claims stored) ∧
    ∀ claims, s.Coincide ds (x.holding (x.directory.contents.setEntity k l claims))
      (.replaceClaims k uniqueId claims) (.changeClaims k uniqueId claims stored)
  /-- Credentials are not read; it does for any password to be removed. -/
  credentials : k = .user → ∀ credentials p, Credential.isPassword p = true →
    s.Coincide ds
      (x.holding (x.directory.contents.setPassword l (firstPassword? credentials)))
      (.replaceCredentials uniqueId credentials) (.changeCredentials uniqueId credentials [p])

/-- To replace is to change by what was read. In every state of directories that offer all changes
and have no faults, for every entity that is recorded: replacing its memberships, if those that it
has are with entities that have local ids, leaves the same state as adding the new ones and removing
those that are read; so does replacing its claims; and replacing a user's credentials leaves the same
state as adding the new ones and removing any password. -/
theorem replacement_eq_change {s : Store} {ds : List Directory}
    (hfaultless : ∀ d ∈ ds, d.Faultless) (hfull : ∀ d ∈ ds, d.mode = .full) {k : Kind} {b : Int32}
    {uniqueId l : String} (hread : s.registry.decode uniqueId = .ok ⟨b, l⟩) {d : Directory}
    (hat : Directory.at? b ds = some d) (hpresent : (d.contents.entities k).contains l = true) :
    ∃ x : Slot, x.backend = b ∧ x.directory = d ∧ s.ReplacesByChanging ds k uniqueId l x := by
  have hmem := Directory.mem_of_at? hat
  obtain ⟨x, rfl, rfl, hds⟩ := Slot.exists_holding hat (hfull d hmem) (hfaultless d hmem)
  obtain ⟨stored, hstored⟩ := Dict.contains_iff.1 hpresent
  refine ⟨x, rfl, rfl, ?_⟩
  constructor
  case place => exact hds
  case memberships =>
    intro hnamed
    obtain ⟨c, hid, hlisted⟩ := result_memberships hread x.faultless hat hpresent
    have hregistered : s.registry.Registered c.id := hid ▸ (Registry.decode_eq_ok_iff.1 hread).1
    refine ⟨_, ⟨hlisted, state_of_isReading rfl hfaultless⟩, ?_⟩
    intro others hothers
    obtain ⟨locals, hlocals⟩ := hothers.exists_localizes
    refine ⟨x.directory.contents.replaceMemberships k l locals, ?_, ?_⟩
    · exact (x.directory.contents.updates_replaceMemberships k l locals).congr (fun _ => Iff.rfl)
        fun _ => (pairs_iff hlocals).symm
    · have hback := localizes_handles (k := k.other) hregistered hnamed
      rw [hid] at hback
      rw [hds]
      exact coincide_memberships x _ hread hlocals hback
  case claims =>
    refine ⟨stored, ⟨result_claims hread x.faultless hat hstored,
      state_of_isReading rfl hfaultless⟩, ?_⟩
    intro claims
    rw [hds]
    exact coincide_claims x hread hstored claims
  case credentials =>
    rintro rfl credentials p hp
    rw [hds]
    exact coincide_credentials x hread hpresent credentials hp

/-- A user's memberships, claims and credentials are replaced. The user stays in one of two groups,
and loses the name and the password. -/
theorem replacement_eq_change_poles :
    let s : Store := ⟨.standard, .poles⟩
    let contents := ((Contents.empty.seedUser "u.1" "ann" "pw").join ⟨"u.1", "g.1"⟩).join
      ⟨"u.1", "g.2"⟩
    let ds := Registry.poles.ordered.map fun b => (Directory.new b).withContents contents
    let id (l : String) := EntityId.encode ⟨-2147483648, l⟩
    (∃ hs after, s.Reads ds (.memberships .user (id "u.1")) (.handles .group hs) ∧
      s.Coincide ds after (.replaceMemberships .user (id "u.1") [id "g.2"])
        (.changeMemberships .user (id "u.1") [id "g.2"] (hs.map (·.uniqueId)))) ∧
    (∃ stored after, s.Reads ds (.claims .user (id "u.1")) (.claims stored) ∧
      s.Coincide ds after (.replaceClaims .user (id "u.1") [])
        (.changeClaims .user (id "u.1") [] stored)) ∧
    ∃ after, s.Coincide ds after (.replaceCredentials (id "u.1") [])
      (.changeCredentials (id "u.1") [] [.password "another"]) := by
  intro s contents ds id
  have hread : ∀ l, l ≠ "" → s.registry.decode (id l) = .ok ⟨-2147483648, l⟩ :=
    fun _ hl => decode_north hl
  have hfaultless : ∀ d ∈ ds, d.Faultless := fun _ hd => (Directory.of_mem_filled hd).2
  have hfull : ∀ d ∈ ds, d.mode = .full := fun _ hd => (Directory.of_mem_filled hd).1
  obtain ⟨d, hat, hcontents⟩ :
      ∃ d, Directory.at? (-2147483648) ds = some d ∧ d.contents = contents := ⟨_, rfl, rfl⟩
  have hpresent : (d.contents.entities .user).contains "u.1" = true := by
    rw [hcontents]
    decide
  obtain ⟨x, hx, rfl, h⟩ := replacement_eq_change hfaultless hfull (hread "u.1" (by decide)) hat
    hpresent
  have hnamed : ∀ other ∈ x.directory.contents.membershipsOf .user "u.1", other ≠ "" := by
    rw [hcontents]
    decide
  obtain ⟨hs, hreads, hmemberships⟩ := h.memberships hnamed
  have hother : s.AllAt x.backend [id "g.2"] := by
    rw [hx]
    exact List.forall_mem_singleton.2 ⟨_, hread "g.2" (by decide)⟩
  obtain ⟨c, -, hcoincide⟩ := hmemberships _ hother
  obtain ⟨stored, hclaims, hreplace⟩ := h.claims
  exact ⟨⟨hs, _, hreads, hcoincide⟩, ⟨stored, _, hclaims, hreplace []⟩,
    ⟨_, h.credentials rfl [] (.password "another") (by decide)⟩⟩

end Store

end Federation
