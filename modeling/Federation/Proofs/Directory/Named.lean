import Federation.Directory.Network
import Federation.Proofs.Dialogue

/-!
# Federation.Proofs.Directory.Named — directories in which everything has a name

The empty text is an id like any other to a directory, but none that a unique id can carry. A
directory never comes to such an id by itself: if there is none in its records, and none in what
it is asked, there is none in what it reports, and none in its records afterwards.
-/

namespace Federation

/-! ## Ids in requests and answers -/

namespace Request

/-- The local ids that a request is about. -/
def ids : Request → List String
  | isPresent _ id | memberships _ id | claims _ id | claimsFor _ id _ | replaceClaims _ id _
  | changeClaims _ id _ _ | replaceCredentials id _ | changeCredentials id _ _ | delete _ id => [id]
  | isMember user group => [user, group]
  | replaceMemberships _ id others => id :: others
  | changeMemberships _ id added removed => id :: (added ++ removed)
  | find .. | list .. | authenticate .. | add .. | addAll .. => []

/-- The entities that an answer reports, by their local ids. -/
def reported : (r : Request) → r.Answer → List (Kind × String)
  | isPresent k id, present => if present then [(k, id)] else []
  | find k _, found => (Option.toList found).map (k, ·)
  | list k _ _, localIds => List.map (k, ·) localIds
  | memberships k _, localIds => List.map (k.other, ·) localIds
  | authenticate _ _, localId => [(.user, localId)]
  | add k _, localId => [(k, localId)]
  | addAll k _, localIds => List.map (k, ·) localIds
  | _, _ => []

end Request

/-- The entities that a backend reported in an exchange, with the id of the backend. -/
def Exchange.reports : Exchange → List (Int32 × Kind × String)
  | request b r (.ok a) _ => (r.reported a).map (b, ·)
  | _ => []

/-! ## Records -/

/-- The empty text is nobody's id, and at no end of a membership. -/
structure Contents.Named (c : Contents) : Prop where
  entities : ∀ k, "" ∉ (c.entities k).keys
  memberships : ∀ m ∈ c.memberships.keys, ∀ k, m.ofKind k ≠ ""

namespace Contents

variable {c : Contents} {k : Kind} {id : String}

theorem named_empty : empty.Named where
  entities k := by
    cases k with
    | user => exact List.not_mem_nil
    | group => exact List.not_mem_nil
  memberships m hm := absurd hm List.not_mem_nil

namespace Named

/-! ### Single changes -/

theorem withEntities (h : c.Named) {entities : Dict String (List Claim)}
    (hentities : "" ∉ entities.keys) : (c.withEntities k entities).Named where
  entities k' := by
    rw [entities_withEntities]
    split
    · exact hentities
    · exact h.entities k'
  memberships := by
    rw [memberships_withEntities]
    exact h.memberships

theorem setEntity (h : c.Named) (hid : id ≠ "") (claims : List Claim) :
    (c.setEntity k id claims).Named := by
  apply h.withEntities
  intro hmem
  rcases Dict.mem_keys_insert hmem with heq | hmem
  · exact hid heq.symm
  · exact h.entities k hmem

theorem setPassword (h : c.Named) (secret : Option (List UInt8)) :
    (c.setPassword id secret).Named := by
  cases secret with
  | none => exact ⟨fun k => h.entities k, h.memberships⟩
  | some secret => exact ⟨fun k => h.entities k, h.memberships⟩

theorem keepMemberships (h : c.Named) (p : Membership → Bool) : (c.keepMemberships p).Named :=
  ⟨fun k => h.entities k, fun m hm => h.memberships m (Dict.mem_keys_of_mem_keep hm)⟩

theorem join (h : c.Named) {m : Membership} (hm : ∀ k, m.ofKind k ≠ "") : (c.join m).Named := by
  refine ⟨fun k => h.entities k, fun m' hm' => ?_⟩
  rcases Dict.mem_keys_insert hm' with rfl | hm'
  · exact hm
  · exact h.memberships m' hm'

theorem joinAll (h : c.Named) (hid : id ≠ "") {others : List String} (hothers : "" ∉ others) :
    (c.joinAll k id others).Named := by
  unfold Contents.joinAll
  induction others generalizing c with
  | nil => exact h
  | cons other rest ih =>
    have hother : other ≠ "" := by
      rintro rfl
      exact hothers List.mem_cons_self
    have hrest : "" ∉ rest := fun hmem => hothers (List.mem_cons_of_mem _ hmem)
    exact ih (h.join (Membership.ofKind_link (P := (· ≠ "")) hid hother)) hrest

/-! ### Seeds -/

theorem seedUser (h : c.Named) (hid : id ≠ "") (username password : String) :
    (c.seedUser id username password).Named :=
  (h.setEntity hid _).setPassword _

theorem seedGroup (h : c.Named) (hid : id ≠ "") (name : String) : (c.seedGroup id name).Named :=
  h.setEntity hid _

end Named

/-! ### Additions -/

theorem freshId_ne_empty (c : Contents) (k : Kind) : c.freshId k ≠ "" := by
  intro h
  have hlist := congrArg String.toList h
  unfold freshId at hlist
  rw [String.toList_ofList] at hlist
  contradiction

theorem Named.add (h : c.Named) (payload : Payload k) : (c.add k payload).2.Named := by
  have hcounted : Named { c with counter := c.counter + 1 } :=
    ⟨fun k => h.entities k, h.memberships⟩
  unfold Contents.add
  cases payload.password? with
  | none => exact hcounted.setEntity (c.freshId_ne_empty k) _
  | some secret => exact (hcounted.setPassword _).setEntity (c.freshId_ne_empty k) _

theorem Named.addAll (h : c.Named) (payloads : List (Payload k)) :
    (c.addAll k payloads).2.Named ∧ "" ∉ (c.addAll k payloads).1 := by
  induction payloads generalizing c with
  | nil => exact ⟨h, List.not_mem_nil⟩
  | cons p rest ih =>
    rcases ih (h.add p) with ⟨hrest, hids⟩
    refine ⟨hrest, ?_⟩
    intro hmem
    rcases List.mem_cons.1 hmem with heq | hmem
    · exact c.freshId_ne_empty k heq.symm
    · exact hids hmem

/-! ### Reports -/

theorem mem_keys_of_mem_matching {filter : Filter} (h : id ∈ c.matching k filter) :
    id ∈ (c.entities k).keys := by
  rcases List.mem_map.1 h with ⟨e, he, rfl⟩
  exact List.mem_map_of_mem (List.mem_filter.1 he).1

theorem mem_keys_of_find? {claim : Claim} (h : c.find? k claim = some id) :
    id ∈ (c.entities k).keys :=
  mem_keys_of_mem_matching (List.mem_of_head? h)

theorem mem_keys_of_authenticate {claim : Claim} {credentials : List Credential}
    (h : c.authenticate claim credentials = .ok id) : id ∈ (c.entities .user).keys := by
  unfold authenticate at h
  split at h
  · contradiction
  · rename_i user huser
    split at h
    · injection h with h
      rw [← h]
      exact mem_keys_of_find? huser
    · contradiction

theorem Named.membershipsOf (h : c.Named) (k : Kind) (id : String) :
    "" ∉ c.membershipsOf k id := by
  intro hmem
  rcases List.mem_map.1 hmem with ⟨m, hm, hend⟩
  exact h.memberships m (List.mem_filter.1 hm).1 k.other hend

end Contents

/-- A page shows entries of the listing. -/
theorem Page.mem_of_mem_window {α : Type} {p : Page} {entries : List α} {a : α}
    (h : a ∈ p.window entries) : a ∈ entries := by
  unfold window at h
  split at h
  · exact List.mem_of_mem_drop (List.mem_of_mem_take h)
  · exact List.mem_of_mem_drop h

/-! ## Requests -/

/-- What a request leads to has no empty ids: neither the records afterwards, nor what is
reported. -/
structure NamedReply (r : Request) (outcome : Except BackendError r.Answer) (c : Contents) :
    Prop where
  contents : c.Named
  reported : ∀ a, outcome = .ok a → ∀ e ∈ r.reported a, e.2 ≠ ""

namespace Contents

variable {c : Contents} {r : Request}

/-- A request that reports nothing needs to leave the records named only. -/
theorem Named.silently {outcome : Except BackendError r.Answer} (h : c.Named)
    (hr : ∀ a, r.reported a = []) : NamedReply r outcome c := by
  refine ⟨h, ?_⟩
  intro a _ e he
  rw [hr a] at he
  contradiction

/-- A failure reports nothing. -/
theorem Named.failing (h : c.Named) (e : BackendError) : NamedReply r (.error e) c := by
  refine ⟨h, ?_⟩
  intro a ha
  contradiction

/-- A request that reports entities of one kind. -/
theorem Named.reporting (h : c.Named) (k : Kind) {ids : List String} (hids : "" ∉ ids)
    {outcome : Except BackendError r.Answer}
    (hr : ∀ a, outcome = .ok a → ∀ e ∈ r.reported a, ∃ id ∈ ids, e = (k, id)) :
    NamedReply r outcome c := by
  refine ⟨h, ?_⟩
  intro a ha e he
  rcases hr a ha e he with ⟨id, hid, rfl⟩
  rintro rfl
  exact hids hid

theorem Named.updateClaims (h : c.Named) {k : Kind} {id : String} (hid : id ≠ "")
    (f : List Claim → List Claim) : (c.updateClaims k id f).2.Named := by
  unfold Contents.updateClaims
  split
  · exact h.setEntity hid _
  · exact h

theorem Named.changeCredentials (h : c.Named) (user : String) (added removed : List Credential) :
    (c.changeCredentials user added removed).Named := by
  have hforgotten : Named (if removed.any (·.isPassword) then c.setPassword user none else c) := by
    split
    · exact h.setPassword none
    · exact h
  unfold Contents.changeCredentials
  cases firstPassword? added with
  | none => exact hforgotten
  | some secret => exact hforgotten.setPassword (some secret)

theorem Named.delete (h : c.Named) (k : Kind) (id : String) : (c.delete k id).2.Named := by
  have hremoved : Named ((c.withEntities k ((c.entities k).erase id)).keepMemberships
      (·.ofKind k ≠ id)) :=
    (h.withEntities fun hmem => h.entities k (Dict.mem_keys_of_mem_keep hmem)).keepMemberships _
  unfold Contents.delete
  split
  · cases k with
    | user => exact hremoved.setPassword none
    | group => exact hremoved
  · exact h

/-- Records without empty ids report none, and get none from requests without them. -/
theorem Named.respond (h : c.Named) (hr : "" ∉ r.ids) :
    NamedReply r (c.respond r).1 (c.respond r).2 := by
  -- what is read comes from the records or the request; what is written is fresh or in the request
  cases r with
  | isPresent k id =>
    refine h.reporting k hr ?_
    intro a _ e he
    cases a with
    | false => contradiction
    | true => exact ⟨id, List.mem_singleton_self id, List.mem_singleton.1 he⟩
  | find k claim =>
    refine h.reporting k (h.entities k) ?_
    intro a ha e he
    rcases List.mem_map.1 he with ⟨id, hid, rfl⟩
    injection ha with ha
    rw [← ha] at hid
    exact ⟨id, mem_keys_of_find? (Option.mem_toList.1 hid), rfl⟩
  | list k filter page =>
    refine h.reporting k (h.entities k) ?_
    intro a ha e he
    rcases List.mem_map.1 he with ⟨id, hid, rfl⟩
    injection ha with ha
    rw [← ha] at hid
    exact ⟨id, mem_keys_of_mem_matching (Page.mem_of_mem_window hid), rfl⟩
  | memberships k id =>
    refine h.reporting k.other (h.membershipsOf k id) ?_
    intro a ha e he
    rcases List.mem_map.1 he with ⟨other, hother, rfl⟩
    injection ha with ha
    rw [← ha] at hother
    exact ⟨other, hother, rfl⟩
  | isMember user group => exact h.silently fun _ => rfl
  | claims k id => exact h.silently fun _ => rfl
  | claimsFor k id metas => exact h.silently fun _ => rfl
  | authenticate claim credentials =>
    refine h.reporting .user (h.entities .user) ?_
    intro id hid e he
    exact ⟨id, mem_keys_of_authenticate hid, List.mem_singleton.1 he⟩
  | add k payload =>
    have hfresh : "" ∉ [c.freshId k] := by
      intro hmem
      exact c.freshId_ne_empty k (List.mem_singleton.1 hmem).symm
    refine (h.add payload).reporting k hfresh ?_
    intro a ha e he
    injection ha with ha
    rw [← ha] at he
    exact ⟨_, List.mem_singleton_self _, List.mem_singleton.1 he⟩
  | addAll k payloads =>
    rcases h.addAll payloads with ⟨hnamed, hids⟩
    refine hnamed.reporting k hids ?_
    intro a ha e he
    rcases List.mem_map.1 he with ⟨id, hid, rfl⟩
    injection ha with ha
    rw [← ha] at hid
    exact ⟨id, hid, rfl⟩
  | replaceClaims k id claims =>
    have hid : id ≠ "" := (List.ne_of_not_mem_cons hr).symm
    exact (h.updateClaims hid _).silently fun _ => rfl
  | changeClaims k id added removed =>
    have hid : id ≠ "" := (List.ne_of_not_mem_cons hr).symm
    exact (h.updateClaims hid _).silently fun _ => rfl
  | replaceCredentials id credentials => exact (h.setPassword _).silently fun _ => rfl
  | changeCredentials id added removed =>
    exact (h.changeCredentials id added removed).silently fun _ => rfl
  | delete k id => exact (h.delete k id).silently fun _ => rfl
  | replaceMemberships k id others =>
    have hid : id ≠ "" := (List.ne_of_not_mem_cons hr).symm
    have hothers : "" ∉ others := List.not_mem_of_not_mem_cons hr
    exact ((h.keepMemberships _).joinAll hid hothers).silently fun _ => rfl
  | changeMemberships k id added removed =>
    have hid : id ≠ "" := (List.ne_of_not_mem_cons hr).symm
    have hadded : "" ∉ added := by
      intro hmem
      exact hr (List.mem_cons_of_mem _ (List.mem_append_left _ hmem))
    exact ((h.keepMemberships _).joinAll hid hadded).silently fun _ => rfl

end Contents

/-! ## Directories -/

namespace Directory

variable {d : Directory} {r : Request}

/-- A directory goes by its records, unless it is out of order. -/
theorem respond_cases (d : Directory) (r : Request) :
    d.respond r = d.contents.respond r ∨ ∃ e, d.respond r = (.error e, d.contents) := by
  cases houtage : d.outage with
  | none =>
    left
    simp only [respond, houtage]
  | some e =>
    cases r with
    | authenticate claim credentials =>
      right
      exact ⟨e, by simp only [respond, houtage]⟩
    | _ =>
      left
      simp only [respond]

theorem named_respond (h : d.contents.Named) (hr : "" ∉ r.ids) :
    NamedReply r (d.respond r).1 (d.respond r).2 := by
  rcases d.respond_cases r with heq | ⟨e, heq⟩
  · rw [heq]
    exact h.respond hr
  · rw [heq]
    exact h.failing e

theorem named_call (h : d.contents.Named) (hr : "" ∉ r.ids) :
    NamedReply r (d.call r).outcome (d.call r).state.contents := by
  unfold call
  split
  · exact h.failing _
  · exact named_respond h hr

theorem named_single (h : d.contents.Named) (hr : "" ∉ r.ids) :
    NamedReply r (d.single r).outcome (d.single r).state.contents := by
  unfold single
  split
  · exact named_call h hr
  · exact h.failing _

/-- A batch that is added one by one keeps a directory named, and reports all that was added. -/
theorem named_addEach {k : Kind} (h : d.contents.Named) (payloads : List (Payload k)) :
    NamedReply (.addAll k payloads) (Backend.addEach single k payloads d).1
      (Backend.addEach single k payloads d).2.1.contents := by
  -- by the payloads, from a directory that the earlier ones have changed
  induction payloads generalizing d with
  | nil =>
    refine ⟨h, ?_⟩
    intro a ha e he
    injection ha with ha
    rw [← ha] at he
    contradiction
  | cons p rest ih =>
    have hfirst : NamedReply (.add k p) _ _ := named_single h List.not_mem_nil
    cases houtcome : (single (.add k p) d).outcome with
    | error e =>
      simp only [Backend.addEach, houtcome]
      exact hfirst.contents.failing e
    | ok id =>
      have hid : id ≠ "" := hfirst.reported id houtcome (k, id) (List.mem_singleton_self _)
      rcases ih hfirst.contents with ⟨hcontents, hreported⟩
      simp only [Backend.addEach, houtcome]
      refine ⟨hcontents, ?_⟩
      intro a ha e he
      cases hrest : (Backend.addEach single k rest (single (.add k p) d).state).1 with
      | error err =>
        rw [hrest] at ha
        contradiction
      | ok ids =>
        rw [hrest] at ha
        injection ha with ha
        rw [← ha] at he
        rcases List.mem_cons.1 he with rfl | he
        · exact hid
        · exact hreported ids hrest e he

/-- A directory without empty ids reports none, and gets none from requests without them. -/
theorem named_serve (h : d.contents.Named) (hr : "" ∉ r.ids) :
    NamedReply r (d.serve r).outcome (d.serve r).state.contents := by
  unfold serve
  split
  · rename_i k id metas
    -- a selection of claims reports no entities
    have hclaims : NamedReply (.claims k id) _ _ := named_single h hr
    exact hclaims.contents.silently fun _ => rfl
  · split
    · exact named_call h hr
    · exact named_addEach h _
  · exact named_single h hr

/-- There are no empty ids in any of the directories. -/
def AllNamed (ds : List Directory) : Prop := ∀ d ∈ ds, d.contents.Named

/-- Nor does a list of such directories. -/
theorem named_serveAt {ds : List Directory} (h : AllNamed ds) (hr : "" ∉ r.ids) (b : Int32) :
    AllNamed (serveAt b r ds).state ∧
      ∀ a, (serveAt b r ds).outcome = .ok a → ∀ e ∈ r.reported a, e.2 ≠ "" := by
  induction ds with
  | nil => exact ⟨h, fun a ha => by contradiction⟩
  | cons d rest ih =>
    rcases List.forall_mem_cons.1 h with ⟨hd, hrest⟩
    cases hb : d.answersTo b with
    | true =>
      have hserve := named_serve hd hr
      simp only [serveAt, hb, if_true]
      exact ⟨List.forall_mem_cons.2 ⟨hserve.contents, hrest⟩, hserve.reported⟩
    | false =>
      rcases ih hrest with ⟨hstate, hreported⟩
      simp only [serveAt, hb, Bool.false_eq_true, if_false]
      exact ⟨List.forall_mem_cons.2 ⟨hd, hstate⟩, hreported⟩

end Directory

end Federation
