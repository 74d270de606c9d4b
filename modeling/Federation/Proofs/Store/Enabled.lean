import Federation.Proofs.Registry.Construction
import Federation.Proofs.Store.Handles
import Federation.Proofs.Store.Membership
import Federation.Proofs.Store.Routing

/-!
# Federation.Proofs.Store.Enabled — backends that are left out

A store is made of the enabled ones of the backends that it is given. The others decide nothing:
not whether a store can be made, not what an operation answers, and not whom it asks. That holds
for whole sequences of operations, as a store speaks to registered backends only, and all of these
are enabled. A list of directories can even be stripped of its disabled ones before the operations
are carried out, or after it, with the same result.
-/

namespace Federation

/-! ## Directories out of use -/

namespace Directory

/-- The enabled ones of the directories. -/
def enabled (ds : List Directory) : List Directory := ds.filter (·.config.enabled)

theorem not_answersTo_of_disabled {d : Directory} (h : d.config.enabled = false) (b : Int32) :
    d.answersTo b = false := by
  rw [answersTo, h, Bool.false_and]

/-- A request is served by the enabled directories as if there were no others. -/
theorem serveAt_enabled (b : Int32) (r : Request) (ds : List Directory) :
    serveAt b r (enabled ds) =
      ⟨(serveAt b r ds).outcome, enabled (serveAt b r ds).state, (serveAt b r ds).log⟩ := by
  induction ds with
  | nil => rfl
  | cons d rest ih =>
    cases henabled : d.config.enabled with
    | false =>
      have hb : d.answersTo b = false := not_answersTo_of_disabled henabled b
      simp only [enabled, serveAt, hb, henabled, List.filter_cons, Bool.false_eq_true, if_false]
      exact ih
    | true =>
      cases hb : d.answersTo b with
      | true =>
        -- a request does not disable the directory that serves it
        simp only [enabled, serveAt, hb, henabled, config_serve, List.filter_cons, if_true]
      | false =>
        simp only [enabled] at ih
        simp only [enabled, serveAt, hb, henabled, List.filter_cons, Bool.false_eq_true, if_true,
          if_false, ih]

/-- Requests for an id lead to the same directory if there are only enabled ones. -/
theorem at?_enabled (b : Int32) (ds : List Directory) : at? b (enabled ds) = at? b ds := by
  rw [at?, at?, enabled, List.find?_filter]
  congr 1
  funext d
  cases henabled : d.config.enabled with
  | true => simp
  | false => simp [not_answersTo_of_disabled henabled]

theorem supportsAt_enabled (b : Int32) (uri : String) (ds : List Directory) :
    supportsAt b uri (enabled ds) = supportsAt b uri ds := by
  have hat := at?_enabled b ds
  unfold at? at hat
  rw [supportsAt, supportsAt, hat]

/-- A dialogue with the enabled directories is one with all of them. -/
theorem run_enabled {α : Type} (d : Dialogue α) (ds : List Directory) :
    d.run network (enabled ds) =
        { d.run network ds with state := enabled (d.run network ds).state } ∧
      d.exchanges network (enabled ds) = d.exchanges network ds := by
  induction d generalizing ds with
  | done a => exact ⟨rfl, rfl⟩
  | fail e => exact ⟨rfl, rfl⟩
  | ask b r next ih =>
    have hserve : network.serve b r (enabled ds) = ⟨(network.serve b r ds).outcome,
        enabled (network.serve b r ds).state, (network.serve b r ds).log⟩ :=
      serveAt_enabled b r ds
    rcases ih (network.serve b r ds).outcome (network.serve b r ds).state with ⟨hrun, hexchanges⟩
    constructor
    · simp only [Dialogue.run, hserve]
      rw [hrun]
    · simp only [Dialogue.exchanges, hserve]
      rw [hexchanges]
  | probe b uri next ih =>
    have hsupports : network.supports b uri (enabled ds) = network.supports b uri ds :=
      supportsAt_enabled b uri ds
    rcases ih (network.supports b uri ds) ds with ⟨hrun, hexchanges⟩
    constructor
    · simp only [Dialogue.run, hsupports, hrun]
    · simp only [Dialogue.exchanges, hsupports, hexchanges]
  | note e next ih =>
    rcases ih ds with ⟨hrun, hexchanges⟩
    constructor
    · simp only [Dialogue.run, hrun]
    · exact hexchanges

end Directory

namespace Store

/-- So are sequences of commands. -/
theorem course_enabled (s : Store) (cs : List Command) (ds : List Directory) :
    s.course Directory.network cs (Directory.enabled ds) =
      ((s.course Directory.network cs ds).1,
        Directory.enabled (s.course Directory.network cs ds).2) := by
  induction cs generalizing ds with
  | nil => rfl
  | cons c rest ih =>
    rcases Directory.run_enabled (s.obey c) ds with ⟨hrun, hexchanges⟩
    have hstep : s.carryOut Directory.network c (Directory.enabled ds) =
        ((s.carryOut Directory.network c ds).1,
          Directory.enabled (s.carryOut Directory.network c ds).2) := by
      simp only [carryOut, hrun, hexchanges]
    simp only [course, hstep, ih]

/-- A disabled directory stays as it is, in its place. -/
theorem getElem?_course_of_disabled (s : Store) (cs : List Command) {ds : List Directory} {i : Nat}
    {d : Directory} (hi : ds[i]? = some d) (hd : d.config.enabled = false) :
    (s.course Directory.network cs ds).2[i]? = some d := by
  apply s.course_preserves (I := fun ds' => ds'[i]? = some d) Directory.network _ cs hi
  intro c ds' hi'
  exact Directory.getElem?_run hi' fun x _ => Directory.not_answersTo_of_disabled hd x.backend

/-! ## Registered backends only -/

section Registered

variable {ω π : Type} {s : Store} {net : Network ω} {part : Int32 → ω → π} {w w' : ω}

/-- A command goes by the registered backends. -/
theorem carryOut_of_registered (hnet : net.Separated part)
    (h : ∀ a, s.registry.Registered a → part a w = part a w') (c : Command) :
    (s.carryOut net c w).1 = (s.carryOut net c w').1 ∧
      ∀ a, s.registry.Registered a →
        part a (s.carryOut net c w).2 = part a (s.carryOut net c w').2 := by
  have hspeaks : (s.obey c).SpeaksWithin s.registry.Registered :=
    s.speaksWithin_perform c.operation
  have hprimary : s.registry.Registered s.registry.primary.id :=
    ⟨s.registry.primary, List.head_mem _, rfl⟩
  constructor
  · exact carryOut_of_alike (hspeaks.alike hnet h hprimary)
  · intro a ha
    exact (hspeaks.alike hnet h ha).part

/-- A sequence of commands goes by the registered backends. -/
theorem course_of_registered (hnet : net.Separated part) (cs : List Command)
    (h : ∀ a, s.registry.Registered a → part a w = part a w') :
    (s.course net cs w).1 = (s.course net cs w').1 ∧
      ∀ a, s.registry.Registered a →
        part a (s.course net cs w).2 = part a (s.course net cs w').2 := by
  induction cs generalizing w w' with
  | nil => exact ⟨rfl, h⟩
  | cons c rest ih =>
    rcases carryOut_of_registered hnet h c with ⟨hseen, hparts⟩
    rcases ih hparts with ⟨hlater, hends⟩
    refine ⟨?_, hends⟩
    simp only [course, hseen, hlater]

/-- It speaks to nobody else. -/
theorem registered_of_course (s : Store) (net : Network ω) (cs : List Command) (w : ω) :
    ∀ o ∈ (s.course net cs w).1, ∀ x ∈ o.exchanges, s.registry.Registered x.backend := by
  induction cs generalizing w with
  | nil => exact fun _ ho => absurd ho List.not_mem_nil
  | cons c rest ih =>
    refine List.forall_mem_cons.2 ⟨?_, ih _⟩
    exact (s.speaksWithin_perform c.operation).backend net w

/-- It changes nobody else. -/
theorem course_frame (hnet : net.Separated part) (cs : List Command) {a : Int32}
    (ha : ¬ s.registry.Registered a) (w : ω) : part a (s.course net cs w).2 = part a w := by
  apply s.course_preserves (I := fun w' => part a w' = part a w) net _ cs rfl
  intro c w' hw'
  exact ((s.speaksWithin_perform c.operation).frame hnet ha w').trans hw'

end Registered

/-! ## Unique ids -/

open Dialogue (ofExcept)

variable {s : Store}

/-- An operation that begins by locating an entity is refused if the id cannot be read. -/
theorem refused_locate {α β : Type} {raw : String} {e : StoreError}
    (h : s.registry.decode raw = .error e) (k : Kind) (f : Place → Dialogue α) (g : α → β) :
    ∃ reason, g <$> (ofExcept (s.locate k raw) >>= f) = .fail (.invalidInput reason) := by
  refine ⟨if raw = "" then .entityId k else .uniqueId, ?_⟩
  rw [locate_of_decode_error h]
  rfl

/-- A change of memberships is refused if one of its ids cannot be read. -/
theorem refused_edit {k : Kind} {owner raw : String} (edit : MembershipEdit) {e : StoreError}
    (h : s.registry.decode raw = .error e) (hraw : raw = owner ∨ raw ∈ edit.ids) :
    ∃ reason, s.perform (edit.operation k owner) = .fail (.invalidInput reason) := by
  have hother : ∀ e', s.registry.decode owner = .ok e' → raw ∈ edit.ids := by
    rintro e' howner
    rcases hraw with rfl | hmem
    · rw [h] at howner
      contradiction
    · exact hmem
  cases s.editing k owner edit with
  | atOnce _ result hends hperform =>
    rcases hends with ⟨reason, -, rfl⟩ | ⟨⟨e', howner⟩, hidle, -⟩
    · exact ⟨reason, hperform⟩
    · rw [edit.ids_of_isIdle hidle] at hother
      exact absurd (hother e' howner) List.not_mem_nil
  | asked e' locals hreaches _ =>
    have hnone := List.findSome?_eq_none_iff.1
      (MembershipEdit.Localizes.no_offence hreaches.others) raw (hother e' hreaches.owner)
    simp only [offence?, h, reduceCtorEq] at hnone

/-- An operation is refused if one of its ids cannot be read. -/
theorem refused_of_decode_error {op : Operation} {raw : String} {e : StoreError}
    (h : s.registry.decode raw = .error e) (hraw : raw ∈ op.uniqueIds) :
    ∃ reason, s.perform op = .fail (.invalidInput reason) := by
  cases op with
  | authenticate | getByClaim | list | add | addAll => exact absurd hraw List.not_mem_nil
  | isMember user group =>
    cases huser : s.registry.decode user with
    | error e' => exact refused_locate huser .user _ _
    | ok e' =>
      rcases locate_of_decode huser .user with ⟨b, -, -, hlocate⟩
      have hgroup : s.registry.decode group = .error e := by
        rcases List.mem_cons.1 hraw with rfl | hrest
        · rw [h] at huser
          contradiction
        · rw [← List.mem_singleton.1 hrest]
          exact h
      have hstep : s.perform (.isMember user group) = .truth <$> s.isMember user group := rfl
      rw [hstep, isMember, hlocate]
      exact refused_locate hgroup .group _ _
  | get k uniqueId | memberships k uniqueId | claims k uniqueId | claimsFor k uniqueId
  | replaceClaims k uniqueId | changeClaims k uniqueId | delete k uniqueId =>
    rw [List.mem_singleton.1 hraw] at h
    exact refused_locate h k _ _
  | replaceCredentials uniqueId | changeCredentials uniqueId =>
    rw [List.mem_singleton.1 hraw] at h
    exact refused_locate h .user _ _
  | replaceMemberships k uniqueId others =>
    exact refused_edit (.replace others) h (List.mem_cons.1 hraw)
  | changeMemberships k uniqueId add remove =>
    exact refused_edit (.change add remove) h (List.mem_cons.1 hraw)

/-! ## Making a store -/

/-- Backends that are left out are logged, and that is all. -/
theorem run_tellSkipped {α ω : Type} (bs : List BackendConfig) (next : Dialogue α)
    (net : Network ω) (w : ω) :
    (tellSkipped bs >>= fun _ => next).run net w =
      { next.run net w with
        events := (bs.filter (!·.enabled)).map (.skipped ·.name) ++ (next.run net w).events } := by
  induction bs with
  | nil => rfl
  | cons b rest ih =>
    cases henabled : b.enabled with
    | false =>
      simp only [tellSkipped, henabled, List.filter_cons, Bool.false_eq_true, if_false,
        Bool.not_false, if_true, Dialogue.note_bind, Dialogue.run, ih]
      rfl
    | true =>
      simp only [tellSkipped, henabled, List.filter_cons, if_true, Bool.not_true,
        Bool.false_eq_true, if_false, ih]

/-- A store is made of a registry of the enabled backends, and nobody is asked for it. -/
theorem run_create {ω : Type} (config : StoreConfig) (bs : List BackendConfig) (net : Network ω)
    (w : ω) :
    let run := (create config bs).run net w
    run.result = (Registry.ofList (bs.filter (·.enabled))).map (Store.mk config) ∧
      run.state = w ∧ run.asked = [] := by
  intro run
  have hrun : run = _ := run_tellSkipped bs _ net w
  rw [hrun]
  cases Registry.ofList (bs.filter (·.enabled)) with
  | error e => exact ⟨rfl, rfl, rfl⟩
  | ok registry => exact ⟨rfl, rfl, rfl⟩

/-- The backends of a store are the enabled ones of those that it is made from. -/
theorem mem_ordered_iff {config : StoreConfig} {bs : List BackendConfig}
    (h : (Registry.ofList (bs.filter (·.enabled))).map (Store.mk config) = .ok s)
    {b : BackendConfig} : b ∈ s.registry.ordered ↔ b ∈ bs ∧ b.enabled = true := by
  cases hregistry : Registry.ofList (bs.filter (·.enabled)) with
  | error e =>
    rw [hregistry] at h
    contradiction
  | ok registry =>
    rw [hregistry] at h
    injection h with h
    rw [← h, ← List.mem_filter]
    exact (Registry.ordered_perm hregistry).mem_iff

/-! ## No influence -/

/-- The store goes by the enabled ones of the backends, and by nothing else about the list. -/
structure Heedless (s : Store) (bs : List BackendConfig) : Prop where
  /-- What is seen of commands, and what becomes of the enabled backends, is decided by these. -/
  course : ∀ {ω π : Type} {net : Network ω} {part : Int32 → ω → π}, net.Separated part →
    ∀ (cs : List Command) (w w' : ω),
      (∀ b ∈ bs, b.enabled = true → part b.id w = part b.id w') →
      (s.course net cs w).1 = (s.course net cs w').1 ∧
        ∀ b ∈ bs, b.enabled = true →
          part b.id (s.course net cs w).2 = part b.id (s.course net cs w').2
  /-- Only enabled backends are called. -/
  called : ∀ {ω : Type} (net : Network ω) (cs : List Command) (w : ω),
    ∀ o ∈ (s.course net cs w).1, ∀ x ∈ o.exchanges,
      ∃ b ∈ bs, b.enabled = true ∧ s.registry.byId? x.backend = some b
  /-- Only enabled backends are changed. -/
  frame : ∀ {ω π : Type} {net : Network ω} {part : Int32 → ω → π}, net.Separated part →
    ∀ (cs : List Command) (w : ω) (a : Int32), (∀ b ∈ bs, b.id = a → b.enabled = false) →
      part a (s.course net cs w).2 = part a w
  /-- Among directories, disabled ones may even share ids with enabled ones. -/
  directories : ∀ (cs : List Command) (ds ds' : List Directory),
    Directory.enabled ds = Directory.enabled ds' →
    (s.course Directory.network cs ds).1 = (s.course Directory.network cs ds').1 ∧
      Directory.enabled (s.course Directory.network cs ds).2 =
        Directory.enabled (s.course Directory.network cs ds').2
  /-- All the while they stay as they are, in their places. -/
  disabled : ∀ (cs : List Command) (ds : List Directory) (i : Nat) (d : Directory),
    ds[i]? = some d → d.config.enabled = false → (s.course Directory.network cs ds).2[i]? = some d
  /-- A unique id of a disabled backend is refused wherever it is given. -/
  refused : ∀ (raw : String) (e : EntityId), EntityId.decode? raw = some e →
    (∀ b ∈ bs, b.id = e.backend → b.enabled = false) →
      s.registry.decode raw = .error (.invalidInput .uniqueId) ∧
        ∀ op : Operation, raw ∈ op.uniqueIds →
          ∃ reason, s.perform op = .fail (.invalidInput reason)

/-- A store goes by the enabled ones of the backends that it is made from. -/
theorem heedless_of_create {config : StoreConfig} {bs : List BackendConfig}
    (h : (Registry.ofList (bs.filter (·.enabled))).map (Store.mk config) = .ok s) :
    s.Heedless bs := by
  have hunregistered : ∀ a, (∀ b ∈ bs, b.id = a → b.enabled = false) →
      ¬ s.registry.Registered a := by
    rintro a hdisabled ⟨b, hb, hid⟩
    rcases (mem_ordered_iff h).1 hb with ⟨hmem, henabled⟩
    rw [hdisabled b hmem hid] at henabled
    contradiction
  constructor
  case course =>
    intro ω π net part hnet cs w w' hparts
    have hstart : ∀ a, s.registry.Registered a → part a w = part a w' := by
      rintro a ⟨b, hb, rfl⟩
      rcases (mem_ordered_iff h).1 hb with ⟨hmem, henabled⟩
      exact hparts b hmem henabled
    rcases course_of_registered hnet cs hstart with ⟨hseen, hends⟩
    refine ⟨hseen, ?_⟩
    intro b hmem henabled
    exact hends b.id ⟨b, (mem_ordered_iff h).2 ⟨hmem, henabled⟩, rfl⟩
  case called =>
    intro ω net cs w o ho x hx
    rcases registered_of_course s net cs w o ho x hx with ⟨b, hb, hid⟩
    rcases (mem_ordered_iff h).1 hb with ⟨hmem, henabled⟩
    exact ⟨b, hmem, henabled, Registry.byId?_eq_some_iff.2 ⟨hb, hid⟩⟩
  case frame =>
    intro ω π net part hnet cs w a hdisabled
    exact course_frame hnet cs (hunregistered a hdisabled) w
  case directories =>
    intro cs ds ds' hsame
    have hcourse := s.course_enabled cs ds
    have hcourse' := s.course_enabled cs ds'
    rw [hsame, hcourse'] at hcourse
    injection hcourse with hseen hends
    exact ⟨hseen.symm, hends.symm⟩
  case disabled =>
    intro cs ds i d hi hd
    exact s.getElem?_course_of_disabled cs hi hd
  case refused =>
    intro raw e hraw hdisabled
    have hread : s.registry.decode raw = .error (.invalidInput .uniqueId) := by
      have hnone : s.registry.containsId e.backend = false := by
        rw [Bool.eq_false_iff, ne_eq, Registry.containsId_iff]
        exact hunregistered e.backend hdisabled
      simp only [Registry.decode, hraw, hnone, Bool.false_eq_true, if_false]
    exact ⟨hread, fun op hop => refused_of_decode_error hread hop⟩

/-- Disabled backends have no influence. Two lists with the same enabled backends, in the same
order, make the same store or are refused with the same error, and the store goes by the enabled
backends alone. -/
theorem create_of_enabled (config : StoreConfig) {bs bs' : List BackendConfig}
    (h : bs.filter (·.enabled) = bs'.filter (·.enabled)) {ω ω' : Type} (net : Network ω) (w : ω)
    (net' : Network ω') (w' : ω') :
    ((create config bs).run net w).result = ((create config bs').run net' w').result ∧
      ∀ s, ((create config bs).run net w).result = .ok s → s.Heedless bs ∧ s.Heedless bs' := by
  obtain ⟨hresult, -, -⟩ := run_create config bs net w
  obtain ⟨hresult', -, -⟩ := run_create config bs' net' w'
  rw [hresult, hresult', h]
  refine ⟨rfl, ?_⟩
  intro s hs
  exact ⟨heedless_of_create (h ▸ hs), heedless_of_create hs⟩

/-- Two disabled backends that clash with the primary one, in id and in name, leave no trace, and
an id of a third one cannot be read. -/
theorem create_of_enabled_poles :
    let twin : BackendConfig := ⟨-2147483648, "twin", -9, false, .empty⟩
    let namesake : BackendConfig := ⟨5, "NORTH", 0, false, .empty⟩
    let bs := twin :: Registry.poles.ordered ++ [namesake]
    let ds := bs.map Directory.new
    let s : Store := ⟨.standard, .poles⟩
    let ann := Operation.add .user ⟨[⟨Claim.usernameUri, "ann"⟩], []⟩ none
    let stray := EntityId.encode ⟨5, "u.1"⟩
    let seen := s.course Directory.network [.operate ann, .operate (.get .user stray)] ds
    bs.filter (·.enabled) = Registry.poles.ordered.filter (·.enabled) ∧
      ((create .standard bs).run Directory.network ds).result = .ok s ∧
      seen.1 = (s.course Directory.network [.operate ann, .operate (.get .user stray)]
        (Registry.poles.ordered.map Directory.new)).1 ∧
      seen.2[0]? = some (Directory.new twin) ∧
      ∃ reason, s.perform (.get .user stray) = .fail (.invalidInput reason) := by
  intro twin namesake bs ds s ann stray seen
  have hsame : bs.filter (·.enabled) = Registry.poles.ordered.filter (·.enabled) := rfl
  obtain ⟨hresult, hheedless⟩ := create_of_enabled .standard hsame Directory.network ds
    Directory.network (Registry.poles.ordered.map Directory.new)
  have hmade : ((create .standard bs).run Directory.network ds).result = .ok s := by
    rw [hresult, (run_create _ _ _ _).1]
    have hall : Registry.poles.ordered.filter (·.enabled) = Registry.poles.ordered := rfl
    rw [hall, Registry.ofList_poles]
    rfl
  obtain ⟨hs, -⟩ := hheedless s hmade
  refine ⟨hsame, hmade, ?_, ?_, ?_⟩
  · exact (hs.directories _ ds (Registry.poles.ordered.map Directory.new) rfl).1
  · exact hs.disabled _ ds 0 _ rfl rfl
  · have hraw : EntityId.decode? stray = some ⟨5, "u.1"⟩ := by decide
    exact (hs.refused stray _ hraw (by decide)).2 (.get .user stray) (List.mem_singleton_self _)

end Store

end Federation
