import Federation.Proofs.Session.Course
import Federation.Proofs.Store.Ground
import Federation.Proofs.Store.Handles

/-!
# Federation.Proofs.Session.Comparison — equal handles are handles of one entity

A unique id is written for one backend id and one local id, whatever texts local ids are. Backends
of one store differ in their ids, so two handles of a kind that a store handed out are equal exactly
if they were built for the same backend and the same local id. A client can rely on that at every
point of a session: it keeps no handles but those that its store handed out.
-/

namespace Federation

open Directory (network)

/-! ## Handles of a store -/

/-- Handles of entities of one store are equal exactly if the backends and the local ids are. -/
theorem Handle.of_eq_iff {k : Kind} {r : Registry} {b b' : BackendConfig} {l l' : String}
    (hb : b ∈ r.ordered) (hb' : b' ∈ r.ordered) :
    (Handle.of b l : Handle k) = .of b' l' ↔ b = b' ∧ l = l' := by
  constructor
  · intro h
    have hraw : EntityId.encode ⟨b.id, l⟩ = EntityId.encode ⟨b'.id, l'⟩ :=
      congrArg Handle.uniqueId h
    rcases EntityId.encode_eq_iff.1 hraw with ⟨hid, hl⟩
    exact ⟨Registry.eq_of_id_eq hb hb' hid, hl⟩
  · rintro ⟨rfl, rfl⟩
    rfl

namespace Store

variable {s : Store} {k : Kind}

/-- The store handed out the handle for a local id at a backend: it was built for them, and is in
the answer to an operation in the course of which the backend reported this local id. -/
structure HandsOut (s : Store) (h : Handle k) (b : BackendConfig) (l : String) : Prop where
  registered : b ∈ s.registry.ordered
  built : h = .of b l
  answered : ∃ (ω : Type) (net : Network ω) (w : ω) (op : Operation) (a : Answer),
    ((s.perform op).run net w).result = .ok a ∧ ⟨k, h⟩ ∈ a.handedOut ∧
      (b.id, k, l) ∈ ((s.perform op).exchanges net w).flatMap Exchange.reports

/-- Every handle in an answer was handed out for a local id at a backend. -/
theorem exists_handsOut {ω : Type} {net : Network ω} {w : ω} {op : Operation} {a : Answer}
    (ha : ((s.perform op).run net w).result = .ok a) {h : Handle k} (hh : ⟨k, h⟩ ∈ a.handedOut) :
    ∃ b l, s.HandsOut h b l := by
  have hvouched : s.VouchesFor ((s.perform op).exchanges net w) a :=
    (s.grants_perform op).run net ha
  rcases hvouched ⟨k, h⟩ hh with ⟨b, hb, l, hreported, hof⟩
  exact ⟨b, l, hb, hof, ω, net, w, op, a, ha, hh, hreported⟩

/-- Equality tells what handles were built for. -/
theorem HandsOut.eq_iff {h h' : Handle k} {b b' : BackendConfig} {l l' : String}
    (hout : s.HandsOut h b l) (hout' : s.HandsOut h' b' l') : h = h' ↔ b = b' ∧ l = l' := by
  rw [hout.built, hout'.built]
  exact Handle.of_eq_iff hout.registered hout'.registered

/-- The handles of a kind that the store hands out are equal exactly if they were built for the
same backend and the same local id. -/
structure TellsApart (s : Store) (k : Kind) : Prop where
  origin : ∀ {ω : Type} (net : Network ω) (w : ω) (op : Operation) (a : Answer),
    ((s.perform op).run net w).result = .ok a →
      ∀ h : Handle k, ⟨k, h⟩ ∈ a.handedOut → ∃ b l, s.HandsOut h b l
  equal : ∀ (h h' : Handle k) (b b' : BackendConfig) (l l' : String),
    s.HandsOut h b l → s.HandsOut h' b' l' → (h = h' ↔ b = b' ∧ l = l')

end Store

/-! ## Kept handles -/

namespace Session

variable {s : Session} {P : (k : Kind) × Handle k → Prop}

/-- Every handle that is kept has the property. -/
def AllKept (s : Session) (P : (k : Kind) × Handle k → Prop) : Prop :=
  ∀ name h, s.kept.get? name = some h → P h

/-- One more handle. -/
theorem AllKept.keep (hs : s.AllKept P) {k : Kind} {h : Handle k} (hh : P ⟨k, h⟩)
    (name : String) : (s.keep name h).AllKept P := by
  intro name' h' hget
  have hinsert : (s.kept.insert name ⟨k, h⟩).get? name' = some h' := hget
  rw [Dict.get?_insert] at hinsert
  by_cases hname : name' = name
  · rw [if_pos hname] at hinsert
    injection hinsert with hinsert
    rw [← hinsert]
    exact hh
  · rw [if_neg hname] at hinsert
    exact hs name' h' hinsert

/-- Several more handles, one after another. -/
theorem AllKept.keepFrom (hs : s.AllKept P) {k : Kind} {handles : List (Handle k)}
    (hhandles : ∀ h ∈ handles, P ⟨k, h⟩) (name : String) (n : Nat) :
    (keepFrom name n handles s).AllKept P := by
  induction handles generalizing n s with
  | nil => exact hs
  | cons h rest ih =>
    rcases List.forall_mem_cons.1 hhandles with ⟨hh, hrest⟩
    exact ih (hs.keep hh _) hrest (n + 1)

/-- No handles are kept of an answer but those that are in it. -/
theorem AllKept.keepAnswer (hs : s.AllKept P) {a : Answer} (ha : ∀ h ∈ a.handedOut, P h)
    (name : Option String) : (s.keepAnswer name a).AllKept P := by
  cases name with
  | none => exact hs
  | some name =>
    cases a with
    | handle k h => exact hs.keep (ha ⟨k, h⟩ (List.mem_singleton_self _)) name
    | handles k handles =>
      exact hs.keepFrom (fun h hh => ha ⟨k, h⟩ (List.mem_map_of_mem hh)) name 0
    | _ => exact hs

/-- Every handle that is kept was handed out by the store. -/
def KeepsHandedOut (s : Session) : Prop :=
  s.AllKept fun h => ∃ b l, s.store.HandsOut h.2 b l

/-- An operation adds no handles but those that the store hands out in its answer. -/
theorem KeepsHandedOut.operate (hs : s.KeepsHandedOut) (name : Option String) (op : Operation) :
    (s.operate name op).1.KeepsHandedOut := by
  have hstore := (s.operate_eq name op).1
  unfold KeepsHandedOut
  rw [hstore]
  unfold Session.operate
  cases hresult : ((s.store.perform op).run network s.directories).result with
  | error e =>
    simp only [hresult]
    exact hs
  | ok a =>
    simp only [hresult]
    refine AllKept.keepAnswer ?_ ?_ name
    · exact hs
    · intro h hh
      exact Store.exists_handsOut hresult hh

/-- Every step leaves it so. -/
theorem KeepsHandedOut.step (hs : s.KeepsHandedOut) (name : Option String) (step : Step) :
    (s.step name step).1.KeepsHandedOut := by
  cases s.proceeds name step with
  | still authority hc hleft hevents =>
    rw [hleft]
    exact hs
  | direct index r present hc hdirect hstep =>
    obtain ⟨ds, hleft, -⟩ := s.askDirectly_eq index r present
    rw [hstep, hleft]
    exact hs
  | command c hc hstep =>
    rw [hstep]
    exact hs.operate name c.operation

/-- So it is at every point of a session. -/
theorem KeepsHandedOut.after (hs : s.KeepsHandedOut) (steps : List (Option String × Step)) :
    (s.after steps).KeepsHandedOut :=
  after_preserves (fun _ name step h => h.step name step) hs steps

/-- A session starts without handles. -/
theorem keepsHandedOut_of_start {config : StoreConfig} {ds : List Directory}
    {outage : Option String} {events : List Event}
    (hstart : start config ds outage = (.ok s, events)) : s.KeepsHandedOut := by
  obtain ⟨-, -, hkept⟩ := of_start hstart
  intro name h hget
  rw [hkept, Dict.get?_empty] at hget
  contradiction

/-! ## Comparing -/

theorem kept_of_handle? {k : Kind} {name : String} {h : Handle k}
    (hh : s.handle? k name = some h) : s.kept.get? name = some ⟨k, h⟩ := by
  unfold handle? at hh
  cases hget : s.kept.get? name with
  | none =>
    rw [hget] at hh
    contradiction
  | some kept =>
    rcases kept with ⟨k', h'⟩
    rw [hget] at hh
    by_cases hk : k' = k
    · subst hk
      simp only [dif_pos] at hh
      rw [Option.some.inj hh]
    · simp only [dif_neg hk] at hh
      contradiction

/-- Two handles of one kind are compared for equality. -/
theorem compare_eq {k : Kind} {first second : String} {h h' : Handle k}
    (hh : s.handle? k first = some h) (hh' : s.handle? k second = some h') :
    s.compare first second = .ok (.answer (.truth (h = h'))) := by
  simp only [compare, kept_of_handle? hh, kept_of_handle? hh', dif_pos]

/-- What a client hears when it compares handles. -/
structure Compares (s : Session) : Prop where
  /-- Every handle that it keeps was handed out for a local id at a backend. -/
  origin : ∀ (k : Kind) (name : String) (h : Handle k), s.handle? k name = some h →
    ∃ b l, s.store.HandsOut h b l
  /-- Two handles of a kind are called equal exactly if they were built for the same. -/
  compared : ∀ (k : Kind) (first second : String) (h h' : Handle k) (b b' : BackendConfig)
    (l l' : String), s.handle? k first = some h → s.handle? k second = some h' →
    s.store.HandsOut h b l → s.store.HandsOut h' b' l' → ∃ v,
      (s.step none (.compare first second)).2.result = .ok (.answer (.truth v)) ∧
        (v = true ↔ b = b' ∧ l = l')

/-- A client that keeps only what its store handed out hears of the origin of handles. -/
theorem KeepsHandedOut.compares (hs : s.KeepsHandedOut) : s.Compares := by
  constructor
  case origin =>
    intro k name h hh
    exact hs name ⟨k, h⟩ (kept_of_handle? hh)
  case compared =>
    intro k first second h h' b b' l l' hh hh' hout hout'
    have hanswer : (s.step none (.compare first second)).2.result =
        .ok (.answer (.truth (h = h'))) := compare_eq hh hh'
    refine ⟨_, hanswer, ?_⟩
    rw [decide_eq_true_eq]
    exact hout.eq_iff hout'

end Session

/-- Equality of handles is equality of entities. Unique ids are equal if and only if they were
written for the same backend id and the same local id, whatever texts the local ids are. Hence two
users, or two groups, that one store handed out are equal if and only if they were built for the
same backend and the same local id; and this is what a client is told that compares two handles,
at every point of every session. -/
theorem handles_eq_iff :
    (∀ (b b' : Int32) (l l' : String),
      EntityId.encode ⟨b, l⟩ = EntityId.encode ⟨b', l'⟩ ↔ b = b' ∧ l = l') ∧
    (∀ (s : Store) (k : Kind), s.TellsApart k) ∧
    ∀ (config : StoreConfig) (ds : List Directory) (outage : Option String) (s : Session)
      (events : List Event), Session.start config ds outage = (.ok s, events) →
        ∀ steps, (s.after steps).Compares := by
  refine ⟨fun b b' l l' => EntityId.encode_eq_iff, ?_, ?_⟩
  · intro s k
    constructor
    case origin => exact fun net w op a ha h hh => Store.exists_handsOut ha hh
    case equal => exact fun h h' b b' l l' hout hout' => hout.eq_iff hout'
  · intro config ds outage s events hstart steps
    exact ((Session.keepsHandedOut_of_start hstart).after steps).compares

/-- A user that is listed is the one that was added, and not the other one that was. -/
theorem handles_eq_iff_listed :
    let ds := Registry.poles.ordered.map Directory.new
    let s : Session := ⟨⟨.standard, .poles⟩, ds, ⟨[], none⟩, .empty⟩
    let user (name : String) : NewUser := ⟨[⟨Claim.usernameUri, name⟩], []⟩
    let later := s.after
      [(some "ann", .operate (.add .user (user "ann") none)),
        (some "bob", .operate (.add .user (user "bob") none)),
        (some "listed", .operate (.list .user .all 0 (-1) none))]
    ∃ ann listed bob : User, later.handle? .user "ann" = some ann ∧
      later.handle? .user "listed.0" = some listed ∧ later.handle? .user "bob" = some bob ∧
      ∃ b l, later.store.HandsOut ann b l ∧ later.store.HandsOut listed b l ∧
        ¬ later.store.HandsOut bob b l := by
  intro ds s user later
  have hstart : Session.start .standard ds none =
      (.ok s, (Session.start .standard ds none).2) := by
    apply Prod.ext
    · simp only [Session.start, Store.create_poles ds rfl]
      rfl
    · rfl
  obtain ⟨-, happart, hsessions⟩ := handles_eq_iff
  have hcompares : later.Compares := hsessions .standard ds none s _ hstart _
  obtain ⟨ann, hann⟩ : ∃ ann, later.handle? .user "ann" = some ann :=
    Option.isSome_iff_exists.1 (by decide)
  obtain ⟨listed, hlisted⟩ : ∃ listed, later.handle? .user "listed.0" = some listed :=
    Option.isSome_iff_exists.1 (by decide)
  obtain ⟨bob, hbob⟩ : ∃ bob, later.handle? .user "bob" = some bob :=
    Option.isSome_iff_exists.1 (by decide)
  obtain ⟨b, l, hout⟩ := hcompares.origin .user "ann" ann hann
  obtain ⟨b', l', hout'⟩ := hcompares.origin .user "listed.0" listed hlisted
  refine ⟨ann, listed, bob, hann, hlisted, hbob, b, l, hout, ?_, ?_⟩
  · have hkept : later.handle? .user "ann" = later.handle? .user "listed.0" := by decide
    rw [hann, hlisted] at hkept
    have hsame : ann = listed := Option.some.inj hkept
    obtain ⟨rfl, rfl⟩ :=
      ((happart later.store .user).equal ann listed b b' l l' hout hout').1 hsame
    exact hout'
  · intro hother
    have hkept : later.handle? .user "ann" ≠ later.handle? .user "bob" := by decide
    have hsame : ann = bob :=
      ((happart later.store .user).equal ann bob b b l l hout hother).2 ⟨rfl, rfl⟩
    rw [hann, hbob, hsame] at hkept
    exact hkept rfl

end Federation
