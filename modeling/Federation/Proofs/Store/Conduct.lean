import Federation.Proofs.Dialogue
import Federation.Proofs.UniqueId
import Federation.Store.Operation

/-!
# Federation.Proofs.Store.Conduct — how operations go about their work

What an operation can do is said here once. It checks its arguments before it speaks to anyone,
and refuses them as invalid input. After that it speaks to one backend only. It reads, and stops
if an entity is reported absent; it writes at most once, and after that makes no further request;
and a failure of the backend ends it, with the failure as the cause. Logins follow rules of their
own.
-/

namespace Federation

/-! ## Checks of arguments -/

/-- A check that refuses arguments only as invalid input. -/
def Guard {α : Type} (x : Except StoreError α) : Prop :=
  ∀ e, x = .error e → ∃ reason, e = .invalidInput reason

namespace Guard

variable {α β : Type}

/-- What is accepted is not refused. -/
theorem ok (a : α) : Guard (.ok a) := by
  intro e he
  contradiction

/-- A refusal of an argument. -/
theorem invalid (reason : InvalidInput) : Guard (.error (.invalidInput reason) : Except _ α) := by
  intro e he
  exact ⟨reason, (Except.error.inj he).symm⟩

/-- Two checks in a row. -/
theorem bind {x : Except StoreError α} {f : α → Except StoreError β} (hx : Guard x)
    (hf : ∀ a, Guard (f a)) : Guard (x >>= f) := by
  cases x with
  | error e =>
    rcases hx e rfl with ⟨reason, rfl⟩
    exact invalid reason
  | ok a => exact hf a

/-- A check of one argument or another. -/
theorem ite {x y : Except StoreError α} {c : Prop} [Decidable c] (hx : Guard x) (hy : Guard y) :
    Guard (if c then x else y) := by
  by_cases hc : c
  · rw [if_pos hc]
    exact hx
  · rw [if_neg hc]
    exact hy

/-- A check of each of several arguments. -/
theorem mapM {f : α → Except StoreError β} (hf : ∀ a, Guard (f a)) (l : List α) :
    Guard (l.mapM f) := by
  induction l with
  | nil => exact ok []
  | cons a rest ih =>
    rw [List.mapM_cons]
    exact bind (hf a) fun b => bind ih fun bs => ok (b :: bs)

end Guard

/-- The answer to a question for an entity says that it is not there. -/
def Request.reportsAbsence : (r : Request) → r.Answer → Bool
  | .isPresent .., present => !present
  | .find .., found => Option.isNone found
  | _, _ => false

/-! ## Orderly dialogues -/

namespace Dialogue

variable {α β : Type} {b : Int32}

/-- A dialogue that ends with a value, after one event at most. -/
inductive Settled : Dialogue α → Prop
  | done (a : α) : Settled (.done a)
  | note (e : Event) (a : α) : Settled (.note e (.done a))

/-- A dialogue with one backend that reads, stops if an entity is absent, writes once at most and
makes no request after that, and ends with the first failure. -/
inductive Orderly (b : Int32) : Dialogue α → Prop
  | settled {d : Dialogue α} (h : Settled d) : Orderly b d
  | read (task : Task) (r : Request) (next : r.Answer → Dialogue α) (hr : r.isWrite = false)
      (habsent : ∀ a, r.reportsAbsence a = true → ∃ what, next a = .fail (.notFound what))
      (hpresent : ∀ a, r.reportsAbsence a = false → Orderly b (next a)) :
      Orderly b (demand task b r >>= next)
  | write (task : Task) (r : Request) (next : r.Answer → Dialogue α) (hr : r.isWrite = true)
      (hnext : ∀ a, Settled (next a)) : Orderly b (demand task b r >>= next)

/-- A dialogue that refuses its arguments at once, or is orderly. -/
inductive Admitted (b : Int32) (d : Dialogue α) : Prop
  | refused (reason : InvalidInput) (h : d = .fail (.invalidInput reason))
  | orderly (h : Orderly b d)

theorem Settled.map {d : Dialogue α} (f : α → β) (h : Settled d) : Settled (f <$> d) := by
  cases h with
  | done a => exact .done (f a)
  | note e a => exact .note e (f a)

/-- A dialogue stays orderly if something is made of its value. -/
theorem Orderly.map {d : Dialogue α} (f : α → β) (h : Orderly b d) : Orderly b (f <$> d) := by
  induction h with
  | settled h => exact .settled (h.map f)
  | read task r next hr habsent _ ih =>
    rw [map_bind]
    refine .read task r _ hr ?_ ih
    intro a ha
    rcases habsent a ha with ⟨what, hwhat⟩
    exact ⟨what, by rw [hwhat, map_fail]⟩
  | write task r next hr hnext =>
    rw [map_bind]
    exact .write task r _ hr fun a => (hnext a).map f

theorem Admitted.map {d : Dialogue α} (f : α → β) (h : Admitted b d) : Admitted b (f <$> d) := by
  cases h with
  | refused reason h => exact .refused reason (by rw [h, map_fail])
  | orderly h => exact .orderly (h.map f)

/-- A check comes before all requests. -/
theorem Admitted.guard {x : Except StoreError α} {f : α → Dialogue β} (hx : Guard x)
    (hf : ∀ a, x = .ok a → Admitted b (f a)) : Admitted b (ofExcept x >>= f) := by
  cases x with
  | error e =>
    rcases hx e rfl with ⟨reason, rfl⟩
    exact .refused reason rfl
  | ok a => exact hf a rfl

/-- A request alone, unless it asks whether an entity is there. -/
theorem Orderly.demand (task : Task) (r : Request) (hr : ∀ a, r.reportsAbsence a = false) :
    Orderly b (demand task b r) := by
  -- it is followed by the return of its answer
  rw [← bind_pure (Dialogue.demand task b r)]
  cases hw : r.isWrite with
  | true => exact .write task r _ hw fun a => .done a
  | false =>
    refine .read task r _ hw ?_ fun a _ => .settled (.done a)
    intro a ha
    rw [hr a] at ha
    contradiction

/-- Where there may be nothing to do, that is done at once. -/
theorem Admitted.unlessIdle {d : Dialogue α} {a : α} {c : Prop} [Decidable c]
    (h : Admitted b d) : Admitted b (if c then .done a else d) := by
  by_cases hc : c
  · rw [if_pos hc]
    exact .orderly (.settled (.done a))
  · rw [if_neg hc]
    exact h

/-! ### What follows from it -/

/-- A property of all ends of an orderly dialogue, which a request has if its dialogue has it after
every answer, is one of the whole dialogue. -/
theorem Orderly.rule {Q : Dialogue α → Prop} {d : Dialogue α} (h : Orderly b d)
    (hsettled : ∀ d, Settled d → Q d) (habsent : ∀ what, Q (.fail (.notFound what)))
    (hfailure : ∀ task e, Q (.fail (.backendFailure task e)))
    (hask : ∀ r next, (∀ answer, Q (next answer)) → Q (.ask b r next)) : Q d := by
  induction h with
  | settled h => exact hsettled _ h
  | read task r next hr hnone _ ih =>
    rw [demand_bind]
    apply hask
    rintro (e | a)
    · exact hfailure task e
    · show Q (next a)
      cases ha : r.reportsAbsence a with
      | false => exact ih a ha
      | true =>
        rcases hnone a ha with ⟨what, hwhat⟩
        rw [hwhat]
        exact habsent what
  | write task r next hr hnext =>
    rw [demand_bind]
    apply hask
    rintro (e | a)
    · exact hfailure task e
    · exact hsettled _ (hnext a)

/-- An orderly dialogue ends with a value, an absence or a failure of the backend. -/
theorem Orderly.ends {d : Dialogue α} {P : Except StoreError α → Prop} (h : Orderly b d)
    (hvalue : ∀ a, P (.ok a)) (habsent : ∀ what, P (.error (.notFound what)))
    (hfailure : ∀ task e, P (.error (.backendFailure task e))) : d.Ends P := by
  refine h.rule ?_ habsent hfailure fun r next hnext => hnext
  intro d hd
  cases hd with
  | done a => exact hvalue a
  | note e a => exact hvalue a

/-- An orderly dialogue speaks to its backend only. -/
theorem Orderly.speaksTo {d : Dialogue α} (h : Orderly b d) : d.SpeaksTo b := by
  refine h.rule ?_ (fun _ => trivial) (fun _ _ => trivial) fun r next hnext => ⟨rfl, hnext⟩
  intro d hd
  cases hd with
  | done a => trivial
  | note e a => trivial

/-- An orderly dialogue speaks to nobody to whom it puts no request. -/
theorem Orderly.speaksWithin {d : Dialogue α} {P : Int32 → Prop} (h : Orderly b d)
    (hputs : d.Puts fun a _ => P a) : d.SpeaksWithin P := by
  refine h.rule (Q := fun d => d.Puts (fun a _ => P a) → d.SpeaksWithin P) ?_
    (fun _ _ => trivial) (fun _ _ _ => trivial) ?_ hputs
  · intro d hd _
    cases hd with
    | done a => trivial
    | note e a => trivial
  · intro r next hnext hask
    exact ⟨hask.1, fun answer => hnext answer (hask.2 answer)⟩

theorem Admitted.speaksTo {d : Dialogue α} (h : Admitted b d) : d.SpeaksTo b := by
  cases h with
  | refused reason h =>
    rw [h]
    trivial
  | orderly h => exact h.speaksTo

end Dialogue

/-- The operation is a login. -/
def Operation.isLogin : Operation → Bool
  | .authenticate .. => true
  | _ => false

namespace Store

open Dialogue (ofExcept demand Admitted Orderly Settled)

variable {s : Store} {a : Int32} {k : Kind}

/-! ## Addresses -/

/-- A unique id leads to the backend with the id `a`, unless it is nobody's. -/
def IdLeadsTo (s : Store) (a : Int32) (uniqueId : String) : Prop :=
  ∀ e, s.registry.decode uniqueId = .ok e → e.backend = a

/-- A backend name, or none, leads to the backend with the id `a`, unless it is unknown. -/
def NameLeadsTo (s : Store) (a : Int32) (name : Option String) : Prop :=
  ∀ b, s.resolve name = .ok b → b.id = a

/-- An operation addresses the backend with the id `a`: its unique id or its backend name leads
there. A membership is asked of the backend of either end; a login must name its backend. -/
def Addresses (s : Store) (a : Int32) : Operation → Prop
  | .authenticate _ _ backend => given? backend ≠ none ∧ s.NameLeadsTo a backend
  | .getByClaim _ _ backend | .list _ _ _ _ backend | .add _ _ backend | .addAll _ _ backend =>
    s.NameLeadsTo a backend
  | .isMember user group => s.IdLeadsTo a user ∨ s.IdLeadsTo a group
  | .get _ uniqueId | .memberships _ uniqueId | .claims _ uniqueId | .claimsFor _ uniqueId _
  | .replaceClaims _ uniqueId _ | .changeClaims _ uniqueId _ _ | .replaceCredentials uniqueId _
  | .changeCredentials uniqueId _ _ | .delete _ uniqueId | .replaceMemberships _ uniqueId _
  | .changeMemberships _ uniqueId _ _ => s.IdLeadsTo a uniqueId

/-- The unique id of an entity leads to its backend. -/
theorem idLeadsTo_encode (s : Store) {e : EntityId} (h : e.localId ≠ "") :
    s.IdLeadsTo e.backend e.encode := by
  intro e' hread
  rcases Registry.decode_eq_ok_iff.1 hread with ⟨-, hlocal, hraw⟩
  have hsame : EntityId.decode? e.encode = some e := EntityId.decode?_eq_some_iff.2 ⟨rfl, h⟩
  rw [EntityId.decode?_eq_some_iff.2 ⟨hraw, hlocal⟩] at hsame
  rw [Option.some.inj hsame]

/-- Every unique id leads somewhere. -/
theorem exists_idLeadsTo (s : Store) (uniqueId : String) : ∃ a, s.IdLeadsTo a uniqueId := by
  unfold IdLeadsTo
  cases s.registry.decode uniqueId with
  | error e => exact ⟨0, fun _ he => by contradiction⟩
  | ok e => exact ⟨e.backend, fun e' he => by rw [Except.ok.inj he]⟩

/-- Every backend name leads somewhere. -/
theorem exists_nameLeadsTo (s : Store) (name : Option String) : ∃ a, s.NameLeadsTo a name := by
  unfold NameLeadsTo
  cases s.resolve name with
  | error e => exact ⟨0, fun _ hb => by contradiction⟩
  | ok b => exact ⟨b.id, fun b' hb => by rw [Except.ok.inj hb]⟩

/-- Whatever is done but logging in addresses some backend. -/
theorem exists_addresses (s : Store) {op : Operation} (hop : op.isLogin = false) :
    ∃ a, s.Addresses a op := by
  cases op with
  | authenticate claim credentials backend => contradiction
  | getByClaim _ _ backend => exact s.exists_nameLeadsTo backend
  | list _ _ _ _ backend => exact s.exists_nameLeadsTo backend
  | add _ _ backend => exact s.exists_nameLeadsTo backend
  | addAll _ _ backend => exact s.exists_nameLeadsTo backend
  | isMember user _ =>
    rcases s.exists_idLeadsTo user with ⟨a, ha⟩
    exact ⟨a, .inl ha⟩
  | get _ uniqueId => exact s.exists_idLeadsTo uniqueId
  | memberships _ uniqueId => exact s.exists_idLeadsTo uniqueId
  | claims _ uniqueId => exact s.exists_idLeadsTo uniqueId
  | claimsFor _ uniqueId _ => exact s.exists_idLeadsTo uniqueId
  | replaceClaims _ uniqueId _ => exact s.exists_idLeadsTo uniqueId
  | changeClaims _ uniqueId _ _ => exact s.exists_idLeadsTo uniqueId
  | replaceCredentials uniqueId _ => exact s.exists_idLeadsTo uniqueId
  | changeCredentials uniqueId _ _ => exact s.exists_idLeadsTo uniqueId
  | delete _ uniqueId => exact s.exists_idLeadsTo uniqueId
  | replaceMemberships _ uniqueId _ => exact s.exists_idLeadsTo uniqueId
  | changeMemberships _ uniqueId _ _ => exact s.exists_idLeadsTo uniqueId

/-! ## The store's checks -/

/-- Reading a unique id is a check. -/
theorem guard_decode (r : Registry) (raw : String) : Guard (r.decode raw) := by
  unfold Registry.decode
  split
  · exact Guard.ite (Guard.ok _) (Guard.invalid _)
  · exact Guard.invalid _

/-- Looking a backend name up is a check. -/
theorem guard_byName (r : Registry) (name : String) : Guard (r.byName name) := by
  unfold Registry.byName
  split
  · exact Guard.ok _
  · exact Guard.invalid _

theorem guard_resolve (s : Store) (name : Option String) : Guard (s.resolve name) := by
  unfold resolve
  split
  · exact guard_byName _ _
  · exact Guard.ok _

theorem guard_locate (s : Store) (k : Kind) (uniqueId : String) : Guard (s.locate k uniqueId) := by
  unfold locate
  refine Guard.ite (Guard.invalid _) (Guard.bind (guard_decode _ _) fun e => ?_)
  split
  · exact Guard.ok _
  · exact Guard.invalid _

theorem guard_localIdsIn (s : Store) (owner : Int32) (uniqueIds : List String) :
    Guard (s.localIdsIn owner uniqueIds) :=
  Guard.mapM (fun _ => Guard.bind (guard_decode _ _) fun _ =>
    Guard.ite (Guard.ok _) (Guard.invalid _)) uniqueIds

theorem guard_checkSearch (claim : Claim) : Guard claim.checkSearch :=
  Guard.ite (Guard.invalid _) (Guard.ok _)

theorem guard_check (filter : Filter) : Guard filter.check := by
  cases filter with
  | all => exact Guard.ok _
  | byClaim claim => exact guard_checkSearch claim
  | byMetaClaim m pattern => exact Guard.ite (Guard.invalid _) (Guard.ok _)

theorem guard_ofRange? (offset length : Int32) : Guard (Page.ofRange? offset length) :=
  Guard.ite (Guard.invalid _) (Guard.ite (Guard.ok _) (Guard.ok _))

theorem guard_validate (s : Store) (payload : Payload k) : Guard (s.validate payload) := by
  cases k with
  | user => exact Guard.ite (Guard.invalid _) (Guard.ite (Guard.invalid _) (Guard.ok _))
  | group => exact Guard.ite (Guard.invalid _) (Guard.ok _)

theorem guard_validateAll (s : Store) (payloads : List (Payload k)) :
    Guard (s.validateAll payloads) := by
  induction payloads with
  | nil => exact Guard.ok _
  | cons p rest ih =>
    have hp := guard_validate s p
    unfold validateAll
    cases hv : s.validate p with
    | ok u => exact ih
    | error e =>
      rw [hv] at hp
      rcases hp e rfl with ⟨reason, rfl⟩
      exact Guard.invalid reason

theorem guard_validateBatch (s : Store) (payloads : List (Payload k)) :
    Guard (s.validateBatch payloads) :=
  Guard.ite (Guard.invalid _) (guard_validateAll s payloads)

/-! ## Routing -/

/-- The place that a unique id leads to is the one that is written in it. -/
theorem decode_of_locate {uniqueId : String} {p : Place} (h : s.locate k uniqueId = .ok p) :
    s.registry.decode uniqueId = .ok ⟨p.backend.id, p.localId⟩ := by
  unfold locate at h
  split at h
  · contradiction
  · cases hread : s.registry.decode uniqueId with
    | error e =>
      rw [hread] at h
      contradiction
    | ok e =>
      rw [hread] at h
      simp only [bind, Except.bind] at h
      split at h
      · rename_i b hb
        injection h with h
        subst h
        rw [Registry.id_of_byId? hb]
      · contradiction

theorem IdLeadsTo.locate {uniqueId : String} {p : Place} (h : s.IdLeadsTo a uniqueId)
    (hp : s.locate k uniqueId = .ok p) : p.backend.id = a :=
  h _ (decode_of_locate hp)

/-- An operation that begins by locating an entity speaks to the backend of the entity. -/
theorem admitted_locate {α : Type} {uniqueId : String} {f : Place → Dialogue α}
    (h : s.IdLeadsTo a uniqueId) (hf : ∀ p, Admitted p.backend.id (f p)) :
    Admitted a (ofExcept (s.locate k uniqueId) >>= f) := by
  apply Admitted.guard (guard_locate s k uniqueId)
  intro p hp
  rw [← h.locate hp]
  exact hf p

/-- An operation that begins by resolving a name speaks to the backend of that name. -/
theorem admitted_resolve {α : Type} {name : Option String} {f : BackendConfig → Dialogue α}
    (h : s.NameLeadsTo a name) (hf : ∀ b, Admitted b.id (f b)) :
    Admitted a (ofExcept (s.resolve name) >>= f) := by
  apply Admitted.guard (guard_resolve s name)
  intro b hb
  rw [← h b hb]
  exact hf b

/-- What follows after an entity was found to be there is all the same orderly. -/
theorem orderly_ensurePresent {α : Type} {p : Place} {uniqueId : String}
    {f : Unit → Dialogue α} (hf : Orderly p.backend.id (f ())) :
    Orderly p.backend.id (ensurePresent k p uniqueId >>= f) := by
  unfold ensurePresent
  -- the question whether the entity is there is the first request of the whole
  rw [bind_assoc]
  refine .read _ _ _ rfl ?_ ?_
  · intro present habsent
    have hpresent : present = false := by
      simpa only [Request.reportsAbsence, Bool.not_eq_true'] using habsent
    subst hpresent
    exact ⟨_, rfl⟩
  · intro present hthere
    have hpresent : present = true := by
      simpa only [Request.reportsAbsence, Bool.not_eq_false'] using hthere
    subst hpresent
    exact hf

/-! ## Reading -/

theorem admitted_get {uniqueId : String} (h : s.IdLeadsTo a uniqueId) :
    Admitted a (s.get k uniqueId) := by
  apply admitted_locate h
  intro p
  exact .orderly (orderly_ensurePresent (.settled (.done _)))

theorem admitted_getByClaim {claim : Claim} {name : Option String} (h : s.NameLeadsTo a name) :
    Admitted a (s.getByClaim k claim name) := by
  apply Admitted.guard (guard_checkSearch claim)
  intro _ _
  apply admitted_resolve h
  intro b
  refine .orderly (.read _ _ _ rfl ?_ ?_)
  · intro found habsent
    cases found with
    | none => exact ⟨_, rfl⟩
    | some localId => contradiction
  · intro found hthere
    cases found with
    | none => contradiction
    | some localId => exact .settled (.done _)

theorem admitted_list {filter : Filter} {offset length : Int32} {name : Option String}
    (h : s.NameLeadsTo a name) : Admitted a (s.list k filter offset length name) := by
  apply Admitted.guard (guard_check filter)
  intro _ _
  apply Admitted.guard (guard_ofRange? offset length)
  intro window _
  cases window with
  | none => exact .orderly (.settled (.done _))
  | some page =>
    apply admitted_resolve h
    intro b
    exact .orderly ((Orderly.demand _ _ fun _ => rfl).map _)

theorem admitted_memberships {uniqueId : String} (h : s.IdLeadsTo a uniqueId) :
    Admitted a (s.memberships k uniqueId) := by
  apply admitted_locate h
  intro p
  exact .orderly (orderly_ensurePresent ((Orderly.demand _ _ fun _ => rfl).map _))

/-- The two ends of a membership must lead to one backend for anybody to be asked. -/
theorem admitted_isMember {user group : String}
    (h : s.IdLeadsTo a user ∨ s.IdLeadsTo a group) : Admitted a (s.isMember user group) := by
  apply Admitted.guard (guard_locate s .user user)
  intro u hu
  apply Admitted.guard (guard_locate s .group group)
  intro g hg
  by_cases hone : u.backend.id = g.backend.id
  · -- the ends share a backend, so it is the addressed one whichever end was addressed
    have ha : u.backend.id = a := by
      rcases h with h | h
      · exact h.locate hu
      · exact hone.trans (h.locate hg)
    rw [if_pos hone, ← ha]
    refine .orderly (orderly_ensurePresent ?_)
    rw [hone]
    refine orderly_ensurePresent ?_
    exact .demand _ _ fun _ => rfl
  · rw [if_neg hone]
    exact .orderly (.settled (.note _ false))

theorem admitted_claims {uniqueId : String} (h : s.IdLeadsTo a uniqueId) :
    Admitted a (s.claims k uniqueId) := by
  apply admitted_locate h
  intro p
  exact .orderly (.demand _ _ fun _ => rfl)

theorem admitted_claimsFor {uniqueId : String} {metas : List MetaClaim}
    (h : s.IdLeadsTo a uniqueId) : Admitted a (s.claimsFor k uniqueId metas) := by
  apply admitted_locate h
  intro p
  exact .unlessIdle (.orderly (.demand _ _ fun _ => rfl))

/-! ## Writing -/

theorem admitted_add {payload : Payload k} {name : Option String} (h : s.NameLeadsTo a name) :
    Admitted a (s.add k payload name) := by
  apply Admitted.guard (guard_validate s payload)
  intro _ _
  apply admitted_resolve h
  intro b
  exact .orderly (.write _ _ _ rfl fun _ => .note _ _)

theorem admitted_addAll {payloads : List (Payload k)} {name : Option String}
    (h : s.NameLeadsTo a name) : Admitted a (s.addAll k payloads name) := by
  apply Admitted.guard (guard_validateBatch s payloads)
  intro _ _
  apply admitted_resolve h
  intro b
  exact .orderly (.write _ _ _ rfl fun _ => .note _ _)

theorem admitted_replaceClaims {uniqueId : String} {claims : List Claim}
    (h : s.IdLeadsTo a uniqueId) : Admitted a (s.replaceClaims k uniqueId claims) := by
  apply admitted_locate h
  intro p
  exact .orderly (.demand _ _ fun _ => rfl)

theorem admitted_changeClaims {uniqueId : String} {add remove : List Claim}
    (h : s.IdLeadsTo a uniqueId) : Admitted a (s.changeClaims k uniqueId add remove) := by
  apply admitted_locate h
  intro p
  exact .unlessIdle (.orderly (.demand _ _ fun _ => rfl))

theorem admitted_replaceCredentials {user : String} {credentials : List Credential}
    (h : s.IdLeadsTo a user) : Admitted a (s.replaceCredentials user credentials) := by
  apply admitted_locate h
  intro p
  exact .orderly (.demand _ _ fun _ => rfl)

theorem admitted_changeCredentials {user : String} {add remove : List Credential}
    (h : s.IdLeadsTo a user) : Admitted a (s.changeCredentials user add remove) := by
  apply admitted_locate h
  intro p
  exact .unlessIdle (.orderly (.demand _ _ fun _ => rfl))

theorem admitted_delete {uniqueId : String} (h : s.IdLeadsTo a uniqueId) :
    Admitted a (s.delete k uniqueId) := by
  apply admitted_locate h
  intro p
  exact .orderly (.write _ _ _ rfl fun _ => .note _ _)

theorem admitted_replaceMemberships {uniqueId : String} {others : List String}
    (h : s.IdLeadsTo a uniqueId) : Admitted a (s.replaceMemberships k uniqueId others) := by
  apply admitted_locate h
  intro p
  apply Admitted.guard (guard_localIdsIn s p.backend.id others)
  intro _ _
  exact .orderly (.demand _ _ fun _ => rfl)

theorem admitted_changeMemberships {uniqueId : String} {add remove : List String}
    (h : s.IdLeadsTo a uniqueId) : Admitted a (s.changeMemberships k uniqueId add remove) := by
  apply admitted_locate h
  intro p
  -- the other ends are looked at only if there is something to do
  apply Admitted.unlessIdle
  apply Admitted.guard (guard_localIdsIn s p.backend.id add)
  intro _ _
  apply Admitted.guard (guard_localIdsIn s p.backend.id remove)
  intro _ _
  exact .orderly (.demand _ _ fun _ => rfl)

/-! ## Logins -/

/-- A login at one backend speaks to that backend. -/
theorem speaksTo_authenticateAt (b : BackendConfig) (claim : Claim)
    (credentials : List Credential) : (authenticateAt b claim credentials).SpeaksTo b.id := by
  refine ⟨rfl, ?_⟩
  rintro (e | localId)
  · show Dialogue.SpeaksTo b.id (if e.isAuthentication then _ else _)
    split
    · trivial
    · trivial
  · trivial

/-- A login that names its backend speaks to that backend. -/
theorem speaksTo_authenticate {claim : Claim} {credentials : List Credential}
    {name : Option String} (hgiven : given? name ≠ none) (h : s.NameLeadsTo a name) :
    (s.authenticate claim credentials name).SpeaksTo a := by
  unfold authenticate
  split
  · trivial
  · cases hname : given? name with
    | none => exact absurd hname hgiven
    | some n =>
      cases hb : s.registry.byName n with
      | error e =>
        simp only [hb]
        trivial
      | ok b =>
        have hresolve : s.resolve name = .ok b := by
          unfold resolve
          rw [hname]
          exact hb
        simp only [hb]
        rw [← h b hresolve]
        exact speaksTo_authenticateAt b claim credentials

/-! ## All operations -/

/-- Every operation but a login refuses its arguments at once, or has an orderly dialogue with the
backend that it addresses. -/
theorem admitted_perform {op : Operation} (hop : op.isLogin = false) (h : s.Addresses a op) :
    Admitted a (s.perform op) := by
  cases op with
  | authenticate claim credentials backend => contradiction
  | get k uniqueId => exact (admitted_get h).map _
  | getByClaim k claim backend => exact (admitted_getByClaim h).map _
  | list k filter offset length backend => exact (admitted_list h).map _
  | memberships k uniqueId => exact (admitted_memberships h).map _
  | isMember user group => exact (admitted_isMember h).map _
  | claims k uniqueId => exact (admitted_claims h).map _
  | claimsFor k uniqueId metas => exact (admitted_claimsFor h).map _
  | add k payload backend => exact (admitted_add h).map _
  | addAll k payloads backend => exact (admitted_addAll h).map _
  | replaceClaims k uniqueId claims => exact (admitted_replaceClaims h).map _
  | changeClaims k uniqueId add remove => exact (admitted_changeClaims h).map _
  | replaceCredentials user credentials => exact (admitted_replaceCredentials h).map _
  | changeCredentials user add remove => exact (admitted_changeCredentials h).map _
  | delete k uniqueId => exact (admitted_delete h).map _
  | replaceMemberships k uniqueId others => exact (admitted_replaceMemberships h).map _
  | changeMemberships k uniqueId add remove => exact (admitted_changeMemberships h).map _

/-- Every operation speaks only to the backend that it addresses. -/
theorem speaksTo_perform {op : Operation} (h : s.Addresses a op) : (s.perform op).SpeaksTo a := by
  -- a login is not orderly, as it can be refused after a request
  cases hlogin : op.isLogin with
  | false => exact (admitted_perform hlogin h).speaksTo
  | true =>
    cases op with
    | authenticate claim credentials backend => exact (speaksTo_authenticate h.1 h.2).map _
    | _ => contradiction

end Store

/-! ## Commands -/

/-- What a client of the store can do: an operation of the store, or an action on a handle. -/
inductive Command where
  | operate (op : Operation)
  | act (k : Kind) (h : Handle k) (action : Action k)

/-- The operation that a command comes down to. -/
def Command.operation : Command → Operation
  | operate op => op
  | act _ h action => h.act action

/-- Carries out a command. -/
def Store.obey (s : Store) (c : Command) : Dialogue Answer :=
  s.perform c.operation

end Federation
