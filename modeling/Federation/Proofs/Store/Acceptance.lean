import Federation.Proofs.Store.Batch

/-!
# Federation.Proofs.Store.Acceptance — what can be added

What the store demands of a payload is said here without the checks that the store makes: a user
comes with claims or credentials, and with a name among the claims if there are claims and the
configuration demands one; a group comes with claims. A single addition and a batch hold every
payload to the same demands. A batch is refused as a whole, for its first payload that falls short,
before the name of the backend is looked at and before anybody is asked.
-/

namespace Federation

namespace NewUser

/-- A user comes with nothing. -/
theorem isEmpty_iff {u : NewUser} : u.isEmpty = true ↔ u.claims = [] ∧ u.credentials = [] := by
  simp only [NewUser.isEmpty, Bool.and_eq_true, List.isEmpty_iff]

/-- A user has no claim with the URI and a value if all claims with the URI are blank. -/
theorem isNone_claim?_iff {u : NewUser} {uri : String} :
    (u.claim? uri).isNone = true ↔ ∀ c ∈ u.claims, c.uri = uri → c.value = "" := by
  simp only [NewUser.claim?, Option.isNone_iff_eq_none, List.find?_eq_none, Bool.and_eq_true,
    decide_eq_true_eq, Bool.not_eq_true', Claim.isBlank, not_and, Bool.not_eq_false,
    String.isEmpty_iff]

end NewUser

namespace Store

open Dialogue (demand)

variable {s : Store} {k : Kind}

/-! ## Payloads -/

/-- The payload can be added. A name is a claim with the URI that the configuration says, wherever
it stands and whatever stands before it, and with a value. -/
def Acceptable (s : Store) : {k : Kind} → Payload k → Prop
  | .user, u => (NewUser.claims u ≠ [] ∨ NewUser.credentials u ≠ []) ∧
    (s.config.requireUsername = true → NewUser.claims u ≠ [] →
      ∃ c ∈ NewUser.claims u, c.uri = s.config.usernameUri ∧ c.value ≠ "")
  | .group, g => NewGroup.claims g ≠ []

/-- What is wrong with a payload that cannot be added. -/
inductive Objection (s : Store) : {k : Kind} → Payload k → InvalidInput → Prop
  | emptyUser {u : NewUser} (hclaims : u.claims = []) (hcredentials : u.credentials = []) :
      Objection s (k := .user) u (.emptyPayload .user)
  | nameless {u : NewUser} (hrequired : s.config.requireUsername = true) (hclaims : u.claims ≠ [])
      (hblank : ∀ c ∈ u.claims, c.uri = s.config.usernameUri → c.value = "") :
      Objection s (k := .user) u (.missingClaim s.config.usernameUri)
  | emptyGroup {g : NewGroup} (hclaims : g.claims = []) :
      Objection s (k := .group) g (.emptyPayload .group)

/-- There is something wrong with no payload that can be added. -/
theorem Objection.not_acceptable {p : Payload k} {reason : InvalidInput}
    (h : s.Objection p reason) : ¬ s.Acceptable p := by
  cases h with
  | emptyUser hclaims hcredentials =>
    rintro ⟨hsome | hsome, -⟩
    · exact hsome hclaims
    · exact hsome hcredentials
  | nameless hrequired hclaims hblank =>
    rintro ⟨-, hname⟩
    obtain ⟨c, hc, huri, hvalue⟩ := hname hrequired hclaims
    exact hvalue (hblank c hc huri)
  | emptyGroup hclaims => exact fun hsome => hsome hclaims

/-- A user with claims lacks the name that is demanded. -/
theorem nameless_iff {u : NewUser} :
    (s.config.requireUsername && !u.claims.isEmpty &&
      (u.claim? s.config.usernameUri).isNone) = true ↔
    s.config.requireUsername = true ∧ u.claims ≠ [] ∧
      ∀ c ∈ u.claims, c.uri = s.config.usernameUri → c.value = "" := by
  rw [Bool.and_eq_true, Bool.and_eq_true, NewUser.isNone_claim?_iff,
    Bool.not_eq_true', List.isEmpty_eq_false_iff, and_assoc]

/-- The check of a payload lets it pass, or finds what is wrong with it. -/
theorem validate_cases (s : Store) (p : Payload k) :
    (s.Acceptable p ∧ s.validate p = .ok ()) ∨
      ∃ reason, s.Objection p reason ∧ s.validate p = .error (.invalidInput reason) := by
  cases k with
  | group =>
    by_cases hempty : NewGroup.isEmpty p = true
    · exact .inr ⟨_, .emptyGroup (List.isEmpty_iff.1 hempty), if_pos hempty⟩
    · exact .inl ⟨fun hclaims => hempty (List.isEmpty_iff.2 hclaims), if_neg hempty⟩
  | user =>
    by_cases hempty : NewUser.isEmpty p = true
    · obtain ⟨hclaims, hcredentials⟩ := NewUser.isEmpty_iff.1 hempty
      exact .inr ⟨_, .emptyUser hclaims hcredentials, if_pos hempty⟩
    · have hsome : NewUser.claims p ≠ [] ∨ NewUser.credentials p ≠ [] := by
        rw [← not_and_or]
        exact fun hnothing => hempty (NewUser.isEmpty_iff.2 hnothing)
      by_cases hnameless : (s.config.requireUsername && !(NewUser.claims p).isEmpty &&
          (NewUser.claim? p s.config.usernameUri).isNone) = true
      · obtain ⟨hrequired, hclaims, hblank⟩ := nameless_iff.1 hnameless
        exact .inr ⟨_, .nameless hrequired hclaims hblank,
          (if_neg hempty).trans (if_pos hnameless)⟩
      · refine .inl ⟨⟨hsome, ?_⟩, (if_neg hempty).trans (if_neg hnameless)⟩
        intro hrequired hclaims
        -- otherwise all claims with the URI would be blank
        by_contra hnobody
        refine hnameless (nameless_iff.2 ⟨hrequired, hclaims, ?_⟩)
        intro c hc huri
        by_contra hvalue
        exact hnobody ⟨c, hc, huri, hvalue⟩

/-- So it lets exactly the payloads pass that can be added. -/
theorem validate_eq_ok_iff {p : Payload k} : s.validate p = .ok () ↔ s.Acceptable p := by
  rcases s.validate_cases p with ⟨hp, hok⟩ | ⟨reason, hreason, herror⟩
  · exact iff_of_true hok hp
  · rw [herror]
    exact iff_of_false nofun hreason.not_acceptable

/-- A payload that cannot be added is refused for what is wrong with it. -/
theorem validate_of_not_acceptable {p : Payload k} (h : ¬ s.Acceptable p) :
    ∃ reason, s.Objection p reason ∧ s.validate p = .error (.invalidInput reason) :=
  (s.validate_cases p).resolve_left fun hp => h hp.1

/-! ## Batches -/

/-- Of several payloads the first decides that is refused. -/
theorem validateAll_append {before after : List (Payload k)} {p : Payload k} {e : StoreError}
    (hbefore : ∀ q ∈ before, s.Acceptable q) (hp : s.validate p = .error e) :
    s.validateAll (before ++ p :: after) = .error e := by
  induction before with
  | nil => simp only [List.nil_append, validateAll, hp]
  | cons q rest ih =>
    obtain ⟨hq, hrest⟩ := List.forall_mem_cons.1 hbefore
    simp only [List.cons_append, validateAll, validate_eq_ok_iff.2 hq]
    exact ih hrest

/-- A payload that cannot be added has a first one like it in its batch. -/
theorem exists_first_not_acceptable {payloads : List (Payload k)}
    (h : ∃ p ∈ payloads, ¬ s.Acceptable p) :
    ∃ before p after, payloads = before ++ p :: after ∧ (∀ q ∈ before, s.Acceptable q) ∧
      ¬ s.Acceptable p := by
  induction payloads with
  | nil =>
    obtain ⟨p, hp, -⟩ := h
    exact absurd hp List.not_mem_nil
  | cons q rest ih =>
    -- either the payload at the front is the first one, or it stands before the first one
    by_cases hq : s.Acceptable q
    · obtain ⟨p, hp, hrefused⟩ := h
      have hlater : p ∈ rest := by
        rcases List.mem_cons.1 hp with rfl | hlater
        · exact absurd hq hrefused
        · exact hlater
      obtain ⟨before, p', after, hsplit, hbefore, hp'⟩ := ih ⟨p, hlater, hrefused⟩
      refine ⟨q :: before, p', after, by rw [hsplit]; rfl, ?_, hp'⟩
      exact List.forall_mem_cons.2 ⟨hq, hbefore⟩
    · exact ⟨[], q, rest, rfl, fun _ hp => absurd hp List.not_mem_nil, hq⟩

/-- A batch is refused for the first of its payloads that is. -/
theorem validateBatch_append {before after : List (Payload k)} {p : Payload k} {e : StoreError}
    (hbefore : ∀ q ∈ before, s.Acceptable q) (hp : s.validate p = .error e) :
    s.validateBatch (before ++ p :: after) = .error e := by
  have hsome : ¬ (before ++ p :: after).isEmpty = true := by simp
  rw [validateBatch, if_neg hsome, validateAll_append hbefore hp]

/-! ## Additions -/

section Additions

variable {ω : Type} {net : Network ω} {w : ω} {payloads : List (Payload k)}
  {name : Option String}

/-- The dialogue ends with an invalid input. -/
def Refuses {α : Type} (net : Network ω) (d : Dialogue α) (w : ω) : Prop :=
  ∃ reason, (d.run net w).result = .error (.invalidInput reason)

/-- A dialogue that can end with other errors only refuses nothing. -/
theorem not_refuses_of_fails {α : Type} {d : Dialogue α}
    (h : d.Fails fun e => e.kind ≠ .invalidInput) : ¬ Refuses net d w := by
  rintro ⟨reason, hresult⟩
  exact Dialogue.Ends.result h net w _ hresult rfl

theorem Silent.refuses {α : Type} {d : Dialogue α} {reason : InvalidInput}
    (h : Silent net d w (.error (.invalidInput reason))) : Refuses net d w :=
  ⟨reason, h.result⟩

/-- The backend `b` is asked, once, to add the batch. -/
theorem exchanges_addAll {b : BackendConfig} (hvalid : s.validateBatch payloads = .ok ())
    (hresolve : s.resolve name = .ok b) :
    (s.addAll k payloads name).exchanges net w =
      [.request b.id (.addAll k payloads) (net.serve b.id (.addAll k payloads) w).outcome
        (net.serve b.id (.addAll k payloads) w).log] := by
  rw [addAll, hvalid, hresolve]
  show (demand _ _ _ >>= _).exchanges net w = _
  rw [Dialogue.demand_bind, Dialogue.exchanges]
  cases (net.serve b.id (.addAll k payloads) w).outcome with
  | error e => rfl
  | ok ids => rfl

/-- Such a batch is not refused any more, whatever the backend says. -/
theorem not_refuses_addAll {b : BackendConfig} (hvalid : s.validateBatch payloads = .ok ())
    (hresolve : s.resolve name = .ok b) : ¬ Refuses net (s.addAll k payloads name) w := by
  rw [addAll, hvalid, hresolve]
  refine not_refuses_of_fails (.demand_bind (fun e hfailure => ?_) fun _ => Dialogue.fails_done _)
  contradiction

/-- Nor is a single payload that can be added. -/
theorem not_refuses_add {p : Payload k} {b : BackendConfig} (hvalid : s.validate p = .ok ())
    (hresolve : s.resolve name = .ok b) : ¬ Refuses net (s.add k p name) w := by
  rw [add, hvalid, hresolve]
  refine not_refuses_of_fails (.demand_bind (fun e hfailure => ?_) fun _ => Dialogue.fails_done _)
  contradiction

/-- A name that is not known is given and unknown. -/
theorem exists_unknown (h : ¬ s.Known name) : ∃ n, name = some n ∧ s.Unknown n := by
  simpa only [Known, not_forall, not_not, exists_prop] using h

/-- A single payload is refused for what is wrong with it, whatever name is given. -/
theorem silent_add {p : Payload k} {reason : InvalidInput}
    (h : s.validate p = .error (.invalidInput reason)) (name : Option String) :
    Silent net (s.add k p name) w (.error (.invalidInput reason)) := by
  rw [add, h]
  exact silent_fail _

theorem silent_addAll {reason : InvalidInput}
    (h : s.validateBatch payloads = .error (.invalidInput reason)) :
    Silent net (s.addAll k payloads name) w (.error (.invalidInput reason)) := by
  rw [addAll, h]
  exact silent_fail _

/-- A single payload is refused exactly if it cannot be added or the name is unknown. -/
theorem refuses_add_iff {p : Payload k} : Refuses net (s.add k p name) w ↔
    ¬ s.Acceptable p ∨ ∃ n, name = some n ∧ s.Unknown n := by
  by_cases hp : s.Acceptable p
  · have hvalid := validate_eq_ok_iff.2 hp
    by_cases hname : s.Known name
    · obtain ⟨b, hresolve⟩ := exists_resolve hname
      refine iff_of_false (not_refuses_add hvalid hresolve) ?_
      rintro (hrefused | ⟨n, hn, hunknown⟩)
      · exact hrefused hp
      · exact hname n hn hunknown
    · obtain ⟨n, hn, hunknown⟩ := exists_unknown hname
      refine iff_of_true ⟨.unknownBackend n, ?_⟩ (.inr ⟨n, hn, hunknown⟩)
      rw [add, hvalid, hn, resolve_of_unknown hunknown]
      rfl
  · obtain ⟨reason, -, herror⟩ := validate_of_not_acceptable hp
    exact iff_of_true (silent_add herror name).refuses (.inl hp)

/-! ## Vetting -/

/-- How the payloads of a batch are vetted before any of them is added. -/
structure Vetted (net : Network ω) (s : Store) (k : Kind) (payloads : List (Payload k))
    (name : Option String) (w : ω) : Prop where
  /-- The batch is refused exactly if there is nothing to add, or a payload that cannot be added,
  or no backend of that name. -/
  refuses_iff : Refuses net (s.addAll k payloads name) w ↔
    payloads = [] ∨ (∃ p ∈ payloads, ¬ s.Acceptable p) ∨ ∃ n, name = some n ∧ s.Unknown n
  /-- Single payloads are held to the same demands. -/
  single_iff : ∀ (p : Payload k) (name' : Option String), Refuses net (s.add k p name') w ↔
    ¬ s.Acceptable p ∨ ∃ n, name' = some n ∧ s.Unknown n
  /-- An empty batch is refused as such, -/
  empty : payloads = [] →
    Silent net (s.addAll k payloads name) w (.error (.invalidInput (.emptyBatch k)))
  /-- any other for its first payload that cannot be added, with the words that the payload alone
  would be refused with; the name does not matter, nor what else is in the batch. -/
  first : ∀ before p after, payloads = before ++ p :: after → (∀ q ∈ before, s.Acceptable q) →
    ¬ s.Acceptable p → ∃ reason, s.Objection p reason ∧
      Silent net (s.addAll k payloads name) w (.error (.invalidInput reason)) ∧
      ∀ name', Silent net (s.add k p name') w (.error (.invalidInput reason))
  /-- Only then an unknown name is refused. -/
  unknown : payloads ≠ [] → (∀ p ∈ payloads, s.Acceptable p) → ∀ n, name = some n → s.Unknown n →
    Silent net (s.addAll k payloads name) w (.error (.invalidInput (.unknownBackend n)))
  /-- What is not refused is handed over to the backend of that name, as a whole. -/
  handedOver : payloads ≠ [] → (∀ p ∈ payloads, s.Acceptable p) → s.Known name →
    ∃ b, s.resolve name = .ok b ∧ (s.addAll k payloads name).exchanges net w =
      [.request b.id (.addAll k payloads) (net.serve b.id (.addAll k payloads) w).outcome
        (net.serve b.id (.addAll k payloads) w).log]

/-- Batches are vetted all or nothing, by the demands on their payloads. Whatever the
configuration, the payloads, the name and the backends, a batch is refused exactly if it is empty,
or one of its payloads would be refused by itself, or the name is unknown; the first of these
reasons decides, in this order and in the order of the payloads, and no backend is asked, however
many payloads before could have been added. -/
theorem batch_vetted (s : Store) (net : Network ω) (w : ω) (k : Kind) (payloads : List (Payload k))
    (name : Option String) : Vetted net s k payloads name w := by
  have hempty : payloads = [] →
      Silent net (s.addAll k payloads name) w (.error (.invalidInput (.emptyBatch k))) := by
    rintro rfl
    exact silent_addAll rfl
  have hfirst : ∀ before p after, payloads = before ++ p :: after →
      (∀ q ∈ before, s.Acceptable q) → ¬ s.Acceptable p → ∃ reason, s.Objection p reason ∧
        Silent net (s.addAll k payloads name) w (.error (.invalidInput reason)) ∧
        ∀ name', Silent net (s.add k p name') w (.error (.invalidInput reason)) := by
    rintro before p after rfl hbefore hp
    obtain ⟨reason, hreason, herror⟩ := validate_of_not_acceptable hp
    exact ⟨reason, hreason, silent_addAll (validateBatch_append hbefore herror), silent_add herror⟩
  have hvalid : payloads ≠ [] → (∀ p ∈ payloads, s.Acceptable p) →
      s.validateBatch payloads = .ok () :=
    fun hne hall => validateBatch_of_forall hne fun p hp => validate_eq_ok_iff.2 (hall p hp)
  have hunknown : payloads ≠ [] → (∀ p ∈ payloads, s.Acceptable p) →
      ∀ n, name = some n → s.Unknown n → Silent net (s.addAll k payloads name) w
        (.error (.invalidInput (.unknownBackend n))) := by
    rintro hne hall n rfl hn
    rw [addAll, hvalid hne hall, resolve_of_unknown hn]
    exact silent_fail _
  constructor
  case empty => exact hempty
  case first => exact hfirst
  case unknown => exact hunknown
  case single_iff => exact fun p name' => refuses_add_iff
  case handedOver =>
    intro hne hall hname
    obtain ⟨b, hresolve⟩ := exists_resolve hname
    exact ⟨b, hresolve, exchanges_addAll (hvalid hne hall) hresolve⟩
  case refuses_iff =>
    -- the reasons are gone through in the order in which they decide
    by_cases hne : payloads = []
    · exact iff_of_true (hempty hne).refuses (.inl hne)
    by_cases hall : ∀ p ∈ payloads, s.Acceptable p
    · by_cases hname : s.Known name
      · obtain ⟨b, hresolve⟩ := exists_resolve hname
        refine iff_of_false (not_refuses_addAll (hvalid hne hall) hresolve) ?_
        rintro (hnothing | ⟨p, hp, hrefused⟩ | ⟨n, hn, hunknown⟩)
        · exact hne hnothing
        · exact hrefused (hall p hp)
        · exact hname n hn hunknown
      · obtain ⟨n, hn, hnobody⟩ := exists_unknown hname
        exact iff_of_true (hunknown hne hall n hn hnobody).refuses (.inr (.inr ⟨n, hn, hnobody⟩))
    · have hsome : ∃ p ∈ payloads, ¬ s.Acceptable p := by simpa using hall
      obtain ⟨before, p, after, hsplit, hbefore, hp⟩ := exists_first_not_acceptable hsome
      obtain ⟨reason, -, hsilent, -⟩ := hfirst before p after hsplit hbefore hp
      exact iff_of_true hsilent.refuses (.inr (.inl hsome))

-- a name that is only blank is refused before the unknown backend, behind a user who could be added
example :
    let named (name : String) : Payload .user :=
      ⟨[⟨Claim.usernameUri, ""⟩, ⟨Claim.usernameUri, name⟩], []⟩
    let d := (⟨.standard, .poles⟩ : Store).addAll .user [named "ann", named ""] (some "west")
    (d.run Directory.network []).result =
      .error (.invalidInput (.missingClaim Claim.usernameUri)) := rfl

end Additions

end Store

end Federation
