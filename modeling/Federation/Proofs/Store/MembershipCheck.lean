import Federation.Proofs.Store.Handles
import Federation.Proofs.Store.Listing

/-!
# Federation.Proofs.Store.MembershipCheck — whether a user is in a group

A membership check is given two texts. If one of them is no unique id it is refused, and if they
are ids of different backends the answer is no; in neither case is anybody asked. Otherwise the
backend of both is asked for the user, for the group and for the membership, in this order, until
it fails or says that one of them is not there.
-/

namespace Federation

/-- An end of a membership: the unique id that it is given by, and its local id. -/
structure Party where
  kind : Kind
  uniqueId : String
  localId : String

/-! ## Checks at one backend -/

section Checked

variable {ω : Type}

/-- A check of a membership at the backend `b`, in a state: its exchanges, its result and the state
after it. The parties are asked for one by one, and then the membership between `l` and `m`. -/
inductive Checked (net : Network ω) (b : Int32) (l m : String) :
    List Party → ω → List Exchange → Except StoreError Answer → ω → Prop
  /-- It is not to be known whether a party is there. -/
  | unclear {p : Party} {rest : List Party} {w w' : ω} {e : BackendError} {log : List Question}
      (hserve : net.serve b (.isPresent p.kind p.localId) w = ⟨.error e, w', log⟩) :
      Checked net b l m (p :: rest) w [.request b (.isPresent p.kind p.localId) (.error e) log]
        (.error (.backendFailure (.checkPresence p.kind p.uniqueId) e)) w'
  /-- A party is not there. -/
  | absent {p : Party} {rest : List Party} {w w' : ω} {log : List Question}
      (hserve : net.serve b (.isPresent p.kind p.localId) w = ⟨.ok false, w', log⟩) :
      Checked net b l m (p :: rest) w [.request b (.isPresent p.kind p.localId) (.ok false) log]
        (.error (.notFound (.entity p.kind p.uniqueId))) w'
  /-- A party is there, and the check goes on. -/
  | present {p : Party} {rest : List Party} {w w' w'' : ω} {log : List Question}
      {xs : List Exchange} {result : Except StoreError Answer}
      (hserve : net.serve b (.isPresent p.kind p.localId) w = ⟨.ok true, w', log⟩)
      (hrest : Checked net b l m rest w' xs result w'') :
      Checked net b l m (p :: rest) w
        (.request b (.isPresent p.kind p.localId) (.ok true) log :: xs) result w''
  /-- All parties are there, but the membership is not to be known. -/
  | failed {w w' : ω} {e : BackendError} {log : List Question}
      (hserve : net.serve b (.isMember l m) w = ⟨.error e, w', log⟩) :
      Checked net b l m [] w [.request b (.isMember l m) (.error e) log]
        (.error (.backendFailure .checkMembership e)) w'
  /-- All parties are there, and the answer is the backend's own. -/
  | answered {w w' : ω} {v : Bool} {log : List Question}
      (hserve : net.serve b (.isMember l m) w = ⟨.ok v, w', log⟩) :
      Checked net b l m [] w [.request b (.isMember l m) (.ok v) log] (.ok (.truth v)) w'

namespace Checked

variable {net : Network ω} {b : Int32} {l m : String} {parties : List Party} {w w' : ω}
  {xs : List Exchange} {result : Except StoreError Answer}

/-- The requests of a check that gets to its end. -/
def agenda (b : Int32) (l m : String) (parties : List Party) : List (Option (Int32 × Request)) :=
  parties.map (fun p => some (b, .isPresent p.kind p.localId)) ++ [some (b, .isMember l m)]

/-- A check may stop early, but it asks for nothing else, and not in another order. -/
theorem inOrder (h : Checked net b l m parties w xs result w') :
    xs.map Exchange.request? <+: agenda b l m parties := by
  induction h with
  | unclear hserve | absent hserve =>
    -- whoever would have to be asked next is not asked any more
    exact List.prefix_append _ _
  | failed hserve | answered hserve => exact List.prefix_rfl
  | present hserve hrest ih => exact List.cons_prefix_cons.2 ⟨rfl, ih⟩

/-- A check gets an answer only from its end: after all parties were said to be there. -/
theorem of_ok {a : Answer} (h : Checked net b l m parties w xs result w') (ha : result = .ok a) :
    (∀ p ∈ parties, ∃ log, .request b (.isPresent p.kind p.localId) (.ok true) log ∈ xs) ∧
      ∃ v log, .request b (.isMember l m) (.ok v) log ∈ xs ∧ a = .truth v := by
  induction h with
  | unclear hserve | absent hserve | failed hserve => contradiction
  | answered hserve =>
    injection ha with ha
    exact ⟨fun _ hp => absurd hp List.not_mem_nil, _, _, List.mem_singleton_self _, ha.symm⟩
  | present hserve hrest ih =>
    obtain ⟨hothers, v, log, hv, hav⟩ := ih ha
    refine ⟨List.forall_mem_cons.2 ⟨⟨_, List.mem_cons_self⟩, ?_⟩, v, log,
      List.mem_cons_of_mem _ hv, hav⟩
    intro p hp
    obtain ⟨log', hlog'⟩ := hothers p hp
    exact ⟨log', List.mem_cons_of_mem _ hlog'⟩

end Checked

end Checked

/-! ## Checks among directories -/

namespace Store

open Dialogue (ofExcept demand)

variable {s : Store} {user group : String}

/-! ## Checks of the store -/

section Checks

variable {ω : Type} {net : Network ω} {w : ω}

/-- A dialogue is a check of these parties. -/
def ChecksFor (net : Network ω) (b : Int32) (l m : String) (parties : List Party)
    (d : Dialogue Answer) : Prop :=
  ∀ w, Checked net b l m parties w (d.exchanges net w) (d.run net w).result (d.run net w).state

/-- After all parties there is the membership to be asked for. -/
theorem checksFor_isMember (b : Int32) (l m : String) :
    ChecksFor net b l m [] (Answer.truth <$> demand .checkMembership b (.isMember l m)) := by
  intro w
  rw [← bind_pure_comp, Dialogue.demand_bind]
  rcases hserve : net.serve b (.isMember l m) w with ⟨e | v, w', log⟩
  · simp only [Dialogue.exchanges, Dialogue.run, hserve]
    exact .failed hserve
  · simp only [Dialogue.exchanges, Dialogue.run, hserve]
    exact .answered hserve

/-- Making sure that an entity exists takes one request. -/
theorem ensurePresent_bind {α : Type} (k : Kind) (p : Place) (uniqueId : String)
    (f : Unit → Dialogue α) :
    (ensurePresent k p uniqueId >>= f) = .ask p.backend.id (.isPresent k p.localId) fun
      | .ok true => f ()
      | .ok false => .fail (.notFound (.entity k uniqueId))
      | .error e => .fail (.backendFailure (.checkPresence k uniqueId) e) := by
  rw [ensurePresent, bind_assoc, Dialogue.demand_bind]
  refine congrArg (Dialogue.ask p.backend.id (.isPresent k p.localId)) (funext ?_)
  rintro (e | _ | _)
  · rfl
  · rfl
  · rfl

/-- One more party is asked for before the others. -/
theorem checksFor_ensurePresent {k : Kind} {p : Place} {uniqueId l m : String}
    {rest : List Party} {f : Unit → Dialogue Answer}
    (h : ChecksFor net p.backend.id l m rest (f ())) :
    ChecksFor net p.backend.id l m (⟨k, uniqueId, p.localId⟩ :: rest)
      (ensurePresent k p uniqueId >>= f) := by
  intro w
  rw [ensurePresent_bind]
  rcases hserve : net.serve p.backend.id (.isPresent k p.localId) w with ⟨e | _ | _, w', log⟩
  · simp only [Dialogue.exchanges, Dialogue.run, hserve]
    exact .unclear (p := ⟨k, uniqueId, p.localId⟩) hserve
  · simp only [Dialogue.exchanges, Dialogue.run, hserve]
    exact .absent (p := ⟨k, uniqueId, p.localId⟩) hserve
  · simp only [Dialogue.exchanges, Dialogue.run, hserve]
    exact .present (p := ⟨k, uniqueId, p.localId⟩) hserve (h w')

/-- A check of the store goes through both ends of the membership, the user first. -/
theorem checksFor_perform {b : Int32} {l m : String} (hu : s.registry.decode user = .ok ⟨b, l⟩)
    (hg : s.registry.decode group = .ok ⟨b, m⟩) :
    ChecksFor net b l m [⟨.user, user, l⟩, ⟨.group, group, m⟩]
      (s.perform (.isMember user group)) := by
  obtain ⟨c, hc, hid, hlocateUser⟩ := locate_of_decode hu .user
  obtain ⟨c', hc', hid', hlocateGroup⟩ := locate_of_decode hg .group
  -- there is one backend with the id
  have hone : c = c' := Registry.eq_of_id_eq hc hc' (hid.trans hid'.symm)
  subst hone
  have hperform : s.perform (.isMember user group) =
      ensurePresent .user ⟨c, l⟩ user >>= fun _ => ensurePresent .group ⟨c, m⟩ group >>= fun _ =>
        Answer.truth <$> demand .checkMembership c.id (.isMember l m) := by
    show Answer.truth <$> s.isMember user group = _
    rw [isMember, hlocateUser, hlocateGroup]
    -- the two places are at one backend, so the check does not stop here
    show Answer.truth <$> (if c.id = c.id then _ else _) = _
    simp only [if_pos, map_bind]
  have hb : b = c.id := hid.symm
  subst hb
  rw [hperform]
  have hgroup : ChecksFor net c.id l m [⟨.group, group, m⟩]
      (ensurePresent .group ⟨c, m⟩ group >>= fun _ =>
        Answer.truth <$> demand .checkMembership c.id (.isMember l m)) :=
    checksFor_ensurePresent (p := ⟨c, m⟩) (checksFor_isMember c.id l m)
  exact checksFor_ensurePresent (p := ⟨c, l⟩) hgroup

/-- What is to be seen of a membership check over a network in a state, by what the two texts are
read as. -/
structure Adjudicated (net : Network ω) (s : Store) (user group : String) (d : Dialogue Answer)
    (w : ω) : Prop where
  /-- A user's id that is not read is refused, whatever is given for the group. -/
  userRefused : s.Unread user →
    Silent net d w (.error (.invalidInput (if user = "" then .entityId .user else .uniqueId)))
  /-- Then a group's id that is not read. -/
  groupRefused : ¬ s.Unread user → s.Unread group →
    Silent net d w (.error (.invalidInput (if group = "" then .entityId .group else .uniqueId)))
  /-- Entities of different backends are not related, be they there or not. -/
  apart : ∀ e f, s.registry.decode user = .ok e → s.registry.decode group = .ok f →
    e.backend ≠ f.backend → Silent net d w (.ok (.truth false))
  /-- In all other cases the backend of both is asked, step by step, -/
  checked : ∀ b l m, s.registry.decode user = .ok ⟨b, l⟩ → s.registry.decode group = .ok ⟨b, m⟩ →
    Checked net b l m [⟨.user, user, l⟩, ⟨.group, group, m⟩] w (d.exchanges net w)
      (d.run net w).result (d.run net w).state
  /-- for these things, of which the last ones may be left out, -/
  inOrder : ∀ b l m, s.registry.decode user = .ok ⟨b, l⟩ → s.registry.decode group = .ok ⟨b, m⟩ →
    (d.exchanges net w).map Exchange.request? <+: [some (b, .isPresent .user l),
      some (b, .isPresent .group m), some (b, .isMember l m)]
  /-- and answers yes or no only after it has said that both are there. -/
  present : ∀ b l m, s.registry.decode user = .ok ⟨b, l⟩ → s.registry.decode group = .ok ⟨b, m⟩ →
    ∀ a, (d.run net w).result = .ok a →
      (∃ log, .request b (.isPresent .user l) (.ok true) log ∈ d.exchanges net w) ∧
      (∃ log, .request b (.isPresent .group m) (.ok true) log ∈ d.exchanges net w) ∧
      ∃ v log, .request b (.isMember l m) (.ok v) log ∈ d.exchanges net w ∧ a = .truth v

/-- An id that is not read is refused. -/
theorem locate_of_unread {uniqueId : String} (h : s.Unread uniqueId) (k : Kind) :
    s.locate k uniqueId =
      .error (.invalidInput (if uniqueId = "" then .entityId k else .uniqueId)) := by
  cases hread : s.registry.decode uniqueId with
  | error e => exact locate_of_decode_error hread k
  | ok e => exact absurd hread (h e)

/-- Every membership check ends in one of these ways. -/
theorem adjudicated (s : Store) (net : Network ω) (user group : String) (w : ω) :
    Adjudicated net s user group (s.perform (.isMember user group)) w := by
  have hperform : s.perform (.isMember user group) = Answer.truth <$> s.isMember user group := rfl
  have hchecked : ∀ b l m, s.registry.decode user = .ok ⟨b, l⟩ →
      s.registry.decode group = .ok ⟨b, m⟩ →
      ChecksFor net b l m [⟨.user, user, l⟩, ⟨.group, group, m⟩]
        (s.perform (.isMember user group)) :=
    fun b l m hu hg => checksFor_perform hu hg
  constructor
  case userRefused =>
    intro hunread
    rw [hperform, isMember, locate_of_unread hunread]
    exact silent_fail _
  case groupRefused =>
    intro hread hunread
    obtain ⟨e, hu⟩ : ∃ e, s.registry.decode user = .ok e := by simpa [Unread] using hread
    obtain ⟨c, -, -, hlocate⟩ := locate_of_decode hu .user
    rw [hperform, isMember, hlocate, locate_of_unread hunread]
    exact silent_fail _
  case apart =>
    intro e f hu hg hne
    obtain ⟨c, -, hid, hlocateUser⟩ := locate_of_decode hu .user
    obtain ⟨c', -, hid', hlocateGroup⟩ := locate_of_decode hg .group
    have htwo : ¬ c.id = c'.id := by
      rw [hid, hid']
      exact hne
    have hdone : s.isMember user group = .note (.apart c.id c'.id) (.done false) := by
      rw [isMember, hlocateUser, hlocateGroup]
      exact if_neg htwo
    rw [hperform, hdone]
    exact ⟨rfl, rfl, rfl, rfl⟩
  case checked => exact fun b l m hu hg => hchecked b l m hu hg w
  case inOrder => exact fun b l m hu hg => (hchecked b l m hu hg w).inOrder
  case present =>
    intro b l m hu hg a ha
    obtain ⟨hparties, hanswer⟩ := (hchecked b l m hu hg w).of_ok ha
    exact ⟨hparties _ List.mem_cons_self, hparties _ (List.mem_cons_of_mem _ List.mem_cons_self),
      hanswer⟩

end Checks

end Store

end Federation
