import Federation.Proofs.Directory.Faultless
import Federation.Proofs.Directory.Memberships
import Federation.Proofs.Store.Ground
import Federation.Proofs.Store.Membership

/-!
# Federation.Proofs.Store.MembershipUpdate — changes of memberships from either side

A change of the memberships of an entity updates the relation of its backend: the pairs with the
entities that are to be left go out, then the pairs with those that are to be joined come in. The
same comes of changes from the other side, one for each of these entities, in whatever order those
that are left and then those that are joined are gone through.
-/

namespace Federation

open Directory (network)

/-! ## A directory in its place -/

/-- A directory among others that a backend id leads to. It offers all changes and has no planned
faults. -/
structure Slot where
  backend : Int32
  front : List Directory
  directory : Directory
  back : List Directory
  first : ∀ d ∈ front, d.answersTo backend = false
  answers : directory.answersTo backend = true
  full : directory.mode = .full
  faultless : directory.Faultless

namespace Slot

variable {x : Slot}

/-- The directories, with other records in the one that the id leads to. -/
def holding (x : Slot) (c : Contents) : List Directory :=
  x.front ++ x.directory.withContents c :: x.back

/-- The directory that a backend id leads to is in its place. -/
theorem exists_holding {b : Int32} {ds : List Directory} {d : Directory}
    (hat : Directory.at? b ds = some d) (hfull : d.mode = .full) (hfaultless : d.Faultless) :
    ∃ x : Slot, x.backend = b ∧ x.directory = d ∧ ds = x.holding d.contents := by
  obtain ⟨hanswers, front, back, hds, hfirst⟩ := Directory.at?_eq_some_iff.1 hat
  exact ⟨⟨b, front, d, back, hfirst, hanswers, hfull, hfaultless⟩, rfl, rfl, hds⟩

theorem exists_of_at? {b : Int32} {ds : List Directory} {d : Directory}
    (hat : Directory.at? b ds = some d) (hfull : d.mode = .full) (hfaultless : d.Faultless) :
    ∃ x : Slot, x.backend = b ∧ ds = x.holding x.directory.contents := by
  obtain ⟨x, hx, rfl, hds⟩ := exists_holding hat hfull hfaultless
  exact ⟨x, hx, hds⟩

/-- The id leads there whatever the records are. -/
theorem at?_holding (x : Slot) (c : Contents) :
    Directory.at? x.backend (x.holding c) = some (x.directory.withContents c) :=
  Directory.at?_eq_some_iff.2 ⟨x.answers, x.front, x.back, rfl, x.first⟩

/-- A request that goes to the records is answered from them, and changes nothing else. -/
theorem serve (x : Slot) (c : Contents) {r : Request} (hoffers : Mode.full.offers r = true)
    (hrecords : (x.directory.withContents c).respond r = c.respond r) :
    network.serve x.backend r (x.holding c) =
      ⟨(c.respond r).1, x.holding (c.respond r).2, [.request r]⟩ := by
  have hanswers : (x.directory.withContents c).answersTo x.backend = true := x.answers
  have hmode : (x.directory.withContents c).mode.offers r = true := by
    rw [Directory.withContents, x.full]
    exact hoffers
  have hserve := (x.faultless.withContents c).serve hmode
  rw [hrecords] at hserve
  show Directory.serveAt _ _ _ = _
  rw [holding, Directory.serveAt_append x.first hanswers, hserve]
  rfl

end Slot

namespace Store

variable {s : Store} {k : Kind} {b : Int32} {l owner : String}
  {uniqueIds add remove : List String}

/-! ## Pairs -/

/-- The membership is one between the entity with the local id `l` at the backend `b` and one of
the entities with the unique ids. -/
def Pairs (s : Store) (k : Kind) (b : Int32) (l : String) (uniqueIds : List String)
    (x : Membership) : Prop :=
  ∃ raw ∈ uniqueIds, ∃ other, s.registry.decode raw = .ok ⟨b, other⟩ ∧ x = .link k l other

/-- All unique ids are those of entities of the backend. -/
def AllAt (s : Store) (b : Int32) (uniqueIds : List String) : Prop :=
  ∀ raw ∈ uniqueIds, ∃ l, s.registry.decode raw = .ok ⟨b, l⟩

/-- Then they have local ids. -/
theorem AllAt.exists_localizes (h : s.AllAt b uniqueIds) :
    ∃ locals, s.registry.Localizes b uniqueIds locals := by
  induction uniqueIds with
  | nil => exact ⟨[], rfl⟩
  | cons raw rest ih =>
    obtain ⟨⟨l, hl⟩, hrest⟩ := List.forall_mem_cons.1 h
    obtain ⟨locals, hlocals⟩ := ih hrest
    exact ⟨l :: locals, Registry.localizes_cons.2 ⟨l, locals, rfl, hl, hlocals⟩⟩

/-- The pairs are those with the local ids. -/
theorem pairs_iff {locals : List String} (h : s.registry.Localizes b uniqueIds locals)
    {x : Membership} : s.Pairs k b l uniqueIds x ↔ ∃ other ∈ locals, x = .link k l other := by
  constructor
  · rintro ⟨raw, hraw, other, hread, hx⟩
    have hmem := List.mem_map_of_mem (f := s.registry.decode) hraw
    rw [h, hread] at hmem
    obtain ⟨other', hother, hsame⟩ := List.mem_map.1 hmem
    injection hsame with hsame
    injection hsame with _ hsame
    exact ⟨other, hsame ▸ hother, hx⟩
  · rintro ⟨other, hother, hx⟩
    have hmem := List.mem_map_of_mem (f := fun l => (.ok ⟨b, l⟩ : Except StoreError EntityId)) hother
    rw [← h] at hmem
    obtain ⟨raw, hraw, hread⟩ := List.mem_map.1 hmem
    exact ⟨raw, hraw, other, hread, hx⟩

/-- It does not matter in which order the ids are given. -/
theorem pairs_perm {uniqueIds' : List String} (h : uniqueIds'.Perm uniqueIds) {x : Membership} :
    s.Pairs k b l uniqueIds' x ↔ s.Pairs k b l uniqueIds x := by
  simp only [Pairs, h.mem_iff]

/-! ## Operations in a row -/

/-- A sequence of commands goes on where the one before it ended. -/
theorem course_append {ω : Type} (s : Store) (net : Network ω) (cs cs' : List Command) (w : ω) :
    s.course net (cs ++ cs') w =
      ((s.course net cs w).1 ++ (s.course net cs' (s.course net cs w).2).1,
        (s.course net cs' (s.course net cs w).2).2) := by
  induction cs generalizing w with
  | nil => rfl
  | cons c rest ih =>
    have hrest := ih (s.carryOut net c w).2
    simp only [List.cons_append, course, hrest]

/-- Every command of a sequence is done, and they leave the state. -/
structure Done (s : Store) (cs : List Command) (ds after : List Directory) : Prop where
  results : ∀ o ∈ (s.course network cs ds).1, o.result = .ok .nothing
  state : (s.course network cs ds).2 = after

theorem Done.append {cs cs' : List Command} {ds ds' ds'' : List Directory}
    (h : s.Done cs ds ds') (h' : s.Done cs' ds' ds'') : s.Done (cs ++ cs') ds ds'' := by
  constructor
  case results =>
    intro o ho
    rw [course_append, h.state] at ho
    rcases List.mem_append.1 ho with ho | ho
    · exact h.results o ho
    · exact h'.results o ho
  case state => rw [course_append, h.state, h'.state]

/-- A single operation that is done. -/
theorem done_singleton {op : Operation} {ds after : List Directory}
    (hresult : ((s.perform op).run network ds).result = .ok .nothing)
    (hstate : ((s.perform op).run network ds).state = after) : s.Done [.operate op] ds after := by
  constructor
  case results =>
    intro o ho
    rw [List.mem_singleton.1 ho]
    exact hresult
  case state => exact hstate

/-- An operation that comes down to one request is done if the request is granted from the
records. -/
theorem done_of_demand (x : Slot) {c : Contents} {op : Operation} {task : Task} {r : Request}
    (hop : s.perform op = (fun _ => .nothing) <$> Dialogue.demand task x.backend r)
    (hserve : network.serve x.backend r (x.holding c) =
      ⟨(c.respond r).1, x.holding (c.respond r).2, [.request r]⟩)
    (hgranted : ∃ a, (c.respond r).1 = .ok a) :
    s.Done [.operate op] (x.holding c) (x.holding (c.respond r).2) := by
  obtain ⟨a, ha⟩ := hgranted
  rw [ha] at hserve
  rw [← bind_pure_comp, Dialogue.demand_bind] at hop
  apply done_singleton
  · rw [hop]
    simp only [Dialogue.run, hserve]
    rfl
  · rw [hop]
    simp only [Dialogue.run, hserve]
    rfl

/-! ## Changes of memberships -/

/-- An edit of memberships within a backend is made in the records of its directory. -/
theorem done_membershipEdit (x : Slot) (c : Contents) {edit locals : MembershipEdit}
    (howner : s.registry.decode owner = .ok ⟨x.backend, l⟩)
    (hlocal : edit.Localizes s.registry x.backend locals) :
    s.Done [.operate (edit.operation k owner)] (x.holding c)
      (x.holding (c.respond (locals.request k l)).2) := by
  cases hidle : edit.isIdle with
  | true =>
    -- the directory is not asked, and would change nothing if it were
    have hperform : s.perform (edit.operation k owner) = _ := perform_of_decode howner
    rw [hidle, if_pos rfl] at hperform
    have hsame : (c.respond (locals.request k l)).2 = c := by
      cases edit with
      | replace others => contradiction
      | change add remove =>
        cases locals with
        | replace _ => contradiction
        | change added removed =>
          rw [MembershipEdit.isIdle, Bool.and_eq_true, List.isEmpty_iff, List.isEmpty_iff] at hidle
          obtain ⟨rfl, rfl⟩ := hidle
          have hadded : added = [] := List.map_eq_nil_iff.1 hlocal.1.symm
          have hremoved : removed = [] := List.map_eq_nil_iff.1 hlocal.2.symm
          rw [hadded, hremoved]
          exact c.changeMemberships_nil k l
    rw [hsame]
    apply done_singleton
    · rw [hperform]
      rfl
    · rw [hperform]
      rfl
  | false =>
    have hreaches : s.Reaches owner edit ⟨x.backend, l⟩ locals := ⟨howner, hlocal, hidle⟩
    cases s.editing k owner edit with
    | atOnce hnone => exact absurd hreaches (hnone _ _)
    | asked e locals' hreaches' hperform =>
      obtain ⟨rfl, rfl⟩ := hreaches'.unique hreaches
      cases locals' with
      | _ => exact done_of_demand x hperform (x.serve c rfl rfl) ⟨(), rfl⟩

/-- The same change for several owners is made for each of them. -/
theorem done_changes (x : Slot) {added removed : List String}
    (hadd : s.registry.Localizes x.backend add added)
    (hremove : s.registry.Localizes x.backend remove removed) {owners locals : List String}
    (howners : s.registry.Localizes x.backend owners locals) (c : Contents) :
    s.Done (owners.map fun owner => .operate (.changeMemberships k owner add remove)) (x.holding c)
      (x.holding (locals.foldl (fun c l => c.changeMemberships k l added removed) c)) := by
  -- the records are any, as the changes for the first owners have been made in them
  induction owners generalizing locals c with
  | nil =>
    have hnone : locals = [] := List.map_eq_nil_iff.1 howners.symm
    subst hnone
    exact ⟨fun _ ho => absurd ho List.not_mem_nil, rfl⟩
  | cons owner rest ih =>
    obtain ⟨l, locals, rfl, howner, hrest⟩ := Registry.localizes_cons.1 howners
    have hlocal : (MembershipEdit.change add remove).Localizes s.registry x.backend
        (.change added removed) := ⟨hadd, hremove⟩
    have hfirst : s.Done [.operate (.changeMemberships k owner add remove)] (x.holding c)
        (x.holding (c.changeMemberships k l added removed)) := done_membershipEdit x c howner hlocal
    exact hfirst.append (ih hrest (c.changeMemberships k l added removed))

/-! ## Changes from the other side -/

/-- The change of the memberships of an entity, as changes of those of the entities at the other
ends: first of those that are to be left, then of those that are to be joined. -/
def fromOtherSide (k : Kind) (owner : String) (add remove : List String) : List Command :=
  (remove.map fun r => .operate (.changeMemberships k.other r [] [owner])) ++
    add.map fun a => .operate (.changeMemberships k.other a [owner] [])

/-- Changes from the other side are done, and update the same pairs. -/
theorem exists_done_fromOtherSide (x : Slot) (c : Contents)
    (howner : s.registry.decode owner = .ok ⟨x.backend, l⟩) (hadd : s.AllAt x.backend add)
    (hremove : s.AllAt x.backend remove) :
    ∃ c', s.Done (fromOtherSide k owner add remove) (x.holding c) (x.holding c') ∧
      c.Updates c' (s.Pairs k x.backend l remove) (s.Pairs k x.backend l add) := by
  obtain ⟨added, hadded⟩ := hadd.exists_localizes
  obtain ⟨removed, hremoved⟩ := hremove.exists_localizes
  have hone : s.registry.Localizes x.backend [owner] [l] :=
    Registry.localizes_cons.2 ⟨l, [], rfl, howner, rfl⟩
  have hnone : s.registry.Localizes x.backend [] [] := rfl
  refine ⟨_, (done_changes x hnone hone hremoved c).append (done_changes x hone hnone hadded _), ?_⟩
  have hleave := Contents.Updates.foldl
    (fun c r => c.updates_changeMemberships k.other r [] [l]) (by simp) removed c
  have hjoin := Contents.Updates.foldl
    (fun c a => c.updates_changeMemberships k.other a [l] []) (by simp) added
    (removed.foldl (fun c r => c.changeMemberships k.other r [] [l]) c)
  -- in each phase the pairs are seen from their other ends
  refine (hleave.trans hjoin).congr ?_ ?_
  · intro x'
    rw [pairs_iff hremoved]
    simp [Membership.link_other]
  · intro x'
    rw [pairs_iff hadded]
    simp [Membership.link_other]

/-- Changes of memberships from either side are one update of one relation. In every state of
directories that offer all changes and have no faults, a change of the memberships of an entity
with entities of its backend takes out the pairs with those to be removed, then puts in the pairs
with those to be added, and changes nothing else anywhere; and changes from the other side, one for
each of those entities in any order, first those to be removed, leave the same state. -/
theorem changeMemberships_updates {s : Store} {ds : List Directory} (hover : s.Over ds)
    (hfaultless : ∀ d ∈ ds, d.Faultless) (hfull : ∀ d ∈ ds, d.mode = .full) (k : Kind)
    {owner l : String} {b : Int32} (howner : s.registry.decode owner = .ok ⟨b, l⟩)
    {add remove : List String} (hadd : s.AllAt b add) (hremove : s.AllAt b remove) :
    ∃ (x : Slot) (c : Contents), x.backend = b ∧ ds = x.holding x.directory.contents ∧
      x.directory.contents.Updates c (s.Pairs k b l remove) (s.Pairs k b l add) ∧
      s.Done [.operate (.changeMemberships k owner add remove)] ds (x.holding c) ∧
      ∀ adds removes : List String, adds.Perm add → removes.Perm remove →
        s.Done (fromOtherSide k owner adds removes) ds (x.holding c) := by
  obtain ⟨b', hb', rfl⟩ := registered_of_decode howner
  obtain ⟨d, hd, -, hat⟩ := hover.at? hb'
  obtain ⟨x, hx, hds⟩ := Slot.exists_of_at? hat (hfull d hd) (hfaultless d hd)
  rw [← hx] at howner hadd hremove ⊢
  obtain ⟨added, hadded⟩ := hadd.exists_localizes
  obtain ⟨removed, hremoved⟩ := hremove.exists_localizes
  have hupdates := (x.directory.contents.updates_changeMemberships k l added removed).congr
    (fun _ => (pairs_iff hremoved).symm) (fun _ => (pairs_iff hadded).symm)
  refine ⟨x, _, rfl, hds, hupdates, ?_, ?_⟩
  · have howners : s.registry.Localizes x.backend [owner] [l] :=
      Registry.localizes_cons.2 ⟨l, [], rfl, howner, rfl⟩
    have hdone := done_changes (k := k) x hadded hremoved howners x.directory.contents
    rw [← hds] at hdone
    exact hdone
  · intro adds removes hadds hremoves
    have hadd' : s.AllAt x.backend adds := fun raw hraw => hadd raw (hadds.mem_iff.1 hraw)
    have hremove' : s.AllAt x.backend removes := fun raw hraw => hremove raw (hremoves.mem_iff.1 hraw)
    obtain ⟨c, hdone, hupdates'⟩ :=
      exists_done_fromOtherSide (k := k) x x.directory.contents howner hadd' hremove'
    -- the pairs are the same, and so is what is made of them
    have hsame := (hupdates'.congr (fun _ => pairs_perm hremoves) fun _ => pairs_perm hadds).unique
      hupdates
    rw [hsame, ← hds] at hdone
    exact hdone

/-- A user leaves two groups and joins one of them again, or the groups let the user go and in. -/
theorem changeMemberships_updates_poles :
    let s : Store := ⟨.standard, .poles⟩
    let contents := (Contents.empty.join ⟨"u.1", "g.1"⟩).join ⟨"u.1", "g.2"⟩
    let ds := Registry.poles.ordered.map fun b => { Directory.new b with contents }
    let id (l : String) := EntityId.encode ⟨-2147483648, l⟩
    let add := [id "g.1"]
    let remove := [id "g.1", id "g.2"]
    ∃ (x : Slot) (c : Contents), ds = x.holding x.directory.contents ∧
      c.memberships.contains ⟨"u.1", "g.1"⟩ = true ∧
      ¬ c.memberships.contains ⟨"u.1", "g.2"⟩ = true ∧
      s.Done [.operate (.changeMemberships .user (id "u.1") add remove)] ds (x.holding c) ∧
      s.Done (fromOtherSide .user (id "u.1") add remove.reverse) ds (x.holding c) := by
  intro s contents ds id add remove
  have hread : ∀ l, l ≠ "" → s.registry.decode (id l) = .ok ⟨-2147483648, l⟩ :=
    fun _ hl => decode_north hl
  have hg₁ := hread "g.1" (by decide)
  have hg₂ := hread "g.2" (by decide)
  have hadd : s.AllAt (-2147483648) add := List.forall_mem_singleton.2 ⟨_, hg₁⟩
  have hremove : s.AllAt (-2147483648) remove :=
    List.forall_mem_cons.2 ⟨⟨_, hg₁⟩, List.forall_mem_singleton.2 ⟨_, hg₂⟩⟩
  have hfaultless : ∀ d ∈ ds, d.Faultless := fun _ hd => (Directory.of_mem_filled hd).2
  have hfull : ∀ d ∈ ds, d.mode = .full := fun _ hd => (Directory.of_mem_filled hd).1
  obtain ⟨x, c, -, hds, hupdates, hdone, hothers⟩ := changeMemberships_updates (over_poles ds rfl)
    hfaultless hfull .user (hread "u.1" (by decide)) hadd hremove
  refine ⟨x, c, hds, ?_, ?_, hdone, hothers add _ (List.Perm.refl _) (List.reverse_perm _)⟩
  · -- what is to be left and to be joined is joined
    exact (hupdates.contains_iff _).2 (.inr ⟨_, List.mem_singleton_self _, _, hg₁, rfl⟩)
  · intro hmember
    rcases (hupdates.contains_iff _).1 hmember with ⟨-, hkept⟩ | ⟨raw, hraw, other, hother, hlink⟩
    · exact hkept ⟨_, List.mem_cons_of_mem _ (List.mem_singleton_self _), _, hg₂, rfl⟩
    · rw [List.mem_singleton.1 hraw, hg₁] at hother
      injection hother with hother
      injection hother with _ hother
      rw [← hother] at hlink
      injection hlink with _ hgroup
      exact absurd hgroup (by decide)

end Store

end Federation
