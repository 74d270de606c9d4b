import Federation.Proofs.Store.Interleaving
import Federation.Proofs.Store.Requests
import Mathlib.Data.List.Forall2

/-!
# Federation.Proofs.Store.Spelling — ways to name the primary backend

An operation goes to the primary backend if no backend is named, if the name is empty, and if it
is the primary backend's name in lower case. The first two lead there by the order of backends,
the third one by the index of names; the two ways meet, and afterwards an operation goes by the
backend alone, and not by how it was named.
-/

namespace Federation

/-! ## Names of the primary backend -/

namespace Operation

/-- The operation is addressed by the name of one backend, which need not be given. -/
def isNamed : Operation → Bool
  | getByClaim .. | list .. | add .. | addAll .. => true
  | _ => false

/-- The operation, addressed by another backend name, if it is addressed by one. -/
def withBackend (name : Option String) : Operation → Operation
  | authenticate claim credentials _ => authenticate claim credentials name
  | getByClaim k claim _ => getByClaim k claim name
  | list k filter offset length _ => list k filter offset length name
  | add k payload _ => add k payload name
  | addAll k payloads _ => addAll k payloads name
  | op => op

/-- A login is not addressed by the name of one backend. -/
theorem isLogin_of_isNamed {op : Operation} (h : op.isNamed = true) : op.isLogin = false := by
  cases op with
  | authenticate => contradiction
  | _ => rfl

end Operation

namespace Store

variable {s : Store} {name name' : Option String}

/-- The ways to name the primary backend of a store. -/
inductive NamesPrimary (s : Store) : Option String → Prop
  | absent : NamesPrimary s none
  | empty : NamesPrimary s (some "")
  /-- Its declared name, or any text that is the same in lower case. -/
  | spelled {n : String} (h : Text.lowercase n = Text.lowercase s.registry.primary.name) :
      NamesPrimary s (some n)

/-- These are all the ways: a name leads to the primary backend exactly if it is one of them. -/
theorem resolve_eq_primary_iff : s.resolve name = .ok s.registry.primary ↔ s.NamesPrimary name := by
  constructor
  · intro h
    cases name with
    | none => exact .absent
    | some n =>
      by_cases hn : n = ""
      · rw [hn]
        exact .empty
      · rw [resolve_of_ne_empty hn] at h
        exact .spelled (Registry.byName_eq_ok_iff.1 h).2.symm
  · intro h
    cases h with
    | absent => rfl
    | empty => rfl
    | @spelled n h =>
      by_cases hn : n = ""
      · rw [hn]
        rfl
      · -- the index of names leads to the backend that is the first in the order
        have hfirst : s.registry.primary ∈ s.registry.ordered := List.head_mem _
        rw [resolve_of_ne_empty hn]
        exact Registry.byName_eq_ok_iff.2 ⟨hfirst, h.symm⟩

/-! ## Operations -/

/-- Nothing but the backend that a name leads to matters about the name. A login is different, as
it goes through all backends if none is named. -/
theorem perform_withBackend {op : Operation} (hop : op.isLogin = false)
    (h : s.resolve name = s.resolve name') :
    s.perform (op.withBackend name) = s.perform (op.withBackend name') := by
  cases op with
  | authenticate => contradiction
  | getByClaim | list | add | addAll =>
    simp only [Operation.withBackend, perform, getByClaim, list, add, addAll, h]
  | _ => rfl

/-- An operation that is addressed by a name speaks to the backend that the name leads to. -/
theorem speaksTo_withBackend {op : Operation} (hop : op.isNamed = true) {b : BackendConfig}
    (h : s.resolve name = .ok b) : (s.perform (op.withBackend name)).SpeaksTo b.id := by
  have hname : s.NameLeadsTo b.id name := by
    intro b' hb'
    rw [h] at hb'
    rw [Except.ok.inj hb']
  apply speaksTo_perform
  cases op with
  | getByClaim | list | add | addAll => exact hname
  | _ => contradiction

/-- The second command is the first one, or differs from it in how the primary backend is
named. -/
inductive Respelled (s : Store) : Command → Command → Prop
  | same (c : Command) : Respelled s c c
  | renamed (op : Operation) {name name' : Option String} (hop : op.isNamed = true)
      (h : s.NamesPrimary name) (h' : s.NamesPrimary name') :
      Respelled s (.operate (op.withBackend name)) (.operate (op.withBackend name'))

/-- A command that is respelled is carried out as before. -/
theorem Respelled.carryOut {ω : Type} {c c' : Command} (h : s.Respelled c c') (net : Network ω)
    (w : ω) : s.carryOut net c w = s.carryOut net c' w := by
  suffices hsame : s.obey c = s.obey c' by rw [Store.carryOut, Store.carryOut, hsame]
  cases h with
  | same c => rfl
  | renamed op hop h h' =>
    apply perform_withBackend (Operation.isLogin_of_isNamed hop)
    rw [resolve_eq_primary_iff.2 h, resolve_eq_primary_iff.2 h']

/-- No name, the empty name and the name of the primary backend, in any letter case, are the same
request: commands that differ in nothing else have the same outcomes and leave the same state, one
after another, and an operation so addressed speaks to the primary backend alone. -/
theorem course_of_respelled (s : Store) {ω : Type} (net : Network ω) (w : ω) :
    (∀ cs cs' : List Command, List.Forall₂ s.Respelled cs cs' →
      s.course net cs w = s.course net cs' w) ∧
    ∀ (op : Operation) (name : Option String), op.isNamed = true → s.NamesPrimary name →
      ∀ x ∈ (s.perform (op.withBackend name)).exchanges net w,
        x.backend = s.registry.primary.id := by
  constructor
  · intro cs cs' h
    induction h generalizing w with
    | nil => rfl
    | cons hc hrest ih =>
      have hstep := hc.carryOut net w
      simp only [course, hstep, ih]
  · intro op name hop h
    have hprimary := speaksTo_withBackend hop (resolve_eq_primary_iff.2 h)
    exact (Dialogue.speaksTo_iff_within.1 hprimary).backend net w

/-- A user is looked up, and another one is added, under four names of one backend. -/
theorem course_of_respelled_north :
    let s : Store := ⟨.standard, .poles⟩
    let ds := Registry.poles.ordered.map Directory.new
    let ann : Claim := ⟨Claim.usernameUri, "ann"⟩
    let find (name : Option String) := Operation.getByClaim .user ann name
    let add (name : Option String) := Operation.add .user ⟨[ann], []⟩ name
    s.course Directory.network [.operate (add none), .operate (find (some "North"))] ds =
        s.course Directory.network [.operate (add (some "NORTH")), .operate (find (some ""))] ds ∧
      ∀ x ∈ (s.perform (add (some "nORTH"))).exchanges Directory.network ds,
        x.backend = -2147483648 := by
  intro s ds ann find add
  have hspelled : ∀ n, Text.lowercase n = Text.lowercase "north" → s.NamesPrimary (some n) :=
    fun n hn => .spelled hn
  obtain ⟨hcourse, hbackend⟩ := s.course_of_respelled Directory.network ds
  constructor
  · apply hcourse
    have hadd : s.Respelled (.operate (add none)) (.operate (add (some "NORTH"))) :=
      .renamed (add none) rfl .absent (hspelled _ (by decide))
    have hfind : s.Respelled (.operate (find (some "North"))) (.operate (find (some ""))) :=
      .renamed (find none) rfl (hspelled _ (by decide)) .empty
    exact .cons hadd (.cons hfind .nil)
  · exact hbackend (add none) _ rfl (hspelled _ (by decide))

end Store

end Federation
