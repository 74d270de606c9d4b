import Mathlib.Data.List.Forall2
import Mathlib.Data.List.Nodup
import Federation.Proofs.Directory.Faultless
import Federation.Proofs.Text.Decimal

/-!
# Federation.Proofs.Directory.Additions — what additions leave behind

A directory gives out its ids in the order of its count, each once: the payloads of a batch get
the ids that follow each other, and every payload is found under its own. A directory without
planned faults adds a batch as a whole or one by one, and it makes no difference.
-/

namespace Federation

namespace Contents

variable {c : Contents} {k : Kind} {id : String}

/-! ## Ids -/

/-- The id that a directory gives out when it has given out `n` before. -/
def issued (k : Kind) (n : Nat) : String := freshId { empty with counter := n } k

/-- Only the count decides on the next id. -/
theorem freshId_eq (c : Contents) (k : Kind) : c.freshId k = issued k c.counter := rfl

/-- No id is given out twice. -/
theorem issued_injective (k : Kind) : Function.Injective (issued k) := by
  intro m n h
  have hdigits : Nat.toDigits 10 (m + 1) = Nat.toDigits 10 (n + 1) := by
    have hchars := String.ofList_injective h
    injection hchars with _ hrest
    injection hrest
  have hread := congrArg Text.Decimal.readNat? hdigits
  rw [Text.Decimal.readNat?_toDigits, Text.Decimal.readNat?_toDigits] at hread
  exact Nat.succ.inj (Option.some.inj hread)

/-! ## Single additions -/

@[simp] theorem counter_withEntities (c : Contents) (k : Kind)
    (entities : Dict String (List Claim)) : (c.withEntities k entities).counter = c.counter := by
  cases k with
  | user => rfl
  | group => rfl

/-- An addition counts one on. -/
theorem counter_add (c : Contents) (p : Payload k) : (c.add k p).2.counter = c.counter + 1 := by
  unfold add
  cases p.password? with
  | none => exact counter_withEntities _ _ _
  | some secret => exact counter_withEntities _ _ _

/-- The claims of the payload are found under the fresh id, and of other entities what was found
before. -/
theorem get?_add (c : Contents) (p : Payload k) (id : String) :
    ((c.add k p).2.entities k).get? id =
      if id = c.freshId k then some p.claims else (c.entities k).get? id := by
  have hstored : ∀ c' : Contents, c'.entities k = c.entities k →
      ((c'.setEntity k (c.freshId k) p.claims).entities k).get? id =
        if id = c.freshId k then some p.claims else (c.entities k).get? id := by
    intro c' hsame
    rw [setEntity, entities_withEntities, if_pos rfl, Dict.get?_insert, hsame]
  unfold add
  cases p.password? with
  | none =>
    apply hstored
    cases k with
    | user => rfl
    | group => rfl
  | some secret =>
    apply hstored
    cases k with
    | user => rfl
    | group => rfl

/-! ## Batches -/

/-- The ids of a batch follow each other. -/
theorem ids_addAll (c : Contents) (payloads : List (Payload k)) :
    (c.addAll k payloads).1 = (List.range' c.counter payloads.length).map (issued k) := by
  induction payloads generalizing c with
  | nil => rfl
  | cons p rest ih =>
    have hrest := ih (c.add k p).2
    rw [counter_add] at hrest
    rw [List.length_cons, List.range'_succ, List.map_cons, ← hrest, ← c.freshId_eq k]
    rfl

/-- So they are different. -/
theorem nodup_ids_addAll (c : Contents) (payloads : List (Payload k)) :
    (c.addAll k payloads).1.Nodup := by
  rw [ids_addAll]
  exact List.Nodup.map (issued_injective k) List.nodup_range'

/-- A batch leaves alone what is under no id of its own. -/
theorem get?_addAll_of_not_mem {payloads : List (Payload k)}
    (h : id ∉ (c.addAll k payloads).1) :
    ((c.addAll k payloads).2.entities k).get? id = (c.entities k).get? id := by
  induction payloads generalizing c with
  | nil => rfl
  | cons p rest ih =>
    have hfirst := c.get?_add p id
    rw [if_neg (List.ne_of_not_mem_cons h)] at hfirst
    exact (ih (List.not_mem_of_not_mem_cons h)).trans hfirst

/-- Every payload of a batch is found under an id of its own. -/
theorem get?_addAll (c : Contents) (payloads : List (Payload k)) :
    List.Forall₂ (fun p id => id ≠ "" ∧
      ((c.addAll k payloads).2.entities k).get? id = some p.claims)
      payloads (c.addAll k payloads).1 := by
  induction payloads generalizing c with
  | nil => exact .nil
  | cons p rest ih =>
    refine .cons ⟨c.freshId_ne_empty k, ?_⟩ (ih (c.add k p).2)
    -- the ids that come after the first one are different from it
    have hnew : c.freshId k ∉ ((c.add k p).2.addAll k rest).1 :=
      (List.nodup_cons.1 (c.nodup_ids_addAll (p :: rest))).1
    have hfirst := c.get?_add p (c.freshId k)
    rw [if_pos rfl] at hfirst
    exact (get?_addAll_of_not_mem hnew).trans hfirst

end Contents

namespace Directory

variable {d : Directory} {k : Kind}

/-- The directory offers additions, and none of its methods has a planned fault. -/
structure Adds (d : Directory) : Prop where
  offers : d.mode = .full ∨ d.mode = .addOnly
  faultless : d.Faultless

theorem Adds.withContents (h : d.Adds) (c : Contents) : (d.withContents c).Adds :=
  ⟨h.offers, h.faultless⟩

/-- It offers the addition of any payload. -/
theorem Adds.offers_add (h : d.Adds) (p : Payload k) : d.mode.offers (.add k p) = true := by
  rcases h.offers with hmode | hmode
  · rw [hmode]
    rfl
  · rw [hmode]
    rfl

/-- An addition is made in the records. -/
theorem Adds.single (h : d.Adds) (p : Payload k) :
    Directory.single (.add k p) d =
      ⟨.ok (d.contents.add k p).1, d.withContents (d.contents.add k p).2, [.request (.add k p)]⟩ :=
  (if_pos (h.offers_add p)).trans (h.faultless.call _)

/-- A batch that is added one by one is added as the records add it as a whole. -/
theorem Adds.addEach (h : d.Adds) (payloads : List (Payload k)) :
    Backend.addEach Directory.single k payloads d =
      (.ok (d.contents.addAll k payloads).1, d.withContents (d.contents.addAll k payloads).2,
        payloads.map fun p => .request (.add k p)) := by
  induction payloads generalizing d with
  | nil => rfl
  | cons p rest ih =>
    have hrest := ih (h.withContents (d.contents.add k p).2)
    simp only [Backend.addEach, h.single p, hrest]
    rfl

/-- So a batch is added alike in every mode that offers additions. -/
theorem Adds.serve_addAll (h : d.Adds) (payloads : List (Payload k)) :
    (d.serve (.addAll k payloads)).outcome = .ok (d.contents.addAll k payloads).1 ∧
      (d.serve (.addAll k payloads)).state = d.withContents (d.contents.addAll k payloads).2 := by
  rw [Directory.serve_addAll]
  rcases h.offers with hmode | hmode
  · rw [if_pos hmode, h.faultless.call]
    exact ⟨rfl, rfl⟩
  · have hsingle : d.mode ≠ .full := by
      rw [hmode]
      decide
    rw [if_neg hsingle, Backend.addOneByOne, h.addEach payloads]
    exact ⟨rfl, rfl⟩

end Directory

end Federation
