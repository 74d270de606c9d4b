import Federation.Proofs.Directory.Effects
import Federation.Proofs.Directory.Memberships

/-!
# Federation.Proofs.Directory.Deletion — what is left of an entity

A deletion takes everything out of the records that mentions the entity: the entity itself, a user's
password, and the memberships at one end of which it stands. It takes nothing else out. As a read
reports only what the records mention, no read reports the entity any more.
-/

namespace Federation

namespace Contents

variable {c c' : Contents} {k : Kind} {l : String}

/-! ## Deletions -/

/-- The second records are the first without one entity that was there, and without all that goes
with it. -/
structure Removes (c c' : Contents) (k : Kind) (l : String) : Prop where
  present : (c.entities k).contains l = true
  entities : ∀ k' l', (c'.entities k').get? l' =
    if k' = k ∧ l' = l then none else (c.entities k').get? l'
  passwords : ∀ user, c'.passwords.get? user =
    if k = .user ∧ user = l then none else c.passwords.get? user
  memberships : ∀ m, c'.memberships.contains m = true ↔
    c.memberships.contains m = true ∧ m.ofKind k ≠ l
  counter : c'.counter = c.counter

/-- A deletion of an entity that is there removes it. -/
theorem removes_delete (h : (c.entities k).contains l = true) :
    (c.delete k l).1 = .ok () ∧ c.Removes (c.delete k l).2 k l := by
  have hentities : ∀ k' l', ((c.withEntities k ((c.entities k).erase l)).entities k').get? l' =
      if k' = k ∧ l' = l then none else (c.entities k').get? l' := by
    intro k' l'
    rw [entities_withEntities]
    by_cases hk : k' = k
    · subst hk
      rw [if_pos rfl, Dict.get?_erase]
      simp only [true_and]
    · rw [if_neg hk, if_neg fun hboth => hk hboth.1]
  have hmemberships : ∀ m, (c.memberships.keep (·.ofKind k ≠ l)).contains m = true ↔
      c.memberships.contains m = true ∧ m.ofKind k ≠ l := by
    intro m
    rw [Dict.contains_keep, decide_eq_true_eq]
  unfold delete
  rw [if_pos h]
  cases k with
  | user =>
    refine ⟨rfl, ?_⟩
    constructor
    case present => exact h
    case entities => exact hentities
    case passwords =>
      intro user
      refine (Dict.get?_erase c.passwords l user).trans ?_
      simp only [true_and]
    case memberships => exact hmemberships
    case counter => rfl
  | group =>
    refine ⟨rfl, ?_⟩
    constructor
    case present => exact h
    case entities => exact hentities
    case passwords =>
      intro user
      exact (if_neg fun hboth => Kind.noConfusion hboth.1).symm
    case memberships => exact hmemberships
    case counter => rfl

/-- Who is not there is not deleted, and nothing else is. -/
theorem delete_of_absent (h : (c.entities k).contains l = false) :
    c.delete k l = (.error (.notFound k l), c) := by
  rw [delete, h]
  rfl

/-! ## Mentions -/

/-- The records mention the entity: it is recorded itself, or stands at the end of a membership. -/
def Mentions (c : Contents) (k : Kind) (l : String) : Prop :=
  (c.entities k).contains l = true ∨
    ∃ m, c.memberships.contains m = true ∧ m.ofKind k = l

/-- A deletion leaves no mention of the entity. -/
theorem Removes.absent (h : c.Removes c' k l) : (c'.entities k).contains l = false := by
  rw [Dict.contains_eq_isSome_get?, h.entities, if_pos ⟨rfl, rfl⟩]
  rfl

theorem Removes.not_mentions (h : c.Removes c' k l) : ¬ c'.Mentions k l := by
  rintro (hpresent | ⟨m, hm, hend⟩)
  · rw [h.absent] at hpresent
    contradiction
  · exact ((h.memberships m).1 hm).2 hend

/-- Entities that are recorded are mentioned. -/
theorem mentions_of_mem_keys (h : l ∈ (c.entities k).keys) : c.Mentions k l :=
  .inl (Dict.mem_keys_iff.1 h)

/-- A read reports only what the records mention. -/
theorem mentions_of_reported {r : Request} {a : r.Answer} (hr : r.isWrite = false)
    (ha : (c.respond r).1 = .ok a) (hl : (k, l) ∈ r.reported a) : c.Mentions k l := by
  cases r with
  | isPresent k' id =>
    have hpresent : (c.entities k').contains id = a := Except.ok.inj ha
    cases a with
    | false => contradiction
    | true =>
      obtain ⟨rfl, rfl⟩ := Prod.mk.inj (List.mem_singleton.1 hl)
      exact .inl hpresent
  | find k' claim =>
    obtain ⟨id, hid, hsame⟩ := List.mem_map.1 hl
    obtain ⟨rfl, rfl⟩ := Prod.mk.inj hsame
    have hfound : c.find? k' claim = a := Except.ok.inj ha
    rw [← hfound] at hid
    exact mentions_of_mem_keys (mem_keys_of_find? (Option.mem_toList.1 hid))
  | list k' filter page =>
    obtain ⟨id, hid, hsame⟩ := List.mem_map.1 hl
    obtain ⟨rfl, rfl⟩ := Prod.mk.inj hsame
    have hlisted : page.window (c.matching k' filter) = a := Except.ok.inj ha
    rw [← hlisted] at hid
    exact mentions_of_mem_keys (mem_keys_of_mem_matching (Page.mem_of_mem_window hid))
  | memberships k' id =>
    obtain ⟨other, hother, hsame⟩ := List.mem_map.1 hl
    obtain ⟨rfl, rfl⟩ := Prod.mk.inj hsame
    have hlisted : c.membershipsOf k' id = a := Except.ok.inj ha
    rw [← hlisted] at hother
    -- it stands at the other end of a membership
    exact .inr ⟨_, mem_membershipsOf_iff.1 hother, (Membership.eq_link_iff.1 rfl).2⟩
  | authenticate claim credentials =>
    obtain ⟨rfl, rfl⟩ := Prod.mk.inj (List.mem_singleton.1 hl)
    exact mentions_of_mem_keys (mem_keys_of_authenticate ha)
  | isMember | claims | claimsFor => contradiction
  | _ => contradiction

end Contents

namespace Directory

variable {b : Int32} {ds : List Directory} {r : Request} {k : Kind} {l : String}

/-- So does a read among directories: what it reports is mentioned in the records of the directory
that was asked. -/
theorem mentions_of_serveAt {a : r.Answer} (hr : r.isWrite = false)
    (ha : (serveAt b r ds).outcome = .ok a) (hl : (k, l) ∈ r.reported a) :
    ∃ d, at? b ds = some d ∧ d.contents.Mentions k l := by
  have hselect : ∀ k id metas, r ≠ .claimsFor k id metas := by
    rintro k id metas rfl
    contradiction
  obtain ⟨d, hat, hanswer, -⟩ := respond_of_serveAt hr hselect ha
  exact ⟨d, hat, Contents.mentions_of_reported hr hanswer hl⟩

end Directory

end Federation
