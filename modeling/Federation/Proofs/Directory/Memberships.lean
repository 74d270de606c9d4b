import Mathlib.Data.List.Nodup
import Federation.Directory.Contents
import Federation.Proofs.Collection.Dict

/-!
# Federation.Proofs.Directory.Memberships — memberships as a relation

The memberships of a directory are a relation between users and groups. What is listed for a user
and what is listed for a group are the two views of it. A change of memberships, from either side,
takes some pairs out of the relation and puts others in, and does nothing else; so changes that
are made of the same pairs come to the same.
-/

namespace Federation

namespace Membership

variable {k : Kind} {id other : String} {m : Membership}

/-- A membership is given by its ends. -/
theorem eq_link_iff : m = link k id other ↔ m.ofKind k = id ∧ m.ofKind k.other = other := by
  cases k with
  | user =>
    constructor
    · rintro rfl
      exact ⟨rfl, rfl⟩
    · rintro ⟨rfl, rfl⟩
      rfl
  | group =>
    constructor
    · rintro rfl
      exact ⟨rfl, rfl⟩
    · rintro ⟨rfl, rfl⟩
      rfl

/-- From its other end it is the same membership. -/
theorem link_other (k : Kind) (id other : String) : link k.other other id = link k id other := by
  cases k with
  | user => rfl
  | group => rfl

end Membership

namespace Contents

variable {c c' c'' : Contents} {k : Kind} {id other : String}

/-! ## Views -/

/-- An entity is listed with those that there is a membership with. -/
theorem mem_membershipsOf_iff : other ∈ c.membershipsOf k id ↔
    c.memberships.contains (.link k id other) = true := by
  simp only [membershipsOf, List.mem_map, List.mem_filter, decide_eq_true_eq, and_assoc]
  rw [← Dict.mem_keys_iff]
  constructor
  · rintro ⟨m, hm, hends⟩
    rw [← Membership.eq_link_iff.2 hends]
    exact hm
  · intro hm
    exact ⟨_, hm, Membership.eq_link_iff.1 rfl⟩

/-- It is listed with none of them twice. -/
theorem nodup_membershipsOf (c : Contents) (k : Kind) (id : String) :
    (c.membershipsOf k id).Nodup := by
  refine List.Nodup.map_on ?_ (c.memberships.nodup_keys.filter _)
  intro m hm m' hm' hother
  have hid := of_decide_eq_true (List.mem_filter.1 hm).2
  have hid' := of_decide_eq_true (List.mem_filter.1 hm').2
  exact (Membership.eq_link_iff.2 ⟨hid, hother⟩).trans (Membership.eq_link_iff.2 ⟨hid', rfl⟩).symm

/-! ## Updates -/

/-- The second records are the first with some memberships taken out and then others put in. -/
structure Updates (c c' : Contents) (removed added : Membership → Prop) : Prop where
  /-- Nothing else is changed. -/
  others : c' = { c with memberships := c'.memberships }
  contains_iff : ∀ x, c'.memberships.contains x = true ↔
    (c.memberships.contains x = true ∧ ¬ removed x) ∨ added x

namespace Updates

variable {removed added removed' added' : Membership → Prop}

/-- What is taken out matters only where there is something. -/
theorem congr_of_contains (h : Updates c c' removed added)
    (hremoved : ∀ x, c.memberships.contains x = true → (removed x ↔ removed' x))
    (hadded : ∀ x, added x ↔ added' x) : Updates c c' removed' added' := by
  constructor
  case others => exact h.others
  case contains_iff =>
    intro x
    rw [h.contains_iff, hadded]
    exact or_congr_left (and_congr_right fun hx => not_congr (hremoved x hx))

theorem congr (h : Updates c c' removed added) (hremoved : ∀ x, removed x ↔ removed' x)
    (hadded : ∀ x, added x ↔ added' x) : Updates c c' removed' added' :=
  h.congr_of_contains (fun x _ => hremoved x) hadded

/-- There is only one way to carry out an update. -/
theorem unique (h : Updates c c' removed added) (h' : Updates c c'' removed added) : c' = c'' := by
  have hsame : c'.memberships = c''.memberships := by
    apply Dict.ext_contains
    intro x
    rw [h.contains_iff, h'.contains_iff]
  rw [h.others, h'.others, hsame]

/-- Of two updates in a row, the later decides where both are concerned. -/
theorem trans (h : Updates c c' removed added) (h' : Updates c' c'' removed' added') :
    Updates c c'' (fun x => removed x ∨ removed' x)
      (fun x => (added x ∧ ¬ removed' x) ∨ added' x) := by
  constructor
  case others => rw [h'.others, h.others]
  case contains_iff =>
    intro x
    rw [h'.contains_iff, h.contains_iff, or_and_right, or_assoc, not_or, and_assoc]

/-- Nothing is updated by updating nothing. -/
theorem refl (c : Contents) : Updates c c (fun _ => False) (fun _ => False) :=
  ⟨rfl, fun _ => by simp⟩

/-- A row of updates, none of which takes out what another one puts in, is one update. -/
theorem foldl {f : Contents → String → Contents} {R A : String → Membership → Prop}
    (hstep : ∀ c l, Updates c (f c l) (R l) (A l)) (hapart : ∀ l l' x, A l x → ¬ R l' x)
    (ls : List String) (c : Contents) :
    Updates c (ls.foldl f c) (fun x => ∃ l ∈ ls, R l x) (fun x => ∃ l ∈ ls, A l x) := by
  induction ls generalizing c with
  | nil => exact (refl c).congr (by simp) (by simp)
  | cons l rest ih =>
    refine ((hstep c l).trans (ih (f c l))).congr ?_ ?_
    · intro x
      rw [List.exists_mem_cons_iff]
    · intro x
      rw [List.exists_mem_cons_iff]
      -- what the first update puts in, the later ones leave in
      refine or_congr_left (and_iff_left_of_imp ?_)
      rintro hadded ⟨l', -, hremoved⟩
      exact hapart l l' x hadded hremoved

end Updates

/-- Additions put the pairs in. -/
theorem updates_joinAll (c : Contents) (k : Kind) (id : String) (others : List String) :
    Updates c (c.joinAll k id others) (fun _ => False)
      (fun x => ∃ other ∈ others, x = .link k id other) := by
  have hjoin : ∀ (c : Contents) (other : String),
      Updates c (c.join (.link k id other)) (fun _ => False) (· = .link k id other) := by
    intro c other
    constructor
    case others => rfl
    case contains_iff =>
      intro x
      rw [join, Dict.contains_insert, not_false_eq_true, and_true, or_comm]
  refine (Updates.foldl hjoin (fun _ _ _ _ h => h) others c).congr ?_ fun _ => Iff.rfl
  intro x
  simp

/-- Memberships that are not kept are taken out. -/
theorem updates_keepMemberships (c : Contents) (p : Membership → Bool) :
    Updates c (c.keepMemberships p) (fun x => ¬ p x = true) (fun _ => False) := by
  constructor
  case others => rfl
  case contains_iff =>
    intro x
    rw [keepMemberships, Dict.contains_keep, not_not, or_false]

/-- A change of the memberships of an entity takes out its pairs with those that are to be removed,
then puts in its pairs with those that are to be added. -/
theorem updates_changeMemberships (c : Contents) (k : Kind) (id : String)
    (add remove : List String) :
    Updates c (c.changeMemberships k id add remove)
      (fun x => ∃ other ∈ remove, x = .link k id other)
      (fun x => ∃ other ∈ add, x = .link k id other) := by
  refine ((updates_keepMemberships c _).trans (updates_joinAll _ k id add)).congr ?_ ?_
  · intro x
    simp only [or_false, Bool.or_eq_true, decide_eq_true_eq, Bool.not_eq_true', not_or, ne_eq,
      not_not, Bool.not_eq_false, List.contains_iff_mem, Membership.eq_link_iff]
    constructor
    · rintro ⟨hid, hmem⟩
      exact ⟨_, hmem, hid, rfl⟩
    · rintro ⟨other, hmem, hid, rfl⟩
      exact ⟨hid, hmem⟩
  · intro x
    simp

/-- A replacement takes out all pairs of the entity, then puts in those with the others. -/
theorem updates_replaceMemberships (c : Contents) (k : Kind) (id : String) (others : List String) :
    Updates c (c.replaceMemberships k id others) (fun x => x.ofKind k = id)
      (fun x => ∃ other ∈ others, x = .link k id other) := by
  refine ((updates_keepMemberships c _).trans (updates_joinAll _ k id others)).congr ?_ ?_
  · intro x
    simp
  · intro x
    simp

/-- A replacement is the change that takes out what is listed. -/
theorem replaceMemberships_eq (c : Contents) (k : Kind) (id : String) (others : List String) :
    c.replaceMemberships k id others =
      c.changeMemberships k id others (c.membershipsOf k id) := by
  refine ((c.updates_replaceMemberships k id others).congr_of_contains ?_ fun _ => Iff.rfl).unique
    (c.updates_changeMemberships k id others (c.membershipsOf k id))
  -- every pair of the entity that there is, is listed
  intro x hx
  constructor
  · intro hid
    have hends : x = .link k id (x.ofKind k.other) := Membership.eq_link_iff.2 ⟨hid, rfl⟩
    exact ⟨_, mem_membershipsOf_iff.2 (hends ▸ hx), hends⟩
  · rintro ⟨other, -, hends⟩
    exact (Membership.eq_link_iff.1 hends).1

/-- A change that is made of no pairs changes nothing. -/
theorem changeMemberships_nil (c : Contents) (k : Kind) (id : String) :
    c.changeMemberships k id [] [] = c := by
  refine ((c.updates_changeMemberships k id [] []).congr ?_ ?_).unique (Updates.refl c)
  · intro x
    simp
  · intro x
    simp

end Contents

end Federation
