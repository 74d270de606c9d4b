import Federation.Directory.Contents

/-!
# Federation.Proofs.Directory.Selection — whom a filter shows and a claim finds

A listing shows the entities whose claims pass its filter, by ascending local ids. A claim finds
the first of the entities that carry it; that is the one which a search answers with, and the one
that a login with the claim is about.
-/

namespace Federation

/-! ## What a filter shows -/

/-- A piece occurs in a text exactly if something before it and something after it make up the
text. -/
theorem Text.occursIn_iff {piece text : List Char} :
    occursIn piece text = true ↔ piece <:+: text := by
  induction text with
  | nil => rw [occursIn, List.isEmpty_iff, List.infix_nil]
  | cons c rest ih =>
    rw [occursIn, Bool.or_eq_true, List.isPrefixOf_iff_prefix, ih, List.infix_cons_iff]

/-- The filter shows an entity with these claims. -/
def Filter.Shows : Filter → List Claim → Prop
  | .all, _ => True
  | .byClaim c, claims => c ∈ claims
  | .byMetaClaim m pattern, claims =>
    ∃ c ∈ claims, c.uri = m.uri ∧ Text.Pattern.core pattern <:+: c.value.toList

namespace Contents

variable {c : Contents} {k : Kind} {filter : Filter}

/-- The test of a directory finds what the filter shows. -/
theorem passes_iff {claims : List Claim} : passes filter claims = true ↔ filter.Shows claims := by
  cases filter with
  | all => exact iff_of_true rfl trivial
  | byClaim claim => exact List.contains_iff_mem
  | byMetaClaim m pattern =>
    simp only [passes, List.any_eq_true, Bool.and_eq_true, Claim.describedBy, decide_eq_true_eq,
      Text.Pattern.foundIn, Text.occursIn_iff, Filter.Shows]

/-- The listed ids are those of the entities that the filter shows. -/
theorem mem_matching_iff {id : String} : id ∈ c.matching k filter ↔
    ∃ claims, (c.entities k).get? id = some claims ∧ filter.Shows claims := by
  simp only [matching, List.mem_map, List.mem_filter, passes_iff, Dict.get?_eq_some_iff]
  constructor
  · rintro ⟨⟨id', claims⟩, ⟨hentry, hshows⟩, rfl⟩
    exact ⟨claims, hentry, hshows⟩
  · rintro ⟨claims, hentry, hshows⟩
    exact ⟨(id, claims), ⟨hentry, hshows⟩, rfl⟩

/-- They come in ascending order. -/
theorem matching_ascending (c : Contents) (k : Kind) (filter : Filter) :
    (c.matching k filter).Pairwise (· < ·) := by
  apply List.pairwise_map.2
  apply ((c.entities k).ordered.filter _).imp
  intro a b hbefore
  exact of_decide_eq_true hbefore

/-! ## Carriers of a claim -/

variable {claim : Claim} {l : String}

/-- The entity with the local id carries the claim. -/
def Carries (c : Contents) (k : Kind) (claim : Claim) (l : String) : Prop :=
  ∃ claims, (c.entities k).get? l = some claims ∧ claim ∈ claims

/-- It is the first entity that does. -/
structure FirstCarrier (c : Contents) (k : Kind) (claim : Claim) (l : String) : Prop where
  carries : c.Carries k claim l
  first : ∀ l', c.Carries k claim l' → l ≤ l'

/-- A listing by the claim shows the entities that carry it. -/
theorem mem_matching_byClaim : l ∈ c.matching k (.byClaim claim) ↔ c.Carries k claim l :=
  mem_matching_iff

/-- A search finds the first entity that carries the claim, if any does, -/
theorem find?_eq_some_iff : c.find? k claim = some l ↔ c.FirstCarrier k claim l := by
  have hascending := c.matching_ascending k (.byClaim claim)
  constructor
  · intro hfound
    obtain ⟨rest, hlisted⟩ := List.head?_eq_some_iff.1 hfound
    rw [hlisted, List.pairwise_cons] at hascending
    constructor
    case carries => exact mem_matching_byClaim.1 (List.mem_of_head? hfound)
    case first =>
      intro l' hl'
      rw [← mem_matching_byClaim, hlisted] at hl'
      rcases List.mem_cons.1 hl' with rfl | hlater
      · exact String.le_refl l'
      · exact String.not_lt.1 (String.lt_asymm (hascending.1 l' hlater))
  · intro hfirst
    have hmem := mem_matching_byClaim.2 hfirst.carries
    rw [find?]
    cases hlisted : c.matching k (.byClaim claim) with
    | nil =>
      rw [hlisted] at hmem
      contradiction
    | cons a rest =>
      rw [hlisted, List.pairwise_cons] at hascending
      rw [hlisted] at hmem
      rcases List.mem_cons.1 hmem with rfl | hlater
      · rfl
      · -- the head would come before the first entity
        have hhead : c.Carries k claim a := by
          rw [← mem_matching_byClaim, hlisted]
          exact List.mem_cons_self
        exact absurd (hascending.1 l hlater) (String.not_lt.2 (hfirst.first a hhead))

/-- of which there is one at most. -/
theorem FirstCarrier.unique {l' : String} (h : c.FirstCarrier k claim l)
    (h' : c.FirstCarrier k claim l') : l = l' :=
  String.le_antisymm (h.first l' h'.carries) (h'.first l h.carries)

end Contents

end Federation
