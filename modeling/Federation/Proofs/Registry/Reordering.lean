import Federation.Proofs.Registry.Construction

/-!
# Federation.Proofs.Registry.Reordering — backends registered in another order

The order in which backends are registered decides between backends of one priority and nothing
else. Lists that agree on every priority (`SameLevels`) come to the same sorted list, so the same
registry or the same error is made of them. Registries of any two orders of the same backends know
the same ids and names, and differ at most in how backends of one priority follow each other
(`Rearranges`).
-/

namespace Federation.Registry

variable {backends backends' : List BackendConfig} {r r' : Registry}

/-! ## Lists that sort alike -/

/-- Two lists have the same backends of every priority, in the same order. -/
def SameLevels (backends backends' : List BackendConfig) : Prop :=
  ∀ p, backends.filter (·.priority = p) = backends'.filter (·.priority = p)

/-- Lists with the same levels have one order of their backends. -/
theorem arrange_eq_of_sameLevels (h : SameLevels backends backends') :
    arrange backends = arrange backends' := by
  have hother : InTurn backends (arrange backends') := by
    refine ⟨arrange_byPriority backends', fun p => ?_⟩
    rw [h p]
    exact (arrange_inTurn backends').2 p
  exact (arrange_inTurn backends).unique hother

theorem arrange_eq_nil_iff : arrange backends = [] ↔ backends = [] := by
  rw [← List.length_eq_zero_iff, arrange, List.length_mergeSort, List.length_eq_zero_iff]

/-- What is made of a list depends on the sorted list alone. -/
theorem ofList_eq_of_arrange_eq (h : arrange backends = arrange backends') :
    ofList backends = ofList backends' := by
  have hempty : backends = [] ↔ backends' = [] := by
    rw [← arrange_eq_nil_iff, h, arrange_eq_nil_iff]
  unfold ofList
  split
  · rename_i hnil
    rw [dif_pos (hempty.1 hnil)]
  · rename_i hne
    rw [dif_neg (mt hempty.2 hne)]
    -- both lists are entered alike
    split
    · rename_i problem henter
      split
      · rename_i problem' henter'
        rw [h, henter'] at henter
        injection henter with hsame
        rw [hsame]
      · rename_i henter'
        rw [h, henter'] at henter
        contradiction
    · rename_i henter
      split
      · rename_i henter'
        rw [h, henter'] at henter
        contradiction
      · rename_i henter'
        rw [h, henter'] at henter
        injection henter with hsame
        injection hsame with hnames hids
        subst hnames hids
        simp only [h]

/-! ## Registries of the same backends -/

/-- Two registries that know the same ids and names, and whose orders differ at most in how the
backends of one priority follow each other. -/
structure Rearranges (r r' : Registry) : Prop where
  byId (id : Int32) : r.byId? id = r'.byId? id
  byName (name : String) : r.byName name = r'.byName name
  containsId (id : Int32) : r.containsId id = r'.containsId id
  size : r.size = r'.size
  names : r.names = r'.names
  primary : r.primary.priority = r'.primary.priority
  /-- Position by position the backends have the same priority. -/
  priorities : r.ordered.map (·.priority) = r'.ordered.map (·.priority)
  levels (p : Int32) :
    (r.ordered.filter (·.priority = p)).Perm (r'.ordered.filter (·.priority = p))

/-- An id leads to the same backend wherever the backend stands. -/
theorem byId?_eq_of_perm (h : r.ordered.Perm r'.ordered) (id : Int32) :
    r.byId? id = r'.byId? id := by
  apply Option.ext
  intro b
  rw [byId?_eq_some_iff, byId?_eq_some_iff, h.mem_iff]

theorem byName?_eq_of_perm (h : r.ordered.Perm r'.ordered) (name : String) :
    r.byName? name = r'.byName? name := by
  apply Option.ext
  intro b
  rw [byName?_eq_some_iff, byName?_eq_some_iff, h.mem_iff]

theorem containsId_eq_of_perm (h : r.ordered.Perm r'.ordered) (id : Int32) :
    r.containsId id = r'.containsId id := by
  have hregistered : r.Registered id ↔ r'.Registered id := by
    simp only [Registered, h.mem_iff]
  rw [Bool.eq_iff_iff, containsId_iff, containsId_iff, hregistered]

/-- There is only one list of the names in ascending order. -/
theorem names_eq_of_perm (h : r.ordered.Perm r'.ordered) : r.names = r'.names := by
  have hperm : r.names.Perm r'.names :=
    ((List.mergeSort_perm _ _).trans (h.map _)).trans (List.mergeSort_perm _ _).symm
  refine hperm.eq_of_pairwise ?_ (names_ascend r) (names_ascend r')
  intro a b _ _ hab hba
  exact absurd (String.lt_trans hab hba) (String.lt_irrefl _)

/-- There is only one list of the priorities in ascending order. -/
theorem priorities_eq_of_perm (h : r.ordered.Perm r'.ordered) :
    r.ordered.map (·.priority) = r'.ordered.map (·.priority) := by
  refine (h.map _).eq_of_pairwise ?_ (List.pairwise_map.2 r.byPriority)
    (List.pairwise_map.2 r'.byPriority)
  intro p q _ _ hpq hqp
  exact Int32.le_antisymm hpq hqp

/-- The primary backend has the first of the priorities. -/
theorem head?_priorities (r : Registry) :
    (r.ordered.map (·.priority)).head? = some r.primary.priority := by
  rw [List.head?_map, List.head?_eq_some_head r.nonempty]
  rfl

/-- Registries of the same backends are rearrangements of each other. -/
theorem rearranges_of_perm (h : r.ordered.Perm r'.ordered) : r.Rearranges r' where
  byId := byId?_eq_of_perm h
  byName name := by rw [Registry.byName, Registry.byName, byName?_eq_of_perm h]
  containsId := containsId_eq_of_perm h
  size := h.length_eq
  names := names_eq_of_perm h
  primary := by
    have hfirst := congrArg List.head? (priorities_eq_of_perm h)
    rw [head?_priorities, head?_priorities] at hfirst
    exact Option.some.inj hfirst
  priorities := priorities_eq_of_perm h
  levels p := h.filter _

/-! ## Registering in another order -/

/-- Reordering the backends of a list changes nothing if those of one priority keep their order.
However they are reordered, a registry is made of both lists or of neither, and the registries are
rearrangements of each other. -/
theorem ofList_reordered (h : backends.Perm backends') :
    (SameLevels backends backends' → ofList backends = ofList backends') ∧
    ((∃ r, ofList backends = .ok r) ↔ ∃ r', ofList backends' = .ok r') ∧
    ∀ r r', ofList backends = .ok r → ofList backends' = .ok r' → r.Rearranges r' := by
  refine ⟨?_, ?_, ?_⟩
  · intro hlevels
    exact ofList_eq_of_arrange_eq (arrange_eq_of_sameLevels hlevels)
  · have hdistinct : Distinct backends ↔ Distinct backends' :=
      ⟨fun hd => hd.perm h, fun hd => hd.perm h.symm⟩
    have hempty : backends ≠ [] ↔ backends' ≠ [] := by
      rw [← List.length_pos_iff, ← List.length_pos_iff, h.length_eq]
    rw [exists_ofList_iff, exists_ofList_iff, hdistinct, hempty]
  · intro r r' hr hr'
    exact rearranges_of_perm (((ordered_perm hr).trans h).trans (ordered_perm hr').symm)

/-- Moving the archive among two backends of one priority changes nothing; if those two change
places, so does the primary backend, and no more. -/
theorem ofList_reordered_three :
    let archive : BackendConfig := ⟨-7, "Archive", 4, true, .empty⟩
    let staff : BackendConfig := ⟨12, "staff", -1, true, .empty⟩
    let guests : BackendConfig := ⟨3, "GUESTS", -1, true, .empty⟩
    ofList [archive, staff, guests] = ofList [staff, archive, guests] ∧
      ∃ r r', ofList [archive, staff, guests] = .ok r ∧ ofList [guests, archive, staff] = .ok r' ∧
        r.Rearranges r' ∧
        r.ordered = [staff, guests, archive] ∧ r'.ordered = [guests, staff, archive] := by
  intro archive staff guests
  have hmoved : [archive, staff, guests].Perm [staff, archive, guests] := .swap _ _ _
  have hturned : [archive, staff, guests].Perm [guests, archive, staff] := by decide
  have hdistinct : Distinct [archive, staff, guests] := ⟨by decide, by decide⟩
  have hlast : ∀ a b : BackendConfig, a.priority = -1 → b.priority = -1 → ∀ p,
      [a, b, archive].filter (·.priority = p) = [archive, a, b].filter (·.priority = p) ∧
        [a, archive, b].filter (·.priority = p) = [archive, a, b].filter (·.priority = p) := by
    intro a b ha hb p
    by_cases hp : p = 4
    · subst hp
      simp [ha, hb, archive]
    · have harchive : ¬ archive.priority = p := fun h => hp h.symm
      simp [List.filter_cons, harchive]
  obtain ⟨hsame, -, -⟩ := ofList_reordered hmoved
  obtain ⟨-, hboth, hrearranged⟩ := ofList_reordered hturned
  rcases exists_ofList_iff.2 ⟨List.cons_ne_nil _ _, hdistinct⟩ with ⟨r, hr⟩
  rcases hboth.1 ⟨r, hr⟩ with ⟨r', hr'⟩
  have horder : InTurn [archive, staff, guests] [staff, guests, archive] :=
    ⟨by decide, fun p => (hlast staff guests rfl rfl p).1⟩
  have horder' : InTurn [guests, archive, staff] [guests, staff, archive] :=
    ⟨by decide, fun p =>
      (hlast guests staff rfl rfl p).1.trans (hlast guests staff rfl rfl p).2.symm⟩
  refine ⟨hsame fun p => (hlast staff guests rfl rfl p).2.symm, r, r', hr, hr',
    hrearranged r r' hr hr', ?_, ?_⟩
  · exact (ordered_inTurn hr).unique horder
  · exact (ordered_inTurn hr').unique horder'

end Federation.Registry
