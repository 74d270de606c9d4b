import Federation.Proofs.Registry

/-!
# Federation.Proofs.Registry.Construction — which lists of backends make a registry

A list makes a registry exactly if there is a backend in it and no two backends share an id or a
name. What the look-ups of the registry say is then said in terms of the list (`Represents`). Any
other list is refused with its first collision (`FirstCollision`), where first is meant in the
order in which the backends would be tried.
-/

namespace Federation.Registry

/-! ## Collisions -/

/-- No two of the backends share an id or a name. -/
structure Distinct (l : List BackendConfig) : Prop where
  ids : l.Pairwise fun a b => a.id ≠ b.id
  names : l.Pairwise fun a b => a.folded ≠ b.folded

/-- It does not matter in which order the backends stand. -/
theorem Distinct.perm {l l' : List BackendConfig} (h : Distinct l) (hl : l.Perm l') :
    Distinct l' where
  ids := h.ids.perm hl Ne.symm
  names := h.names.perm hl Ne.symm

/-- The first backend of a list that shares its id or name with an earlier one, and what is
reported of it: the id if that is shared, and the declared name otherwise. -/
inductive FirstCollision (l : List BackendConfig) : Misconfiguration → Prop
  | id {before after : List BackendConfig} {b : BackendConfig} (hl : l = before ++ b :: after)
      (hbefore : Distinct before) (hid : ∃ a ∈ before, a.id = b.id) :
      FirstCollision l (.duplicateId b.id)
  | name {before after : List BackendConfig} {b : BackendConfig} (hl : l = before ++ b :: after)
      (hbefore : Distinct before) (hid : ∀ a ∈ before, a.id ≠ b.id)
      (hname : ∃ a ∈ before, a.folded = b.folded) : FirstCollision l (.duplicateName b.name)

/-- No backend collides with another before the first collision. -/
theorem Distinct.not_collides {before after : List BackendConfig} {b : BackendConfig}
    (h : Distinct (before ++ b :: after)) :
    ∀ a ∈ before, a.id ≠ b.id ∧ a.folded ≠ b.folded := by
  intro a ha
  have hid := (List.pairwise_append.1 h.ids).2.2 a ha b List.mem_cons_self
  have hname := (List.pairwise_append.1 h.names).2.2 a ha b List.mem_cons_self
  exact ⟨hid, hname⟩

theorem FirstCollision.not_distinct {l : List BackendConfig} {problem : Misconfiguration}
    (h : FirstCollision l problem) : ¬ Distinct l := by
  intro hdistinct
  cases h with
  | id hl _ hid =>
    subst hl
    rcases hid with ⟨a, ha, hab⟩
    exact (hdistinct.not_collides a ha).1 hab
  | name hl _ _ hname =>
    subst hl
    rcases hname with ⟨a, ha, hab⟩
    exact (hdistinct.not_collides a ha).2 hab

/-- A backend that collides with one of those before it lies behind all that is distinct. -/
theorem length_le_of_collides {before after before' after' : List BackendConfig}
    {b b' : BackendConfig} (hl : before ++ b :: after = before' ++ b' :: after')
    (hb : ∃ a ∈ before, a.id = b.id ∨ a.folded = b.folded) (hbefore' : Distinct before') :
    before'.length ≤ before.length := by
  rcases List.append_eq_append_iff.1 hl with ⟨cs, hsplit, hrest⟩ | ⟨cs, hsplit, -⟩
  · cases cs with
    | nil =>
      have hsame : before' = before := hsplit.trans (List.append_nil before)
      exact Nat.le_of_eq (congrArg List.length hsame)
    | cons c cs =>
      -- then the backend and the one that it collides with are both among the distinct ones
      injection hrest with hc _
      subst hc
      rw [hsplit] at hbefore'
      rcases hb with ⟨a, ha, hid | hname⟩
      · exact absurd hid (hbefore'.not_collides a ha).1
      · exact absurd hname (hbefore'.not_collides a ha).2
  · rw [hsplit, List.length_append]
    omega

/-- The backends before the first collision, and the colliding one, are determined by the list. -/
theorem eq_of_collides {before after before' after' : List BackendConfig} {b b' : BackendConfig}
    (hl : before ++ b :: after = before' ++ b' :: after') (hbefore : Distinct before)
    (hbefore' : Distinct before') (hb : ∃ a ∈ before, a.id = b.id ∨ a.folded = b.folded)
    (hb' : ∃ a ∈ before', a.id = b'.id ∨ a.folded = b'.folded) : before = before' ∧ b = b' := by
  have hle := length_le_of_collides hl hb hbefore'
  have hge := length_le_of_collides hl.symm hb' hbefore
  rcases List.append_inj hl (by omega) with ⟨hsame, hrest⟩
  injection hrest with hsame' _
  exact ⟨hsame, hsame'⟩

/-- There is only one first collision. -/
theorem FirstCollision.unique {l : List BackendConfig} {p q : Misconfiguration}
    (hp : FirstCollision l p) (hq : FirstCollision l q) : p = q := by
  have hor : ∀ {P Q : BackendConfig → Prop} {before : List BackendConfig},
      (∃ a ∈ before, P a) ∨ (∃ a ∈ before, Q a) → ∃ a ∈ before, P a ∨ Q a := by
    rintro P Q before (⟨a, ha, h⟩ | ⟨a, ha, h⟩)
    · exact ⟨a, ha, .inl h⟩
    · exact ⟨a, ha, .inr h⟩
  cases hp with
  | id hl hbefore hid =>
    cases hq with
    | id hl' hbefore' hid' =>
      rcases eq_of_collides (hl.symm.trans hl') hbefore hbefore' (hor (.inl hid))
        (hor (.inl hid')) with ⟨-, rfl⟩
      rfl
    | name hl' hbefore' hid' hname' =>
      rcases eq_of_collides (hl.symm.trans hl') hbefore hbefore' (hor (.inl hid))
        (hor (.inr hname')) with ⟨rfl, rfl⟩
      rcases hid with ⟨a, ha, hab⟩
      exact absurd hab (hid' a ha)
  | name hl hbefore hid hname =>
    cases hq with
    | id hl' hbefore' hid' =>
      rcases eq_of_collides (hl.symm.trans hl') hbefore hbefore' (hor (.inr hname))
        (hor (.inl hid')) with ⟨rfl, rfl⟩
      rcases hid' with ⟨a, ha, hab⟩
      exact absurd hab (hid a ha)
    | name hl' hbefore' hid' hname' =>
      rcases eq_of_collides (hl.symm.trans hl') hbefore hbefore' (hor (.inr hname))
        (hor (.inr hname')) with ⟨-, rfl⟩
      rfl

/-! ## Entering backends -/

/-- Backends that are indexed are distinct. -/
theorem distinct_of_indexes {names : Dict String Nat} {ids : Dict Int32 Nat}
    {l : List BackendConfig} (hnames : Indexes names (·.folded) l) (hids : Indexes ids (·.id) l) :
    Distinct l :=
  ⟨hids.pairwise_ne, hnames.pairwise_ne⟩

/-- If the indices hold the backends so far, the backend that cannot be entered is the first
collision. -/
theorem firstCollision_of_enter {names : Dict String Nat} {ids : Dict Int32 Nat}
    {before rest : List BackendConfig} {problem : Misconfiguration}
    (hnames : Indexes names (·.folded) before) (hids : Indexes ids (·.id) before)
    (h : enter names ids before.length rest = .error problem) :
    FirstCollision (before ++ rest) problem := by
  induction rest generalizing names ids before with
  | nil => contradiction
  | cons b rest ih =>
    have hbefore := distinct_of_indexes hnames hids
    simp only [enter] at h
    split at h
    · rename_i hid
      injection h with h
      subst h
      exact .id rfl hbefore (hids.contains_iff.1 hid)
    · rename_i hid
      have hid' : ∀ a ∈ before, a.id ≠ b.id := by
        intro a ha hab
        exact hid (hids.contains_iff.2 ⟨a, ha, hab⟩)
      split at h
      · rename_i hname
        injection h with h
        subst h
        exact .name rfl hbefore hid' (hnames.contains_iff.1 hname)
      · -- the backend is entered, and the search goes on after it
        rename_i hname
        have hnames' := hnames.insert (Bool.eq_false_iff.2 hname)
        have hids' := hids.insert (Bool.eq_false_iff.2 hid)
        have hlength : before.length + 1 = (before ++ [b]).length := by simp
        rw [hlength] at h
        rw [List.append_cons]
        exact ih hnames' hids' h

/-! ## Acceptance -/

/-- What can come of a list: it is empty, or it is refused with its first collision, or it makes a
registry. -/
theorem ofList_cases (backends : List BackendConfig) :
    (backends = [] ∧ ofList backends = .error (.configuration .noBackends none)) ∨
    (backends ≠ [] ∧ ∃ problem, FirstCollision (arrange backends) problem ∧
      ofList backends = .error (.configuration problem none)) ∨
    (backends ≠ [] ∧ ∃ r, ofList backends = .ok r) := by
  unfold ofList
  split
  · rename_i hempty
    exact .inl ⟨hempty, rfl⟩
  · rename_i hne
    split
    · rename_i problem h
      exact .inr (.inl ⟨hne, problem, firstCollision_of_enter .empty .empty h, rfl⟩)
    · exact .inr (.inr ⟨hne, _, rfl⟩)

/-- The backends of a registry are those of the list that it is made from. -/
theorem ordered_perm {backends : List BackendConfig} {r : Registry}
    (h : ofList backends = .ok r) : r.ordered.Perm backends := by
  rw [ordered_of_ofList h]
  exact List.mergeSort_perm backends precedes

/-- A list makes a registry exactly if it has a backend and no two of its backends collide. -/
theorem exists_ofList_iff {backends : List BackendConfig} :
    (∃ r, ofList backends = .ok r) ↔ backends ≠ [] ∧ Distinct backends := by
  constructor
  · rintro ⟨r, hr⟩
    refine ⟨?_, ?_⟩
    · rintro rfl
      contradiction
    · exact (distinct_of_indexes r.indexedByName r.indexedById).perm (ordered_perm hr)
  · rintro ⟨hne, hdistinct⟩
    rcases ofList_cases backends with ⟨hempty, -⟩ | ⟨-, problem, hfirst, -⟩ | ⟨-, hok⟩
    · exact absurd hempty hne
    · have harranged : Distinct (arrange backends) :=
        hdistinct.perm (List.mergeSort_perm backends precedes).symm
      exact absurd harranged hfirst.not_distinct
    · exact hok

/-- What a registry says of the list of backends that it stands for. -/
structure Represents (r : Registry) (backends : List BackendConfig) : Prop where
  /-- The backends are in the order of priority, those of one priority as in the list. -/
  inTurn : InTurn backends r.ordered
  perm : r.ordered.Perm backends
  primary : r.ordered.head? = some r.primary
  /-- No two backends share an id or a name, so each look-up has one answer at most. -/
  distinct : Distinct backends
  byId (id : Int32) (b : BackendConfig) : r.byId? id = some b ↔ b ∈ backends ∧ b.id = id
  containsId (id : Int32) : r.containsId id = true ↔ ∃ b ∈ backends, b.id = id
  byName (name : String) (b : BackendConfig) :
    r.byName name = .ok b ↔ b ∈ backends ∧ Text.lowercase b.name = Text.lowercase name
  unknownName (name : String) (h : ∀ b ∈ backends, Text.lowercase b.name ≠ Text.lowercase name) :
    r.byName name = .error (.invalidInput (.unknownBackend name))
  /-- The id and the declared name of a backend both lead to it. -/
  agree (b : BackendConfig) (h : b ∈ backends) : r.byId? b.id = some b ∧ r.byName b.name = .ok b
  idBound (id : Int32) (i : Nat) (h : r.idIndex.get? id = some i) : i < r.ordered.length
  nameBound (name : String) (i : Nat) (h : r.nameIndex.get? name = some i) : i < r.ordered.length
  names : r.names.Perm (backends.map (·.name))
  namesAscend : r.names.Pairwise fun a b => Text.lowercase a < Text.lowercase b

/-- The names of a registry stand in the order of their lower-case forms. -/
theorem names_ascend (r : Registry) :
    r.names.Pairwise fun a b => Text.lowercase a < Text.lowercase b := by
  have htrans : ∀ a b c : String, decide (Text.lowercase a ≤ Text.lowercase b) = true →
      decide (Text.lowercase b ≤ Text.lowercase c) = true →
      decide (Text.lowercase a ≤ Text.lowercase c) = true := by
    intro a b c hab hbc
    exact decide_eq_true (String.le_trans (of_decide_eq_true hab) (of_decide_eq_true hbc))
  have htotal : ∀ a b : String, (decide (Text.lowercase a ≤ Text.lowercase b) ||
      decide (Text.lowercase b ≤ Text.lowercase a)) = true := by
    intro a b
    simp only [Bool.or_eq_true, decide_eq_true_eq]
    exact String.le_total _ _
  have hle := List.pairwise_mergeSort htrans htotal (r.ordered.map (·.name))
  -- no two names have the same lower-case form, so the order is strict
  have hne : r.names.Pairwise fun a b => Text.lowercase a ≠ Text.lowercase b := by
    refine List.Pairwise.perm ?_ (List.mergeSort_perm _ _).symm Ne.symm
    exact List.pairwise_map.2 r.distinctNames
  refine (hle.and hne).imp fun {a b} hab => ?_
  have hle : Text.lowercase a ≤ Text.lowercase b := of_decide_eq_true hab.1
  rcases Decidable.em (Text.lowercase a < Text.lowercase b) with hlt | hnlt
  · exact hlt
  · exact absurd (String.le_antisymm hle (String.not_lt.1 hnlt)) hab.2

/-- A registry that is made from a list represents it: its order is the stable sort of the list by
priority, its look-ups find the one backend of the list that has the id or name, and only that,
and no position in its indices is out of bounds. -/
theorem represents_of_ofList {backends : List BackendConfig} {r : Registry}
    (h : ofList backends = .ok r) : r.Represents backends := by
  have hperm := ordered_perm h
  have hid : ∀ id b, r.byId? id = some b ↔ b ∈ backends ∧ b.id = id := by
    intro id b
    rw [byId?_eq_some_iff, hperm.mem_iff]
  have hname : ∀ name b,
      r.byName name = .ok b ↔ b ∈ backends ∧ Text.lowercase b.name = Text.lowercase name := by
    intro name b
    rw [byName_eq_ok_iff, hperm.mem_iff]
    rfl
  exact
    { inTurn := ordered_inTurn h
      perm := hperm
      primary := List.head?_eq_some_head r.nonempty
      distinct := (exists_ofList_iff.1 ⟨r, h⟩).2
      byId := hid
      containsId := by
        intro id
        rw [containsId_iff]
        constructor
        · rintro ⟨b, hb, heq⟩
          exact ⟨b, hperm.mem_iff.1 hb, heq⟩
        · rintro ⟨b, hb, heq⟩
          exact ⟨b, hperm.mem_iff.2 hb, heq⟩
      byName := hname
      unknownName := by
        intro name hnone
        cases hfound : r.byName name with
        | ok b =>
          rcases (hname name b).1 hfound with ⟨hb, heq⟩
          exact absurd heq (hnone b hb)
        | error e => rw [eq_of_byName_error hfound]
      agree := fun b hb => ⟨(hid _ _).2 ⟨hb, rfl⟩, (hname _ _).2 ⟨hb, rfl⟩⟩
      idBound := fun _ _ hi => r.indexedById.lt_length hi
      nameBound := fun _ _ hi => r.indexedByName.lt_length hi
      names := (List.mergeSort_perm _ _).trans (hperm.map _)
      namesAscend := names_ascend r }

/-- Three backends, of which the last two have one priority; the names are asked for in another
letter case than they were declared in. -/
theorem represents_of_ofList_three :
    let archive : BackendConfig := ⟨-7, "Archive", 4, true, .empty⟩
    let staff : BackendConfig := ⟨12, "staff", -1, true, .empty⟩
    let guests : BackendConfig := ⟨3, "GUESTS", -1, true, .empty⟩
    ∃ r, ofList [archive, staff, guests] = .ok r ∧ r.Represents [archive, staff, guests] ∧
      r.byName "ARCHIVE" = .ok archive ∧ r.byName "Guests" = .ok guests ∧
      r.byId? 12 = some staff ∧ r.containsId 7 = false := by
  intro archive staff guests
  have hdistinct : Distinct [archive, staff, guests] := ⟨by decide, by decide⟩
  rcases exists_ofList_iff.2 ⟨List.cons_ne_nil _ _, hdistinct⟩ with ⟨r, hr⟩
  have hrepresents := represents_of_ofList hr
  refine ⟨r, hr, hrepresents, ?_, ?_, ?_, ?_⟩
  · exact (hrepresents.byName _ _).2 ⟨by decide, by decide⟩
  · exact (hrepresents.byName _ _).2 ⟨by decide, by decide⟩
  · exact (hrepresents.byId _ _).2 ⟨by decide, by decide⟩
  · refine Bool.eq_false_iff.2 fun hknown => ?_
    exact absurd ((hrepresents.containsId 7).1 hknown) (by decide)

end Federation.Registry
