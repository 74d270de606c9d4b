import Federation.Registry

/-!
# Federation.Proofs.Registry — which backends a registry holds

What the look-ups of a registry say about its backends: a known id is the id of one of them
(`containsId_iff`), and looking up an id or a name finds the backend that has it
(`byId?_eq_some_iff`, `byName_eq_ok_iff`). A registry that is made from a list holds its backends
by ascending priority, those of one priority in the order of the list (`ordered_inTurn`).
-/

namespace Federation

/-! ## Indices -/

namespace Indexes

variable {α κ : Type} [Key κ] [DecidableEq κ] {index : Dict κ Nat} {key : α → κ} {l : List α}

/-- A look-up through an index finds an item exactly if it is in the list and has the key. -/
theorem lookup_eq_some_iff (h : Indexes index key l) {k : κ} {x : α} :
    (index.get? k).bind (l[·]?) = some x ↔ x ∈ l ∧ key x = k := by
  rw [Option.bind_eq_some_iff]
  constructor
  · rintro ⟨i, hi, hx⟩
    have hkey := (h k i).1 hi
    rw [hx, Option.map_some] at hkey
    exact ⟨List.mem_of_getElem? hx, Option.some.inj hkey⟩
  · rintro ⟨hx, hk⟩
    rcases List.mem_iff_getElem?.1 hx with ⟨i, hi⟩
    refine ⟨i, (h k i).2 ?_, hi⟩
    rw [hi, Option.map_some, hk]

/-- The index of two items with different keys. -/
theorem pair {a b : α} (h : key a ≠ key b) :
    Indexes ((Dict.empty.insert (key a) 0).insert (key b) 1) key [a, b] := by
  have hfirst : Indexes (Dict.empty.insert (key a) 0) key [a] := Indexes.empty.insert rfl
  refine hfirst.insert ?_
  rw [Dict.contains_eq_isSome_get?, Dict.get?_insert, if_neg h.symm]
  rfl

end Indexes

namespace Registry

/-! ## Ids -/

/-- A backend of the registry has the id. -/
def Registered (r : Registry) (id : Int32) : Prop := ∃ b ∈ r.ordered, b.id = id

/-- The registry knows exactly the ids of its backends. -/
theorem containsId_iff {r : Registry} {id : Int32} : r.containsId id = true ↔ r.Registered id :=
  r.indexedById.contains_iff

/-- The backend that is found under an id is the one that has it. -/
theorem byId?_eq_some_iff {r : Registry} {id : Int32} {b : BackendConfig} :
    r.byId? id = some b ↔ b ∈ r.ordered ∧ b.id = id :=
  r.indexedById.lookup_eq_some_iff

/-- The backend that is found under an id has that id. -/
theorem id_of_byId? {r : Registry} {id : Int32} {b : BackendConfig} (h : r.byId? id = some b) :
    b.id = id :=
  (byId?_eq_some_iff.1 h).2

/-- No two backends of the registry have the same id. -/
theorem eq_of_id_eq {r : Registry} {a b : BackendConfig} (ha : a ∈ r.ordered) (hb : b ∈ r.ordered)
    (h : a.id = b.id) : a = b := by
  have hfound : r.byId? b.id = some a := byId?_eq_some_iff.2 ⟨ha, h⟩
  rw [byId?_eq_some_iff.2 ⟨hb, rfl⟩] at hfound
  exact (Option.some.inj hfound).symm

/-! ## Names -/

/-- The backend that is found under a name is the one that has it, in whatever letter case. -/
theorem byName?_eq_some_iff {r : Registry} {name : String} {b : BackendConfig} :
    r.byName? name = some b ↔ b ∈ r.ordered ∧ b.folded = Text.lowercase name :=
  r.indexedByName.lookup_eq_some_iff

theorem byName_eq_ok_iff {r : Registry} {name : String} {b : BackendConfig} :
    r.byName name = .ok b ↔ b ∈ r.ordered ∧ b.folded = Text.lowercase name := by
  rw [← byName?_eq_some_iff, byName]
  cases r.byName? name with
  | none =>
    constructor
    · intro h
      contradiction
    · intro h
      contradiction
  | some b' => rw [Except.ok.injEq, Option.some.injEq]

/-- There is only one way in which the registry refuses a name. -/
theorem eq_of_byName_error {r : Registry} {name : String} {e : StoreError}
    (h : r.byName name = .error e) : e = .invalidInput (.unknownBackend name) := by
  unfold byName at h
  split at h
  · contradiction
  · injection h with h
    exact h.symm

/-! ## Order -/

/-- The second list holds the backends of the first one by ascending priority, those of one
priority in the order of the first. -/
def InTurn (backends ordered : List BackendConfig) : Prop :=
  (ordered.Pairwise fun a b => a.priority ≤ b.priority) ∧
    ∀ p, ordered.filter (·.priority = p) = backends.filter (·.priority = p)

/-- Sorting leaves backends of one priority in their order. -/
theorem arrange_inTurn (backends : List BackendConfig) : InTurn backends (arrange backends) := by
  refine ⟨arrange_byPriority backends, fun p => ?_⟩
  have hlevel : (backends.filter (·.priority = p)).Pairwise (precedes · ·) := by
    apply List.pairwise_of_forall_mem_list
    intro a ha b hb
    have ha := of_decide_eq_true (List.mem_filter.1 ha).2
    have hb := of_decide_eq_true (List.mem_filter.1 hb).2
    exact decide_eq_true (ha ▸ hb ▸ Int32.le_refl p)
  -- backends of one priority are sorted already, so they are found in the sorted list as they are
  have hkept : (backends.filter (·.priority = p)).Sublist (arrange backends) :=
    List.sublist_mergeSort precedes_trans precedes_total hlevel List.filter_sublist
  have hsub := hkept.filter (·.priority = p)
  rw [List.filter_filter] at hsub
  simp only [Bool.and_self] at hsub
  have hlength := ((List.mergeSort_perm backends precedes).filter (·.priority = p)).length_eq
  exact (hsub.eq_of_length hlength.symm).symm

/-- There is only one such order. -/
theorem InTurn.unique {backends first second : List BackendConfig} (hfirst : InTurn backends first)
    (hsecond : InTurn backends second) : first = second := by
  rcases hfirst with ⟨hfirst, hlevels⟩
  rcases hsecond with ⟨hsecond, hlevels'⟩
  have hsame : ∀ p, first.filter (·.priority = p) = second.filter (·.priority = p) :=
    fun p => (hlevels p).trans (hlevels' p).symm
  clear hlevels hlevels'
  -- the heads have the least priority of all, so they are the heads of one level
  induction first generalizing second with
  | nil =>
    cases second with
    | nil => rfl
    | cons b rest => simpa using hsame b.priority
  | cons a rest ih =>
    cases second with
    | nil => simpa using hsame a.priority
    | cons b rest' =>
      rcases List.pairwise_cons.1 hfirst with ⟨ha, hrest⟩
      rcases List.pairwise_cons.1 hsecond with ⟨hb, hrest'⟩
      have hmem : ∀ c, c ∈ a :: rest ↔ c ∈ b :: rest' := by
        intro c
        have hc := congrArg (c ∈ ·) (hsame c.priority)
        simpa only [List.mem_filter, decide_true, and_true, eq_iff_iff] using hc
      have hab : a.priority ≤ b.priority := by
        rcases List.mem_cons.1 ((hmem b).2 List.mem_cons_self) with heq | hmem
        · exact heq ▸ Int32.le_refl _
        · exact ha b hmem
      have hba : b.priority ≤ a.priority := by
        rcases List.mem_cons.1 ((hmem a).1 List.mem_cons_self) with heq | hmem
        · exact heq ▸ Int32.le_refl _
        · exact hb a hmem
      have hlevel : a.priority = b.priority := Int32.le_antisymm hab hba
      have hheads := hsame a.priority
      rw [List.filter_cons_of_pos (by simp), List.filter_cons_of_pos (by simp [hlevel])] at hheads
      injection hheads with hhead _
      subst hhead
      rw [ih hrest hrest' fun p => ?_]
      have hp := hsame p
      rw [List.filter_cons, List.filter_cons] at hp
      split at hp
      · exact List.cons.inj hp |>.2
      · exact hp

/-- A registry that is made from a list has its backends sorted. -/
theorem ordered_of_ofList {backends : List BackendConfig} {r : Registry}
    (h : ofList backends = .ok r) : r.ordered = arrange backends := by
  unfold ofList at h
  split at h
  · contradiction
  · split at h
    · contradiction
    · injection h with h
      rw [← h]

/-- So it has them in this order. -/
theorem ordered_inTurn {backends : List BackendConfig} {r : Registry}
    (h : ofList backends = .ok r) : InTurn backends r.ordered := by
  rw [ordered_of_ofList h]
  exact arrange_inTurn backends

/-! ## A small registry -/

/-- The registry of two backends that differ in id and name, the preferred one first. -/
def pair (a b : BackendConfig) (hpriority : a.priority ≤ b.priority) (hid : a.id ≠ b.id)
    (hname : a.folded ≠ b.folded) : Registry where
  ordered := [a, b]
  nameIndex := (Dict.empty.insert a.folded 0).insert b.folded 1
  idIndex := (Dict.empty.insert a.id 0).insert b.id 1
  nonempty := List.cons_ne_nil a [b]
  byPriority := List.pairwise_pair.2 hpriority
  indexedByName := .pair hname
  indexedById := .pair hid

/-- Two backends of one priority, whose ids are the ends of the range. -/
def poles : Registry :=
  pair ⟨-2147483648, "north", 0, true, .empty⟩ ⟨2147483647, "south", 0, true, .empty⟩
    (by decide) (by decide) (by decide)

/-- It is the registry that is made from the list of its backends. -/
theorem ofList_poles : ofList poles.ordered = .ok poles := by
  have hsorted : arrange poles.ordered = poles.ordered := List.mergeSort_of_pairwise (by decide)
  unfold ofList
  split
  · rename_i hempty
    exact absurd hempty (List.cons_ne_nil _ _)
  · split
    · rename_i problem henter
      rw [hsorted] at henter
      contradiction
    · rename_i names ids henter
      have hindices : enter .empty .empty 0 poles.ordered = .ok (names, ids) := hsorted ▸ henter
      injection hindices with hindices
      injection hindices with hnames hids
      subst hnames hids
      simp only [hsorted]
      rfl
end Registry

end Federation
