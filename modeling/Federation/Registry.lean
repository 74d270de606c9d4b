import Federation.Backend.Config
import Federation.Error
import Federation.Text.Casing
import Federation.UniqueId

/-!
# Federation.Registry — the backends of a store

The backends that a store federates, in the order in which they are tried: by ascending priority,
those of equal priority in the order in which they were given. There is at least one backend, and
two indices lead from an id or a name to the position of its backend, where names are compared in
lower case. That the indices fit the order is part of the type, so that no two backends share an
id or a name, a look-up has at most one answer, and a primary backend always exists.
-/

namespace Federation

/-! ## Indices -/

/-- An index of a list by a key leads from the key of every item to the position of the item, and
from no other key anywhere. -/
def Indexes {α κ : Type} [Key κ] [DecidableEq κ] (index : Dict κ Nat) (key : α → κ)
    (l : List α) : Prop :=
  ∀ k i, index.get? k = some i ↔ l[i]?.map key = some k

namespace Indexes

variable {α κ : Type} [Key κ] [DecidableEq κ] {index : Dict κ Nat} {key : α → κ} {l : List α}

theorem empty : Indexes (Dict.empty : Dict κ Nat) key [] := by
  intro k i
  simp

/-- No position is out of bounds. -/
theorem lt_length (h : Indexes index key l) {k : κ} {i : Nat} (hi : index.get? k = some i) :
    i < l.length := by
  rcases Option.map_eq_some_iff.1 ((h k i).1 hi) with ⟨x, hx, -⟩
  exact (List.getElem?_eq_some_iff.1 hx).1

/-- A key is in the index exactly if an item has it. -/
theorem contains_iff (h : Indexes index key l) {k : κ} :
    index.contains k = true ↔ ∃ x ∈ l, key x = k := by
  rw [Dict.contains_eq_isSome_get?, Option.isSome_iff_exists]
  constructor
  · rintro ⟨i, hi⟩
    rcases Option.map_eq_some_iff.1 ((h k i).1 hi) with ⟨x, hx, hk⟩
    exact ⟨x, List.mem_of_getElem? hx, hk⟩
  · rintro ⟨x, hx, hk⟩
    rcases List.mem_iff_getElem?.1 hx with ⟨i, hi⟩
    refine ⟨i, (h k i).2 ?_⟩
    rw [hi, Option.map_some, hk]

/-- No two items of an indexed list share a key. -/
theorem pairwise_ne (h : Indexes index key l) : l.Pairwise fun a b => key a ≠ key b := by
  rw [List.pairwise_iff_getElem]
  intro i j hi hj hlt hkey
  have hfirst : index.get? (key l[j]) = some i := by
    rw [h, List.getElem?_eq_getElem hi, Option.map_some, hkey]
  have hsecond : index.get? (key l[j]) = some j := by
    rw [h, List.getElem?_eq_getElem hj, Option.map_some]
  rw [hfirst] at hsecond
  injection hsecond with hsame
  omega

/-- An item with a new key is entered at the end. -/
theorem insert (h : Indexes index key l) {x : α} (hx : index.contains (key x) = false) :
    Indexes (index.insert (key x) l.length) key (l ++ [x]) := by
  intro k i
  rw [Dict.get?_insert]
  split
  · -- the key of the new item leads to the last position, and to no earlier one
    rename_i hk
    subst hk
    constructor
    · intro hi
      injection hi with hi
      subst hi
      simp
    · intro hi
      rcases Option.map_eq_some_iff.1 hi with ⟨y, hy, hkey⟩
      rw [List.getElem?_append] at hy
      split at hy
      · have hold : index.contains (key x) = true :=
          h.contains_iff.2 ⟨y, List.mem_of_getElem? hy, hkey⟩
        rw [hx] at hold
        contradiction
      · have hlast := (List.getElem?_eq_some_iff.1 hy).1
        simp only [List.length_singleton] at hlast
        congr 1
        omega
  · rename_i hk
    rw [h k i, List.getElem?_append]
    split
    · rfl
    · -- at the last position there is another key
      rename_i hi
      rw [List.getElem?_eq_none (by omega)]
      constructor
      · intro hnone
        contradiction
      · intro hlast
        rcases Option.map_eq_some_iff.1 hlast with ⟨y, hy, hkey⟩
        have hy := List.mem_singleton.1 (List.mem_of_getElem? hy)
        rw [hy] at hkey
        exact absurd hkey.symm hk

end Indexes

/-! ## Registries -/

/-- The name of a backend as it is compared. -/
def BackendConfig.folded (b : BackendConfig) : String := Text.lowercase b.name

/-- The backends of a store. -/
structure Registry where
  ordered : List BackendConfig
  /-- The positions of the backends, by name. -/
  nameIndex : Dict String Nat
  /-- The positions of the backends, by id. -/
  idIndex : Dict Int32 Nat
  nonempty : ordered ≠ []
  byPriority : ordered.Pairwise fun a b => a.priority ≤ b.priority
  indexedByName : Indexes nameIndex (·.folded) ordered
  indexedById : Indexes idIndex (·.id) ordered

namespace Registry

theorem distinctIds (r : Registry) : r.ordered.Pairwise fun a b => a.id ≠ b.id :=
  r.indexedById.pairwise_ne

theorem distinctNames (r : Registry) : r.ordered.Pairwise fun a b => a.folded ≠ b.folded :=
  r.indexedByName.pairwise_ne

/-! ## Order -/

/-- Whether a backend is not to be tried after another, as far as priorities go. -/
def precedes (a b : BackendConfig) : Bool := a.priority ≤ b.priority

/-- The backends in the order in which they are tried. -/
def arrange (backends : List BackendConfig) : List BackendConfig :=
  backends.mergeSort precedes

theorem precedes_trans (a b c : BackendConfig) (hab : precedes a b = true)
    (hbc : precedes b c = true) : precedes a c = true :=
  decide_eq_true (Int32.le_trans (of_decide_eq_true hab) (of_decide_eq_true hbc))

theorem precedes_total (a b : BackendConfig) : (precedes a b || precedes b a) = true := by
  simp only [precedes, Bool.or_eq_true, decide_eq_true_eq]
  exact Int32.le_total a.priority b.priority

/-- The order goes by ascending priority. -/
theorem arrange_byPriority (backends : List BackendConfig) :
    (arrange backends).Pairwise fun a b => a.priority ≤ b.priority :=
  (List.pairwise_mergeSort precedes_trans precedes_total backends).imp of_decide_eq_true

/-! ## Construction -/

/-- Enters backends into both indices, the first one at position `i`. A backend whose id, or else
whose name, was entered before is a collision. -/
def enter (names : Dict String Nat) (ids : Dict Int32 Nat) (i : Nat) :
    List BackendConfig → Except Misconfiguration (Dict String Nat × Dict Int32 Nat)
  | [] => .ok (names, ids)
  | b :: rest =>
    if ids.contains b.id then .error (.duplicateId b.id)
    else if names.contains b.folded then .error (.duplicateName b.name)
    else enter (names.insert b.folded i) (ids.insert b.id i) (i + 1) rest

/-- Indices of the backends so far become indices of all backends. -/
theorem indexes_of_enter {names names' : Dict String Nat} {ids ids' : Dict Int32 Nat}
    {before rest : List BackendConfig} (hnames : Indexes names (·.folded) before)
    (hids : Indexes ids (·.id) before)
    (h : enter names ids before.length rest = .ok (names', ids')) :
    Indexes names' (·.folded) (before ++ rest) ∧ Indexes ids' (·.id) (before ++ rest) := by
  induction rest generalizing names ids before with
  | nil =>
    injection h with h
    injection h with hn hi
    subst hn hi
    rw [List.append_nil]
    exact ⟨hnames, hids⟩
  | cons b rest ih =>
    simp only [enter] at h
    split at h
    · contradiction
    · split at h
      · contradiction
      · rename_i hid hname
        have hids' := hids.insert (Bool.eq_false_iff.2 hid)
        have hnames' := hnames.insert (Bool.eq_false_iff.2 hname)
        have hlength : before.length + 1 = (before ++ [b]).length := by simp
        rw [hlength] at h
        rw [List.append_cons]
        exact ih hnames' hids' h

/-- The registry of a list of backends, which must be non-empty and free of collisions. -/
def ofList (backends : List BackendConfig) : Except StoreError Registry :=
  if hne : backends = [] then .error (.configuration .noBackends none)
  else
    match h : enter .empty .empty 0 (arrange backends) with
    | .error problem => .error (.configuration problem none)
    | .ok (names, ids) => .ok
      { ordered := arrange backends
        nameIndex := names
        idIndex := ids
        nonempty := fun e => hne (by
          have hl := congrArg List.length e
          simpa [arrange] using hl)
        byPriority := arrange_byPriority backends
        indexedByName := (indexes_of_enter .empty .empty h).1
        indexedById := (indexes_of_enter .empty .empty h).2 }

/-! ## Look-ups -/

/-- The backend that is used when none is named: the first in the order. -/
def primary (r : Registry) : BackendConfig := r.ordered.head r.nonempty

/-- The backend with the name, in any letter case. -/
def byName? (r : Registry) (name : String) : Option BackendConfig :=
  (r.nameIndex.get? (Text.lowercase name)).bind (r.ordered[·]?)

/-- The backend with the name, which must be there. -/
def byName (r : Registry) (name : String) : Except StoreError BackendConfig :=
  match r.byName? name with
  | some b => .ok b
  | none => .error (.invalidInput (.unknownBackend name))

/-- The backend with the id. -/
def byId? (r : Registry) (id : Int32) : Option BackendConfig :=
  (r.idIndex.get? id).bind (r.ordered[·]?)

/-- Whether a backend has the id. -/
def containsId (r : Registry) (id : Int32) : Bool :=
  r.idIndex.contains id

/-- The declared names, in the order of their lower-case forms. -/
def names (r : Registry) : List String :=
  (r.ordered.map (·.name)).mergeSort fun a b => Text.lowercase a ≤ Text.lowercase b

/-- The number of backends. -/
def size (r : Registry) : Nat := r.ordered.length

/-- The entity that a unique id stands for; its backend must be there. -/
def decode (r : Registry) (raw : String) : Except StoreError EntityId :=
  match EntityId.decode? raw with
  | some e => if r.containsId e.backend then .ok e else .error (.invalidInput .uniqueId)
  | none => .error (.invalidInput .uniqueId)

end Registry

end Federation
