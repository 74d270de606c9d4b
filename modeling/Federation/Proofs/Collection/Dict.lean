import Mathlib.Data.List.Nodup
import Federation.Collection.Dict

/-!
# Federation.Proofs.Collection.Dict — dictionaries by their keys

What is written into a dictionary and taken out of it is told by which keys it has then. The keys
are listed in ascending order, so that none is listed twice, and a set is known by its members.
-/

namespace Federation.Dict

variable {κ : Type} [Key κ] [DecidableEq κ] {α : Type} {m n : Dict κ α} {k k' : κ}

/-! ## Members -/

/-- The keys that are listed are those that there are entries for. -/
theorem mem_keys_iff : k ∈ m.keys ↔ m.contains k = true := by
  simp only [keys, contains, List.mem_map, List.any_eq_true, decide_eq_true_eq]

theorem contains_iff : m.contains k = true ↔ ∃ v, m.get? k = some v := by
  rw [contains_eq_isSome_get?, Option.isSome_iff_exists]

/-- There is an entry for the key of an insertion, and for every key that there was one for. -/
theorem contains_insert (m : Dict κ α) (k : κ) (v : α) (k' : κ) :
    (m.insert k v).contains k' = true ↔ k' = k ∨ m.contains k' = true := by
  simp only [contains_eq_isSome_get?, get?_insert]
  split
  · rename_i hk
    exact iff_of_true rfl (.inl hk)
  · rename_i hk
    exact (or_iff_right hk).symm

/-- The entries that are kept are those whose key passes the test. -/
theorem contains_keep (m : Dict κ α) (p : κ → Bool) (k : κ) :
    (m.keep p).contains k = true ↔ m.contains k = true ∧ p k = true := by
  simp only [keep, contains, List.any_filter, List.any_eq_true, Bool.and_eq_true,
    decide_eq_true_eq]
  constructor
  · rintro ⟨e, he, hp, rfl⟩
    exact ⟨⟨e, he, rfl⟩, hp⟩
  · rintro ⟨⟨e, he, rfl⟩, hp⟩
    exact ⟨e, he, hp, rfl⟩

/-! ## Listings -/

omit [DecidableEq κ] in
/-- The keys are listed in ascending order. -/
theorem keys_ordered (m : Dict κ α) : m.keys.Pairwise fun a b => Key.before a b = true :=
  List.pairwise_map.2 m.ordered

omit [DecidableEq κ] in
/-- No key is listed twice. -/
theorem nodup_keys (m : Dict κ α) : m.keys.Nodup := by
  apply m.keys_ordered.imp
  rintro a b hbefore rfl
  rw [Key.irrefl] at hbefore
  contradiction

/-- A dictionary is known by the values under its keys. -/
theorem ext_get? (h : ∀ k, m.get? k = n.get? k) : m = n := by
  have hdistinct : ∀ l : Dict κ α, l.entries.Nodup := fun l => List.Nodup.of_map _ l.nodup_keys
  have hperm : m.entries.Perm n.entries := by
    apply (List.perm_ext_iff_of_nodup (hdistinct m) (hdistinct n)).2
    rintro ⟨k, v⟩
    rw [← get?_eq_some_iff, ← get?_eq_some_iff, h]
  refine ext (hperm.eq_of_pairwise ?_ m.ordered n.ordered)
  -- two entries that are each before the other would be before themselves
  intro a b _ _ hab hba
  have hself := Key.trans hab hba
  rw [Key.irrefl] at hself
  contradiction

/-- A set is known by its members. -/
theorem ext_contains {m n : Dict κ Unit} (h : ∀ k, m.contains k = true ↔ n.contains k = true) :
    m = n := by
  apply ext_get?
  intro k
  have hk : (m.get? k).isSome = (n.get? k).isSome := by
    rw [← contains_eq_isSome_get?, ← contains_eq_isSome_get?, Bool.eq_iff_iff]
    exact h k
  -- there is only one value that can be found
  match m.get? k, n.get? k, hk with
  | none, none, _ => rfl
  | some (), some (), _ => rfl

/-! ## Values -/

/-- What is kept keeps its value. -/
theorem get?_keep (m : Dict κ α) (p : κ → Bool) (k : κ) :
    (m.keep p).get? k = if p k = true then m.get? k else none := by
  apply Option.ext
  intro v
  rw [get?_eq_some_iff, keep, List.mem_filter, ← get?_eq_some_iff]
  split
  · rename_i hk
    exact and_iff_left hk
  · rename_i hk
    exact iff_of_false (fun h => hk h.2) (by simp)

theorem get?_erase (m : Dict κ α) (k k' : κ) :
    (m.erase k).get? k' = if k' = k then none else m.get? k' := by
  rw [erase, get?_keep]
  by_cases hk : k' = k
  · simp [hk]
  · simp [hk]

/-- Nothing changes if a value is put where it is. -/
theorem insert_of_get? {v : α} (h : m.get? k = some v) : m.insert k v = m := by
  apply ext_get?
  intro k'
  rw [get?_insert]
  split
  · rename_i hk
    rw [hk, h]
  · rfl

/-- What was erased under a key does not matter to a new value there. -/
theorem insert_erase (m : Dict κ α) (k : κ) (v : α) : (m.erase k).insert k v = m.insert k v := by
  apply ext_get?
  intro k'
  rw [get?_insert, get?_insert, get?_erase]
  split
  · rfl
  · rfl

/-! ## Lists of entries -/

/-- Of entries that are put into a dictionary one after another, the last with a key counts. -/
theorem get?_foldl_insert (l : List (κ × α)) (m : Dict κ α) (k : κ) :
    (l.foldl (fun m e => m.insert e.1 e.2) m).get? k =
      ((l.reverse.find? (·.1 = k)).map (·.2)).or (m.get? k) := by
  induction l generalizing m with
  | nil => rfl
  | cons e rest ih =>
    rw [List.foldl_cons, ih, get?_insert, List.reverse_cons, List.find?_append]
    cases rest.reverse.find? (·.1 = k) with
    | some e' => rfl
    | none =>
      by_cases hk : e.1 = k
      · simp [hk]
      · simp [hk, Ne.symm hk]

theorem get?_ofList (l : List (κ × α)) (k : κ) :
    (ofList l).get? k = (l.reverse.find? (·.1 = k)).map (·.2) := by
  rw [ofList, get?_foldl_insert, get?_empty, Option.or_none]

/-- A dictionary is made again of its entries, in any order. -/
theorem ofList_of_perm {l : List (κ × α)} (h : l.Perm m.entries) : ofList l = m := by
  apply ext_get?
  intro k
  rw [get?_ofList]
  apply Option.ext
  intro v
  rw [get?_eq_some_iff, Option.map_eq_some_iff]
  have hmem : ∀ e, e ∈ l.reverse ↔ e ∈ m.entries := fun e => List.mem_reverse.trans h.mem_iff
  constructor
  · rintro ⟨e, hfound, rfl⟩
    have hkey : e.1 = k := by simpa using List.find?_some hfound
    rw [← hkey]
    exact (hmem e).1 (List.mem_of_find?_eq_some hfound)
  · intro hentry
    have hsome : (l.reverse.find? (·.1 = k)).isSome = true := by
      rw [List.find?_isSome]
      exact ⟨(k, v), (hmem _).2 hentry, decide_eq_true rfl⟩
    obtain ⟨e, hfound⟩ := Option.isSome_iff_exists.1 hsome
    have hkey : e.1 = k := by simpa using List.find?_some hfound
    have he : (k, e.2) ∈ m.entries := by
      rw [← hkey]
      exact (hmem e).1 (List.mem_of_find?_eq_some hfound)
    -- there is one value under a key
    rw [← get?_eq_some_iff] at hentry he
    rw [he] at hentry
    exact ⟨e, hfound, Option.some.inj hentry⟩

end Federation.Dict
