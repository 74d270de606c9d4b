/-!
# Federation.Collection.Dict — ordered dictionaries

Finite maps whose entries stand in ascending order of their keys, each key once. The order is
part of the value, so two dictionaries with the same entries are equal and every listing comes
out in the order of the keys. A set is a dictionary without values.
-/

namespace Federation

/-! ## Keys -/

/-- A type with a strict total order that can be tested. -/
class Key (κ : Type) where
  /-- Whether the first key comes before the second. -/
  before : κ → κ → Bool
  irrefl : ∀ a, before a a = false
  trans : ∀ {a b c}, before a b = true → before b c = true → before a c = true
  total : ∀ {a b}, before a b = false → before b a = false → a = b

/-- Texts are ordered by their code points, which is also the order of their UTF-8 bytes. -/
instance : Key String where
  before a b := decide (a < b)
  irrefl a := decide_eq_false (String.lt_irrefl a)
  trans h₁ h₂ := decide_eq_true (String.lt_trans (of_decide_eq_true h₁) (of_decide_eq_true h₂))
  total h₁ h₂ := String.le_antisymm (String.not_lt.1 (of_decide_eq_false h₂))
    (String.not_lt.1 (of_decide_eq_false h₁))

/-- Numbers are ordered by their value. -/
instance : Key Int32 where
  before a b := decide (a < b)
  irrefl _ := decide_eq_false Int32.lt_irrefl
  trans h₁ h₂ := decide_eq_true (Int32.lt_trans (of_decide_eq_true h₁) (of_decide_eq_true h₂))
  total h₁ h₂ := Int32.le_antisymm (Int32.not_lt.1 (of_decide_eq_false h₂))
    (Int32.not_lt.1 (of_decide_eq_false h₁))

/-- A dictionary from `κ` to `α`. -/
structure Dict (κ : Type) [Key κ] (α : Type) where
  entries : List (κ × α)
  ordered : entries.Pairwise fun a b => Key.before a.1 b.1 = true

namespace Dict

variable {κ : Type} [Key κ] {α : Type}

@[ext] theorem ext {m n : Dict κ α} (h : m.entries = n.entries) : m = n := by
  cases m
  cases n
  cases h
  rfl

instance [DecidableEq κ] [DecidableEq α] : DecidableEq (Dict κ α) := fun m n =>
  if h : m.entries = n.entries then isTrue (ext h) else isFalse fun e => h (e ▸ rfl)

/-! ## Reading -/

/-- The dictionary without entries. -/
def empty : Dict κ α := ⟨[], .nil⟩

/-- The keys, in ascending order. -/
def keys (m : Dict κ α) : List κ := m.entries.map (·.1)

variable [DecidableEq κ]

/-- The value under a key. -/
def get? (m : Dict κ α) (k : κ) : Option α :=
  (m.entries.find? (·.1 = k)).map (·.2)

/-- Whether there is an entry for the key. -/
def contains (m : Dict κ α) (k : κ) : Bool :=
  m.entries.any (·.1 = k)

/-! ## Writing -/

/-- Puts an entry at its place in an ordered list; an entry with the same key makes room. -/
def insertEntry (k : κ) (v : α) : List (κ × α) → List (κ × α)
  | [] => [(k, v)]
  | e :: rest =>
    if Key.before k e.1 then (k, v) :: e :: rest
    else if Key.before e.1 k then e :: insertEntry k v rest
    else (k, v) :: rest

omit [DecidableEq κ] in
/-- The entries after an insertion are old ones and the new one. -/
theorem mem_insertEntry {k : κ} {v : α} {l : List (κ × α)} {e : κ × α}
    (h : e ∈ insertEntry k v l) : e = (k, v) ∨ e ∈ l := by
  induction l with
  | nil => exact Or.inl (List.mem_singleton.1 h)
  | cons x rest ih =>
    simp only [insertEntry] at h
    split at h
    · exact List.mem_cons.1 h
    · split at h
      · rcases List.mem_cons.1 h with rfl | h
        · exact Or.inr (List.mem_cons_self)
        · exact (ih h).imp id (List.mem_cons_of_mem _)
      · exact (List.mem_cons.1 h).imp id (List.mem_cons_of_mem _)

omit [DecidableEq κ] in
/-- An insertion keeps the entries in order. -/
theorem insertEntry_ordered {k : κ} {v : α} {l : List (κ × α)}
    (h : l.Pairwise fun a b => Key.before a.1 b.1 = true) :
    (insertEntry k v l).Pairwise fun a b => Key.before a.1 b.1 = true := by
  induction l with
  | nil => exact List.pairwise_singleton _ _
  | cons x rest ih =>
    obtain ⟨hx, hrest⟩ := List.pairwise_cons.1 h
    simp only [insertEntry]
    split
    · -- the new entry comes first
      rename_i hk
      refine List.pairwise_cons.2 ⟨fun e he => ?_, h⟩
      rcases List.mem_cons.1 he with rfl | he
      · exact hk
      · exact Key.trans hk (hx e he)
    · split
      · -- the new entry belongs further down
        rename_i hk
        refine List.pairwise_cons.2 ⟨fun e he => ?_, ih hrest⟩
        rcases mem_insertEntry he with rfl | he
        · exact hk
        · exact hx e he
      · -- the new entry replaces this one
        rename_i h₁ h₂
        have hk : k = x.1 := Key.total (Bool.eq_false_iff.2 h₁) (Bool.eq_false_iff.2 h₂)
        exact List.pairwise_cons.2 ⟨fun e he => hk ▸ hx e he, hrest⟩

omit [DecidableEq κ] in
/-- Sets the value under a key. -/
def insert (m : Dict κ α) (k : κ) (v : α) : Dict κ α :=
  ⟨insertEntry k v m.entries, insertEntry_ordered m.ordered⟩

/-- After an insertion the new value is found under its key, and under every other key what was
found there before. -/
theorem find?_insertEntry (k : κ) (v : α) (l : List (κ × α)) (k' : κ) :
    (insertEntry k v l).find? (·.1 = k') = if k' = k then some (k, v) else l.find? (·.1 = k') := by
  induction l with
  | nil =>
    by_cases hk : k = k'
    · simp [insertEntry, hk]
    · simp [insertEntry, hk, Ne.symm hk]
  | cons x rest ih =>
    simp only [insertEntry]
    split
    · -- the new entry comes first
      by_cases hk : k = k'
      · simp [hk]
      · simp [List.find?_cons, hk, Ne.symm hk]
    · split
      · -- it belongs further down, so the first entry has another key
        rename_i hx
        have hne : x.1 ≠ k := by
          rintro rfl
          rw [Key.irrefl] at hx
          contradiction
        by_cases hk : x.1 = k'
        · have hk' : k' ≠ k := hk ▸ hne
          simp [hk, hk']
        · simp only [List.find?_cons, hk, decide_false, ih]
      · -- it replaces the first entry
        rename_i h₁ h₂
        have hx : k = x.1 := Key.total (Bool.eq_false_iff.2 h₁) (Bool.eq_false_iff.2 h₂)
        by_cases hk : k = k'
        · simp [hk]
        · simp [← hx, hk, Ne.symm hk]

@[simp] theorem get?_empty (k : κ) : (empty : Dict κ α).get? k = none := rfl

theorem get?_insert (m : Dict κ α) (k : κ) (v : α) (k' : κ) :
    (m.insert k v).get? k' = if k' = k then some v else m.get? k' := by
  simp only [get?, insert, find?_insertEntry]
  split
  · rfl
  · rfl

/-- There is an entry for a key exactly if there is a value under it. -/
theorem contains_eq_isSome_get? (m : Dict κ α) (k : κ) : m.contains k = (m.get? k).isSome := by
  rw [contains, get?, Option.isSome_map, Bool.eq_iff_iff, List.find?_isSome, List.any_eq_true]

/-- The value under a key is the one in the entry with that key. -/
theorem get?_eq_some_iff {m : Dict κ α} {k : κ} {v : α} :
    m.get? k = some v ↔ (k, v) ∈ m.entries := by
  rcases m with ⟨l, h⟩
  show (l.find? (·.1 = k)).map (·.2) = some v ↔ (k, v) ∈ l
  induction l with
  | nil => simp
  | cons x rest ih =>
    obtain ⟨hx, hrest⟩ := List.pairwise_cons.1 h
    by_cases hk : x.1 = k
    · -- the keys after this one are greater
      have hlater : (k, v) ∉ rest := by
        intro hmem
        have hbefore := hx (k, v) hmem
        rw [hk, Key.irrefl] at hbefore
        contradiction
      rw [List.find?_cons_of_pos (by simpa using hk), Option.map_some, Option.some.injEq,
        List.mem_cons, or_iff_left hlater, Prod.ext_iff, eq_comm (a := k), and_iff_right hk,
        eq_comm]
    · have hne : (k, v) ≠ x := by
        rintro rfl
        exact hk rfl
      rw [List.find?_cons_of_neg (by simpa using hk), ih hrest, List.mem_cons, or_iff_right hne]

omit [DecidableEq κ] in
/-- The keys after an insertion are the old ones and the new one. -/
theorem mem_keys_insert {m : Dict κ α} {k k' : κ} {v : α} (h : k' ∈ (m.insert k v).keys) :
    k' = k ∨ k' ∈ m.keys := by
  rcases List.mem_map.1 h with ⟨e, he, rfl⟩
  rcases mem_insertEntry he with rfl | he
  · exact Or.inl rfl
  · exact Or.inr (List.mem_map_of_mem he)

omit [DecidableEq κ] in
/-- Keeps the entries whose key passes the test. -/
def keep (m : Dict κ α) (p : κ → Bool) : Dict κ α :=
  ⟨m.entries.filter (p ·.1), m.ordered.filter _⟩

omit [DecidableEq κ] in
/-- No keys are new that are kept. -/
theorem mem_keys_of_mem_keep {m : Dict κ α} {p : κ → Bool} {k : κ} (h : k ∈ (m.keep p).keys) :
    k ∈ m.keys := by
  rcases List.mem_map.1 h with ⟨e, he, rfl⟩
  exact List.mem_map_of_mem (List.mem_filter.1 he).1

/-- Removes the entry under a key. -/
def erase (m : Dict κ α) (k : κ) : Dict κ α :=
  m.keep (· ≠ k)

omit [DecidableEq κ] in
/-- The dictionary of a list of entries; of two entries with one key the later counts. -/
def ofList (l : List (κ × α)) : Dict κ α :=
  l.foldl (fun m e => m.insert e.1 e.2) empty

end Dict

end Federation
