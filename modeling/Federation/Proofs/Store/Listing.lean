import Federation.Proofs.Store.Routing

/-!
# Federation.Proofs.Store.Listing — what is checked before a listing

A listing is guarded by its arguments, in a fixed order: what is searched for, the offset, the
length, and the name of the backend. The first of them that decides ends the listing without a
word to any backend. If none does, one request is made, to the backend that the name stands for,
with the filter as it was given and the page that the offset and the length span. The order is the
same for users and groups, and for all three filters.
-/

namespace Federation

/-! ## Filters -/

namespace Filter

variable {filter : Filter}

/-- The filter leaves open what to search for; a listing by it is refused for the reason. -/
inductive Blank : Filter → InvalidInput → Prop
  | claim {c : Claim} (h : c.uri = "" ∨ c.value = "") : Blank (.byClaim c) .claim
  | metaClaim {m : MetaClaim} {pattern : String} (h : m.uri = "") :
      Blank (.byMetaClaim m pattern) .metaClaim

/-- The filter says what to search for. -/
def Searchable (filter : Filter) : Prop := ∀ reason, ¬ filter.Blank reason

/-- A claim without a URI or a value is looked for in no way. -/
theorem blankClaim_iff {c : Claim} :
    (c.uri = "" || c.isBlank) = true ↔ c.uri = "" ∨ c.value = "" := by
  rw [Bool.or_eq_true, decide_eq_true_iff, Claim.isBlank, String.isEmpty_iff]

/-- A blank filter is refused. -/
theorem Blank.check {reason : InvalidInput} (h : filter.Blank reason) :
    filter.check = .error (.invalidInput reason) := by
  cases h with
  | claim h => exact if_pos (blankClaim_iff.2 h)
  | metaClaim h => exact if_pos h

/-- No other filter is. -/
theorem Searchable.check (h : filter.Searchable) : filter.check = .ok () := by
  cases filter with
  | all => rfl
  | byClaim c =>
    refine if_neg ?_
    intro hblank
    exact h .claim (.claim (blankClaim_iff.1 hblank))
  | byMetaClaim m pattern =>
    refine if_neg ?_
    intro hblank
    exact h .metaClaim (.metaClaim hblank)

end Filter

/-! ## Windows -/

namespace Page

variable {offset length : Int32}

/-- The page starts at the offset and is as long as the length says; a negative length does not
bound it. -/
structure Spans (page : Page) (offset length : Int32) : Prop where
  offset : (page.offset.toNat : Int) = offset.toInt
  bounded : 0 < length.toInt →
    ∃ n : UInt64, page.limit = some n ∧ (n.toNat : Int) = length.toInt
  unbounded : length.toInt < 0 → page.limit = none

/-- The signs of 32-bit numbers are those of their values. -/
theorem int32_neg_iff {n : Int32} : n < 0 ↔ n.toInt < 0 := Int32.lt_iff_toInt_lt

theorem int32_eq_zero_iff {n : Int32} : n = 0 ↔ n.toInt = 0 := Int32.toInt_inj.symm

/-- A 32-bit number that is not negative is a size. -/
theorem toNat_size {n : Int32} (h : 0 ≤ n.toInt) :
    ((UInt64.ofNat n.toInt.toNat).toNat : Int) = n.toInt := by
  have hhigh := Int32.toInt_lt n
  have hsize : n.toInt.toNat < 2 ^ 64 := by omega
  rw [UInt64.toNat_ofNat_of_lt' hsize]
  exact Int.toNat_of_nonneg h

/-- A negative offset is refused, whatever the length. -/
theorem ofRange?_of_neg (ho : offset.toInt < 0) (length : Int32) :
    ofRange? offset length = .error (.invalidInput .negativeOffset) :=
  if_pos (int32_neg_iff.2 ho)

/-- A length of zero asks for no page. -/
theorem ofRange?_of_zero (ho : 0 ≤ offset.toInt) (hl : length.toInt = 0) :
    ofRange? offset length = .ok none := by
  have hstart : ¬ offset < 0 := fun h => Int.not_lt.2 ho (int32_neg_iff.1 h)
  rw [ofRange?, if_neg hstart, if_pos (int32_eq_zero_iff.2 hl)]

/-- Any other length asks for the page that it spans from the offset on. -/
theorem exists_ofRange? (ho : 0 ≤ offset.toInt) (hl : length.toInt ≠ 0) :
    ∃ page : Page, page.Spans offset length ∧ ofRange? offset length = .ok (some page) := by
  have hstart : ¬ offset < 0 := fun h => Int.not_lt.2 ho (int32_neg_iff.1 h)
  have hsome : ¬ length = 0 := fun h => hl (int32_eq_zero_iff.1 h)
  refine ⟨_, ?_, by rw [ofRange?, if_neg hstart, if_neg hsome]⟩
  constructor
  case offset => exact toNat_size ho
  case bounded =>
    intro hpositive
    have hlong : ¬ length < 0 := fun h => Int.not_lt.2 (Int.le_of_lt hpositive) (int32_neg_iff.1 h)
    exact ⟨_, if_neg hlong, toNat_size (Int.le_of_lt hpositive)⟩
  case unbounded =>
    intro hopen
    exact if_pos (int32_neg_iff.2 hopen)

example : ofRange? 2147483647 (-2147483648) = .ok (some ⟨2147483647, none⟩) := rfl

end Page

namespace Store

variable {s : Store} {name : Option String}

/-! ## Names -/

/-- The text names no backend: there is something in it, but no backend is called so, in whatever
letter case. -/
def Unknown (s : Store) (name : String) : Prop :=
  name ≠ "" ∧ ∀ b ∈ s.registry.ordered, b.folded ≠ Text.lowercase name

/-- No unknown name is given. -/
def Known (s : Store) (name : Option String) : Prop := ∀ n, name = some n → ¬ s.Unknown n

/-- An unknown name is refused. -/
theorem resolve_of_unknown {n : String} (h : s.Unknown n) :
    s.resolve (some n) = .error (.invalidInput (.unknownBackend n)) := by
  obtain ⟨hne, hnobody⟩ := h
  rw [resolve_of_ne_empty hne]
  cases hfound : s.registry.byName n with
  | error e => rw [Registry.eq_of_byName_error hfound]
  | ok b =>
    obtain ⟨hb, hfolded⟩ := Registry.byName_eq_ok_iff.1 hfound
    exact absurd hfolded (hnobody b hb)

/-- Any other name leads to a backend, and so does none. -/
theorem exists_resolve (h : s.Known name) : ∃ b, s.resolve name = .ok b := by
  cases name with
  | none => exact ⟨s.registry.primary, rfl⟩
  | some n =>
    by_cases hempty : n = ""
    · subst hempty
      exact ⟨s.registry.primary, rfl⟩
    · rw [resolve_of_ne_empty hempty]
      cases hfound : s.registry.byName n with
      | ok b => exact ⟨b, rfl⟩
      | error e =>
        refine absurd ⟨hempty, ?_⟩ (h n rfl)
        intro b hb hfolded
        rw [Registry.byName_eq_ok_iff.2 ⟨hb, hfolded⟩] at hfound
        contradiction

/-! ## Listings -/

section Listings

variable {ω : Type} {net : Network ω} {k : Kind} {filter : Filter} {offset length : Int32} {w : ω}

/-- The dialogue ends with the result, and no backend is asked or changed for it. -/
structure Silent {α : Type} (net : Network ω) (d : Dialogue α) (w : ω)
    (result : Except StoreError α) : Prop where
  result : (d.run net w).result = result
  exchanges : d.exchanges net w = []
  asked : (d.run net w).asked = []
  state : (d.run net w).state = w

/-- The dialogue puts one request for a listing to the backend `b`, and answers with one handle of
that backend for each id in the reply, in their order, or with the failure of the backend. -/
structure Lists (net : Network ω) (d : Dialogue (List (Handle k))) (w : ω) (b : BackendConfig)
    (filter : Filter) (page : Page) : Prop where
  exchanges : d.exchanges net w =
    [.request b.id (.list k filter page) (net.serve b.id (.list k filter page) w).outcome
      (net.serve b.id (.list k filter page) w).log]
  state : (d.run net w).state = (net.serve b.id (.list k filter page) w).state
  answered : ∀ ids : List String, (net.serve b.id (.list k filter page) w).outcome = .ok ids →
    (d.run net w).result = .ok (ids.map fun id => ⟨EntityId.encode ⟨b.id, id⟩, b.name⟩)
  failed : ∀ e, (net.serve b.id (.list k filter page) w).outcome = .error e →
    (d.run net w).result = .error (.backendFailure (.list k b.name) e)

theorem silent_fail {α : Type} (e : StoreError) :
    Silent net (.fail e : Dialogue α) w (.error e) :=
  ⟨rfl, rfl, rfl, rfl⟩

theorem silent_done {α : Type} (a : α) : Silent net (.done a) w (.ok a) :=
  ⟨rfl, rfl, rfl, rfl⟩

/-- A listing whose arguments stand all checks is put to the backend. -/
theorem lists_of_checked {page : Page} {b : BackendConfig} (hfilter : filter.check = .ok ())
    (hrange : Page.ofRange? offset length = .ok (some page)) (hresolve : s.resolve name = .ok b) :
    Lists net (s.list k filter offset length name) w b filter page := by
  have hlist : s.list k filter offset length name =
      Dialogue.demand (.list k b.name) b.id (.list k filter page) >>= fun ids =>
        .done (ids.map (.of b)) := by
    rw [list, hfilter, hrange, hresolve]
    rfl
  rw [hlist, Dialogue.demand_bind]
  constructor
  case exchanges =>
    cases houtcome : (net.serve b.id (.list k filter page) w).outcome with
    | error e => simp only [Dialogue.exchanges, houtcome]
    | ok ids => simp only [Dialogue.exchanges, houtcome]
  case state =>
    cases houtcome : (net.serve b.id (.list k filter page) w).outcome with
    | error e => simp only [Dialogue.run, houtcome]
    | ok ids => simp only [Dialogue.run, houtcome]
  case answered =>
    intro ids hids
    simp only [Dialogue.run, hids]
    rfl
  case failed =>
    intro e he
    simp only [Dialogue.run, he]

/-- The order in which the arguments of a listing are looked at. -/
structure Guarded (net : Network ω) (s : Store) (k : Kind) (filter : Filter)
    (offset length : Int32) (name : Option String) (w : ω) : Prop where
  /-- A blank filter is refused before anything else. -/
  blank : ∀ reason, filter.Blank reason →
    Silent net (s.list k filter offset length name) w (.error (.invalidInput reason))
  /-- Then a negative offset, also if nothing is asked for. -/
  negative : filter.Searchable → offset.toInt < 0 →
    Silent net (s.list k filter offset length name) w (.error (.invalidInput .negativeOffset))
  /-- Nothing is listed if nothing is asked for, also of a backend that does not exist. -/
  nothing : filter.Searchable → 0 ≤ offset.toInt → length.toInt = 0 →
    Silent net (s.list k filter offset length name) w (.ok [])
  /-- Then a name that is unknown is refused. -/
  unknown : filter.Searchable → 0 ≤ offset.toInt → length.toInt ≠ 0 →
    ∀ n, name = some n → s.Unknown n →
      Silent net (s.list k filter offset length name) w
        (.error (.invalidInput (.unknownBackend n)))
  /-- Otherwise the backend that the name stands for is asked, once. -/
  listed : filter.Searchable → 0 ≤ offset.toInt → length.toInt ≠ 0 → s.Known name →
    ∃ b ∈ s.registry.ordered, ∃ page : Page, page.Spans offset length ∧
      s.Routes (.backend name) b (.list k filter page) ∧
      Lists net (s.list k filter offset length name) w b filter page

/-- Listings are guarded uniformly: whatever the kind, the filter, the offset, the length and the
name, the first rule that applies decides, and no backend is called unless all checks are passed.
Then one is called once. -/
theorem list_guarded (s : Store) (net : Network ω) (w : ω) (k : Kind) (filter : Filter)
    (offset length : Int32) (name : Option String) :
    Guarded net s k filter offset length name w := by
  constructor
  case blank =>
    intro reason hblank
    rw [list, hblank.check]
    exact silent_fail _
  case negative =>
    intro hfilter ho
    rw [list, hfilter.check, Page.ofRange?_of_neg ho]
    exact silent_fail _
  case nothing =>
    intro hfilter ho hl
    rw [list, hfilter.check, Page.ofRange?_of_zero ho hl]
    exact silent_done _
  case unknown =>
    intro hfilter ho hl n hname hunknown
    obtain ⟨page, -, hrange⟩ := Page.exists_ofRange? ho hl
    rw [list, hfilter.check, hrange, hname, resolve_of_unknown hunknown]
    exact silent_fail _
  case listed =>
    intro hfilter ho hl hname
    obtain ⟨page, hspans, hrange⟩ := Page.exists_ofRange? ho hl
    obtain ⟨b, hresolve⟩ := exists_resolve hname
    exact ⟨b, mem_of_resolve hresolve, page, hspans, routes_of_resolve hresolve _,
      lists_of_checked hfilter.check hrange hresolve⟩

end Listings

end Store

end Federation
