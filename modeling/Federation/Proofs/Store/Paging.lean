import Mathlib.Data.List.Forall2
import Mathlib.Data.List.Nodup
import Federation.Proofs.Directory.Faultless
import Federation.Proofs.Directory.Selection
import Federation.Proofs.Store.Ground

/-!
# Federation.Proofs.Store.Paging — pages of a listing

A listing of a directory has one handle for each entity that the filter shows, by ascending local
ids. What a listing from an offset on answers, and one of a length, are parts of this whole: the
entries before the offset are left out, and those after the length. So pages of one size that
follow each other make up the whole, however long it is.
-/

namespace Federation

/-! ## Windows -/

namespace Page

variable {α : Type} {page : Page} {offset length : Int32}

/-- A page of a length shows that many entries, from its offset on. -/
theorem Spans.window_of_pos (h : page.Spans offset length) (hl : 0 < length.toInt)
    (entries : List α) :
    page.window entries = (entries.drop offset.toInt.toNat).take length.toInt.toNat := by
  obtain ⟨n, hlimit, hn⟩ := h.bounded hl
  have ho := h.offset
  rw [window, hlimit, ← hn, ← ho]
  rfl

/-- A page without bound shows everything from its offset on. -/
theorem Spans.window_of_neg (h : page.Spans offset length) (hl : length.toInt < 0)
    (entries : List α) : page.window entries = entries.drop offset.toInt.toNat := by
  have ho := h.offset
  rw [window, h.unbounded hl, ← ho]
  rfl

/-- The window does not look at the entries. -/
theorem window_map {β : Type} (page : Page) (f : α → β) (entries : List α) :
    page.window (entries.map f) = (page.window entries).map f := by
  unfold window
  split
  · rw [List.map_take, List.map_drop]
  · rw [List.map_drop]

end Page

/-! ## Tilings -/

section Tilings

variable {α : Type}

/-- How many pages of a size there are until the end of a list. -/
def pageCount (size total : Nat) : Nat := (total + size - 1) / size

/-- There is a page for each multiple of the size before the end, and for no other. -/
theorem lt_pageCount_iff {size total j : Nat} (hsize : 0 < size) :
    j < pageCount size total ↔ j * size < total := by
  rw [pageCount, ← Nat.succ_le_iff, Nat.le_div_iff_mul_le hsize, Nat.succ_mul]
  omega

/-- Where a page begins, as the offset of a listing. -/
def pageOffset (size j : Nat) : Int32 := Int32.ofNat (j * size)

/-- The pages of a list that is not too long begin at the multiples of the size. -/
theorem toInt_pageOffset {size total j : Nat} (hsize : 0 < size) (hshort : total < 2147483648)
    (hj : j < pageCount size total) : (pageOffset size j).toInt = (j * size : Nat) := by
  have hbefore := (lt_pageCount_iff hsize).1 hj
  exact Int32.toInt_ofNat_of_lt (by omega)

/-- The first pages make up the first entries. -/
theorem flatten_pages (l : List α) (size n : Nat) :
    ((List.range n).map fun j => (l.drop (j * size)).take size).flatten = l.take (n * size) := by
  induction n with
  | zero => rw [Nat.zero_mul, List.take_zero, List.range_zero, List.map_nil, List.flatten_nil]
  | succ n ih =>
    rw [List.range_succ, List.map_append, List.flatten_append, ih, List.map_singleton,
      List.flatten_singleton, Nat.succ_mul, List.take_add]

/-- All of them make up the whole list. -/
theorem flatten_allPages (l : List α) {size : Nat} (hsize : 0 < size) :
    ((List.range (pageCount size l.length)).map fun j =>
      (l.drop (j * size)).take size).flatten = l := by
  have hend : l.length ≤ pageCount size l.length * size :=
    Nat.not_lt.1 fun h => Nat.lt_irrefl _ ((lt_pageCount_iff hsize).2 h)
  rw [flatten_pages, List.take_of_length_le hend]

/-- The answers for a page size, at all its multiples from the start up to the end of the whole,
make up the whole. -/
def Tiles (answer : Int32 → Int32 → Except StoreError (List α)) (whole : List α) (size : Int32) :
    Prop :=
  ∃ offsets : List Int32, ∃ pages : List (List α),
    (∀ (j : Nat) (o : Int32), offsets[j]? = some o → o.toInt = j * size.toInt) ∧
      (∀ j : Nat, j < offsets.length ↔ j * size.toInt < whole.length) ∧
      List.Forall₂ (fun o page => answer o size = .ok page) offsets pages ∧
      pages.flatten = whole

/-- Windows tile a list that is not too long for its offsets. -/
theorem tiles_of_windows {answer : Int32 → Int32 → Except StoreError (List α)} {whole : List α}
    {size : Int32} (hsize : 0 < size.toInt) (hshort : whole.length < 2147483648)
    (hanswer : ∀ o : Int32, 0 ≤ o.toInt →
      answer o size = .ok ((whole.drop o.toInt.toNat).take size.toInt.toNat)) :
    Tiles answer whole size := by
  obtain ⟨n, hn⟩ : ∃ n : Nat, size.toInt = n := Int.eq_ofNat_of_zero_le (Int.le_of_lt hsize)
  have hpos : 0 < n := by omega
  have hoffset : ∀ j, j < pageCount n whole.length → (pageOffset n j).toInt = (j * n : Nat) :=
    fun j hj => toInt_pageOffset hpos hshort hj
  refine ⟨(List.range (pageCount n whole.length)).map (pageOffset n),
    (List.range (pageCount n whole.length)).map fun j => (whole.drop (j * n)).take n, ?_, ?_, ?_,
    flatten_allPages whole hpos⟩
  · -- the offsets are multiples of the size
    intro j o ho
    rw [List.getElem?_map, Option.map_eq_some_iff] at ho
    obtain ⟨j', hj', rfl⟩ := ho
    obtain ⟨hlt, hsame⟩ := List.getElem?_eq_some_iff.1 hj'
    rw [List.length_range] at hlt
    rw [List.getElem_range] at hsame
    subst hsame
    rw [hoffset j hlt, hn, Int.natCast_mul]
  · -- there is one for each multiple before the end
    intro j
    rw [List.length_map, List.length_range, lt_pageCount_iff hpos, hn]
    omega
  · -- and each of them is answered with its page
    rw [List.forall₂_map_left_iff, List.forall₂_map_right_iff, List.forall₂_same]
    intro j hj
    have hstart := hoffset j (List.mem_range.1 hj)
    rw [hanswer (pageOffset n j) (by omega), hstart, hn]
    rfl

end Tilings

namespace Store

variable {s : Store} {ds : List Directory} {k : Kind} {filter : Filter} {name : Option String}
  {b : BackendConfig} {d : Directory}

/-! ## Listings of a directory -/

/-- The answer to a listing. -/
def listed (s : Store) (ds : List Directory) (k : Kind) (filter : Filter) (name : Option String)
    (offset length : Int32) : Except StoreError (List (Handle k)) :=
  ((s.list k filter offset length name).run Directory.network ds).result

/-- The handles of all entities that the filter shows. -/
def shownHandles (d : Directory) (b : BackendConfig) (k : Kind) (filter : Filter) :
    List (Handle k) :=
  (d.contents.matching k filter).map fun id => ⟨EntityId.encode ⟨b.id, id⟩, b.name⟩

/-- A directory without faults answers a listing with the handles in the window, and stays as it
is. -/
theorem Leads.list (h : s.Leads name ds b d) (hd : d.Faultless) (hfilter : filter.Searchable)
    {offset length : Int32} {page : Page}
    (hrange : Page.ofRange? offset length = .ok (some page)) :
    s.listed ds k filter name offset length = .ok (page.window (shownHandles d b k filter)) ∧
      ((s.list k filter offset length name).run Directory.network ds).state = ds := by
  have hlists : Lists Directory.network (s.list k filter offset length name) ds b filter page :=
    lists_of_checked hfilter.check hrange h.resolve
  have hoffers : d.mode.offers (.list k filter page) = true :=
    Directory.offers_of_read d.mode rfl (by rintro _ _ _ ⟨⟩)
  obtain ⟨houtcome, -, -⟩ := hd.serveAt h.at? hoffers
  constructor
  · rw [shownHandles, Page.window_map]
    exact hlists.answered _ houtcome
  · rw [hlists.state]
    exact hd.state_serveAt h.at? hoffers rfl

/-- No entity has two handles. -/
theorem nodup_shownHandles (d : Directory) (b : BackendConfig) (k : Kind) (filter : Filter) :
    (shownHandles d b k filter).Nodup := by
  have hids : (d.contents.matching k filter).Nodup := by
    apply (d.contents.matching_ascending k filter).imp
    rintro id id' hlt rfl
    exact String.lt_irrefl _ hlt
  exact hids.map (Handle.of_injective b)

/-- What listings answer, if the name leads to the directory `d`: parts of one whole. -/
structure Paged (s : Store) (ds : List Directory) (k : Kind) (filter : Filter)
    (name : Option String) (d : Directory) (ids : List String) (whole : List (Handle k)) :
    Prop where
  /-- The whole is what a listing from the start without bound answers. -/
  total : s.listed ds k filter name 0 (-1) = .ok whole
  /-- It has the handles of these ids, -/
  handles : whole = ids.map fun id => ⟨EntityId.encode ⟨d.config.id, id⟩, d.config.name⟩
  /-- which ascend, -/
  ascending : ids.Pairwise (· < ·)
  /-- and are those of the entities that the filter shows. -/
  shown : ∀ id, id ∈ ids ↔
    ∃ claims, (d.contents.entities k).get? id = some claims ∧ filter.Shows claims
  /-- No entity has two handles. -/
  distinct : whole.Nodup
  /-- Without bound a listing leaves out the entries before its offset. -/
  rest : ∀ offset length : Int32, 0 ≤ offset.toInt → length.toInt < 0 →
    s.listed ds k filter name offset length = .ok (whole.drop offset.toInt.toNat)
  /-- With a length it stops after so many of those. -/
  window : ∀ offset length : Int32, 0 ≤ offset.toInt → 0 < length.toInt →
    s.listed ds k filter name offset length =
      .ok ((whole.drop offset.toInt.toNat).take length.toInt.toNat)
  /-- Pages of one size make up the whole. -/
  tiles : whole.length < 2147483648 → ∀ size : Int32, 0 < size.toInt →
    Tiles (s.listed ds k filter name) whole size
  /-- No listing changes anything, so pages that are asked for in a row come from one whole. -/
  unchanged : ∀ offset length : Int32, 0 ≤ offset.toInt → length.toInt ≠ 0 →
    ((s.list k filter offset length name).run Directory.network ds).state = ds

/-- A directory without faults pages its listings. -/
theorem Leads.paged (h : s.Leads name ds b d) (hconfig : d.config = b) (hd : d.Faultless)
    (hfilter : filter.Searchable) (k : Kind) :
    s.Paged ds k filter name d (d.contents.matching k filter) (shownHandles d b k filter) := by
  have hwindow : ∀ offset length : Int32, 0 ≤ offset.toInt → 0 < length.toInt →
      s.listed ds k filter name offset length =
        .ok (((shownHandles d b k filter).drop offset.toInt.toNat).take length.toInt.toNat) := by
    intro offset length ho hl
    obtain ⟨page, hspans, hrange⟩ := Page.exists_ofRange? ho (Int.ne_of_gt hl)
    rw [(h.list hd hfilter hrange).1, hspans.window_of_pos hl]
  have hrest : ∀ offset length : Int32, 0 ≤ offset.toInt → length.toInt < 0 →
      s.listed ds k filter name offset length =
        .ok ((shownHandles d b k filter).drop offset.toInt.toNat) := by
    intro offset length ho hl
    obtain ⟨page, hspans, hrange⟩ := Page.exists_ofRange? ho (Int.ne_of_lt hl)
    rw [(h.list hd hfilter hrange).1, hspans.window_of_neg hl]
  constructor
  case total => exact hrest 0 (-1) (by decide) (by decide)
  case handles =>
    rw [hconfig]
    rfl
  case ascending => exact d.contents.matching_ascending k filter
  case shown =>
    intro id
    exact Contents.mem_matching_iff
  case distinct => exact nodup_shownHandles d b k filter
  case rest => exact hrest
  case window => exact hwindow
  case tiles =>
    intro hshort size hsize
    exact tiles_of_windows hsize hshort fun o ho => hwindow o size ho hsize
  case unchanged =>
    intro offset length ho hl
    obtain ⟨page, -, hrange⟩ := Page.exists_ofRange? ho hl
    exact (h.list hd hfilter hrange).2

/-- Pages tile the listing. In every state of directories without faults, for either kind and every
filter and name that are not refused, there is a directory of that name whose entities are listed,
each once and by ascending local ids; and whatever the offset and the length, a listing answers the
part of the whole that they span, so that the pages of any size make up the whole. -/
theorem pages_tile {s : Store} {ds : List Directory} (hover : s.Over ds)
    (hfaultless : ∀ d ∈ ds, d.Faultless) (k : Kind) {filter : Filter}
    (hfilter : filter.Searchable) {name : Option String} (hname : s.Known name) :
    ∃ d ∈ ds, s.resolve name = .ok d.config ∧ Directory.at? d.config.id ds = some d ∧
      ∃ ids whole, s.Paged ds k filter name d ids whole := by
  obtain ⟨b, -, d, hd, rfl, hleads⟩ := hover.leads hname
  exact ⟨d, hd, hleads.resolve, hleads.at?, _, _, hleads.paged rfl (hfaultless d hd) hfilter k⟩

/-- Three users of the other backend, on pages of two. -/
theorem pages_tile_south :
    let s : Store := ⟨.standard, .poles⟩
    let contents := ((Contents.empty.seedUser "u.3" "eve" "pw").seedUser "u.1" "ann" "pw").seedUser
      "u.2" "bob" "pw"
    let ds := Registry.poles.ordered.map fun b => { Directory.new b with contents }
    let user (id : String) : User := ⟨EntityId.encode ⟨2147483647, id⟩, "south"⟩
    let answer := s.listed ds .user .all (some "SOUTH")
    answer 0 (-1) = .ok [user "u.1", user "u.2", user "u.3"] ∧
      answer 2 2 = .ok [user "u.3"] ∧ answer 3 2 = .ok [] ∧
      Tiles answer [user "u.1", user "u.2", user "u.3"] 2 := by
  intro s contents ds user answer
  have hall : answer 0 (-1) = .ok [user "u.1", user "u.2", user "u.3"] := rfl
  have hfaultless : ∀ d ∈ ds, d.Faultless := by
    intro d hd
    obtain ⟨b, -, rfl⟩ := List.mem_map.1 hd
    rfl
  have hfilter : Filter.Searchable .all := by
    intro reason hblank
    cases hblank
  have hname : s.Known (some "SOUTH") := by
    rintro n hn ⟨-, hnobody⟩
    have hsouth := hnobody ⟨2147483647, "south", 0, true, .empty⟩ (by decide)
    rw [← Option.some.inj hn] at hsouth
    exact hsouth (by decide)
  obtain ⟨d, -, -, -, ids, whole, hpaged⟩ :=
    pages_tile (over_poles ds rfl) hfaultless .user hfilter hname
  have hwhole : whole = [user "u.1", user "u.2", user "u.3"] :=
    Except.ok.inj (hpaged.total.symm.trans hall)
  subst hwhole
  refine ⟨hall, ?_, ?_, ?_⟩
  · exact hpaged.window 2 2 (by decide) (by decide)
  · exact hpaged.window 3 2 (by decide) (by decide)
  · exact hpaged.tiles (by decide) 2 (by decide)

end Store

end Federation
