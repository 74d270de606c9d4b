import Federation.Proofs.Directory.Effects

/-!
# Federation.Proofs.Directory.Faultless — directories without planned faults

A directory without planned faults answers every request that it offers from its records, and
changes nothing but them. In a list of directories a request to it changes nothing else either,
and a request that leaves its records as they are changes nothing at all.
-/

namespace Federation.Directory

variable {d : Directory} {r : Request}

/-- No method of the directory has a planned fault. -/
def Faultless (d : Directory) : Prop := d.faults = []

/-- The directory with other records. -/
def withContents (d : Directory) (contents : Contents) : Directory := { d with contents }

/-- Other records bring no faults. -/
theorem Faultless.withContents (h : d.Faultless) (c : Contents) : (d.withContents c).Faultless := h

/-- Directories that were only filled with records offer all changes and have no planned faults. -/
theorem of_mem_filled {bs : List BackendConfig} {c : Contents}
    (hd : d ∈ bs.map fun b => (Directory.new b).withContents c) :
    d.mode = .full ∧ d.Faultless := by
  obtain ⟨b, -, rfl⟩ := List.mem_map.1 hd
  exact ⟨rfl, rfl⟩

/-! ## Requests -/

/-- A call is answered from the records. -/
theorem Faultless.call (h : d.Faultless) (r : Request) :
    d.call r = ⟨(d.respond r).1, d.withContents (d.respond r).2, [.request r]⟩ := by
  have hnone : d.faults.call r.method = (none, d.faults) := by
    rw [show d.faults = [] from h]
    rfl
  simp only [Directory.call, hnone]
  rfl

/-- So is every request that the directory offers. -/
theorem Faultless.serve (h : d.Faultless) (hr : d.mode.offers r = true) :
    d.serve r = ⟨(d.respond r).1, d.withContents (d.respond r).2, [.request r]⟩ := by
  have hsingle : d.single r = d.call r := if_pos hr
  rw [← h.call r]
  cases r with
  | claimsFor k id metas =>
    -- no directory has a method of its own for this
    simp only [Mode.offers, Bool.false_eq_true] at hr
  | addAll k payloads => exact if_pos hr
  | _ => exact hsingle

/-- Requests that ask for no change are offered in every mode, except for selections of claims. -/
theorem offers_of_read (m : Mode) (hr : r.isWrite = false)
    (hselect : ∀ k id metas, r ≠ .claimsFor k id metas) : m.offers r = true := by
  cases r with
  | claimsFor k id metas => exact absurd rfl (hselect k id metas)
  | isPresent | find | list | memberships | isMember | claims | authenticate =>
    cases m with
    | full => rfl
    | addOnly => rfl
    | readOnly => rfl
  | _ => contradiction

/-! ## Lists of directories -/

/-- A request to the directory that a backend id leads to. -/
theorem Faultless.serveAt {b : Int32} {ds : List Directory} (h : d.Faultless)
    (hd : at? b ds = some d) (hr : d.mode.offers r = true) :
    (serveAt b r ds).outcome = (d.respond r).1 ∧ (serveAt b r ds).log = [.request r] ∧
      at? b (serveAt b r ds).state = some (d.withContents (d.respond r).2) := by
  obtain ⟨houtcome, hlog, hstate⟩ := serveAt_of_some (r := r) hd
  rw [h.serve hr] at houtcome hlog hstate
  exact ⟨houtcome, hlog, hstate⟩

/-- If it leaves the records as they are, it leaves everything as it is. -/
theorem Faultless.state_serveAt {b : Int32} {ds : List Directory} (h : d.Faultless)
    (hd : at? b ds = some d) (hr : d.mode.offers r = true) (hsame : (d.respond r).2 = d.contents) :
    (Directory.serveAt b r ds).state = ds := by
  obtain ⟨hanswers, front, back, rfl, hfront⟩ := at?_eq_some_iff.1 hd
  rw [serveAt_append hfront hanswers, h.serve hr, hsame]
  rfl

/-! ## Reads -/

section Reads

variable {b : Int32} {ds : List Directory}

/-- A read leaves the records as they are. -/
theorem respond_of_read (d : Directory) (hr : r.isWrite = false) :
    (d.respond r).2 = d.contents := by
  rcases d.respond_cases r with hrespond | ⟨e, hrespond⟩
  · rw [hrespond]
    rcases d.contents.respond_effect r with hsame | ⟨hwrite, -⟩
    · exact hsame
    · rw [hr] at hwrite
      contradiction
  · rw [hrespond]

/-- A directory without faults answers a read from its records, and nothing is changed. -/
theorem Faultless.serve_read (h : d.Faultless) (hat : at? b ds = some d) (hr : r.isWrite = false)
    (hselect : ∀ k id metas, r ≠ .claimsFor k id metas) :
    network.serve b r ds = ⟨(d.respond r).1, ds, [.request r]⟩ := by
  obtain ⟨hanswers, front, back, rfl, hfront⟩ := at?_eq_some_iff.1 hat
  show Directory.serveAt b r (front ++ d :: back) = _
  rw [serveAt_append hfront hanswers, h.serve (offers_of_read d.mode hr hselect),
    d.respond_of_read hr]
  rfl

/-- It says whether an entity is there, -/
theorem Faultless.serve_isPresent (h : d.Faultless) (hat : at? b ds = some d) (k : Kind)
    (l : String) :
    network.serve b (.isPresent k l) ds =
      ⟨.ok ((d.contents.entities k).contains l), ds, [.request (.isPresent k l)]⟩ :=
  h.serve_read hat rfl (by rintro _ _ _ ⟨⟩)

/-- what the memberships of an entity are, -/
theorem Faultless.serve_memberships (h : d.Faultless) (hat : at? b ds = some d) (k : Kind)
    (l : String) :
    network.serve b (.memberships k l) ds =
      ⟨.ok (d.contents.membershipsOf k l), ds, [.request (.memberships k l)]⟩ :=
  h.serve_read hat rfl (by rintro _ _ _ ⟨⟩)

/-- and whether there is a membership. -/
theorem Faultless.serve_isMember (h : d.Faultless) (hat : at? b ds = some d) (l m : String) :
    network.serve b (.isMember l m) ds =
      ⟨.ok (d.contents.memberships.contains ⟨l, m⟩), ds, [.request (.isMember l m)]⟩ :=
  h.serve_read hat rfl (by rintro _ _ _ ⟨⟩)

end Reads

/-! ## What stays -/

/-- A call changes nothing but the records. -/
theorem Faultless.state_single (h : d.Faultless) (r : Request) :
    ∃ c, (d.single r).state = d.withContents c := by
  unfold single
  split
  · rw [h.call]
    exact ⟨_, rfl⟩
  · exact ⟨d.contents, rfl⟩

/-- A batch that is worked off one by one changes nothing but the records. -/
theorem Faultless.state_addEach (h : d.Faultless) (k : Kind) (payloads : List (Payload k)) :
    ∃ c, (Backend.addEach single k payloads d).2.1 = d.withContents c := by
  induction payloads generalizing d with
  | nil => exact ⟨d.contents, rfl⟩
  | cons p rest ih =>
    obtain ⟨c, hfirst⟩ := h.state_single (.add k p)
    cases houtcome : (single (.add k p) d).outcome with
    | error e =>
      simp only [Backend.addEach, houtcome, hfirst]
      exact ⟨c, rfl⟩
    | ok id =>
      obtain ⟨c', hrest⟩ := ih (h.withContents c)
      simp only [Backend.addEach, houtcome, hfirst, hrest]
      exact ⟨c', rfl⟩

/-- No request changes anything but the records. -/
theorem Faultless.state_serve (h : d.Faultless) (r : Request) :
    ∃ c, (d.serve r).state = d.withContents c := by
  unfold Directory.serve
  split
  · exact h.state_single (.claims _ _)
  · split
    · rw [h.call]
      exact ⟨_, rfl⟩
    · exact h.state_addEach _ _
  · exact h.state_single _

/-- All of a directory but its records. -/
def shell (d : Directory) : Directory := d.withContents .empty

theorem Faultless.shell_serve (h : d.Faultless) (r : Request) :
    (d.serve r).state.shell = d.shell := by
  obtain ⟨c, hstate⟩ := h.state_serve r
  rw [hstate]
  rfl

/-- Directories without faults stay as they are but for their records, whatever they are asked. -/
theorem shells_serveAt {b : Int32} {r : Request} {ds : List Directory}
    (h : ∀ d ∈ ds, d.Faultless) : (Directory.serveAt b r ds).state.map shell = ds.map shell := by
  induction ds with
  | nil => rfl
  | cons d rest ih =>
    obtain ⟨hd, hrest⟩ := List.forall_mem_cons.1 h
    cases hb : d.answersTo b with
    | true => simp only [Directory.serveAt, hb, if_true, List.map_cons, hd.shell_serve r]
    | false =>
      simp only [Directory.serveAt, hb, Bool.false_eq_true, if_false, List.map_cons, ih hrest]

/-- That they have no faults is one of the things that stay. -/
theorem faultless_of_shells {ds ds' : List Directory} (h : ds'.map shell = ds.map shell)
    (hds : ∀ d ∈ ds, d.Faultless) : ∀ d ∈ ds', d.Faultless := by
  intro d' hd'
  have hmem : d'.shell ∈ ds.map shell := h ▸ List.mem_map_of_mem hd'
  obtain ⟨d, hd, hsame⟩ := List.mem_map.1 hmem
  have hfaults : d'.faults = d.faults := (congrArg faults hsame).symm
  exact hfaults.trans (hds d hd)

/-- So are their configurations. -/
theorem configs_of_shells {ds ds' : List Directory} (h : ds'.map shell = ds.map shell) :
    ds'.map (·.config) = ds.map (·.config) := by
  have hconfigs := congrArg (List.map config) h
  rw [List.map_map, List.map_map] at hconfigs
  exact hconfigs

/-- A dialogue with directories without faults changes nothing but their records. -/
theorem shells_run {α : Type} (dialogue : Dialogue α) {ds : List Directory}
    (h : ∀ d ∈ ds, d.Faultless) : (dialogue.run network ds).state.map shell = ds.map shell := by
  induction dialogue generalizing ds with
  | done a => rfl
  | fail e => rfl
  | ask b r next ih =>
    have hfirst : (network.serve b r ds).state.map shell = ds.map shell := shells_serveAt h
    exact (ih _ (faultless_of_shells hfirst h)).trans hfirst
  | probe b uri next ih => exact ih _ h
  | note e next ih => exact ih h

/-- Directories are known by what stays of them and their records. -/
theorem eq_of_shells {ds ds' : List Directory} (hshells : ds'.map shell = ds.map shell)
    (hrecords : records ds' = records ds) : ds' = ds := by
  have hjoin : ∀ l : List Directory,
      List.zipWith Directory.withContents (l.map shell) (records l) = l := by
    intro l
    rw [records, List.zipWith_map, List.zipWith_self]
    exact List.map_id' l
  rw [← hjoin ds', ← hjoin ds, hshells, hrecords]

/-- A read among them changes nothing at all, -/
theorem state_serveAt_of_read {b : Int32} {ds : List Directory} (hr : r.isWrite = false)
    (h : ∀ d ∈ ds, d.Faultless) : (Directory.serveAt b r ds).state = ds :=
  eq_of_shells (shells_serveAt h) (records_serveAt_of_read hr ds)

/-- nor does a dialogue that asks them for no change. -/
theorem state_run_of_read {α : Type} {dialogue : Dialogue α}
    (hreads : dialogue.Puts fun _ r => r.isWrite = false) {ds : List Directory}
    (h : ∀ d ∈ ds, d.Faultless) : (dialogue.run network ds).state = ds :=
  eq_of_shells (shells_run dialogue h) (records_run_of_read hreads ds)

end Federation.Directory
