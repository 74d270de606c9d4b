import Federation.Proofs.Store.Ground

/-!
# Federation.Proofs.Store.SelectedClaims — selected claims are the filtered claims

A backend that has no way of its own to select claims reads all claims of the entity and keeps
those that a meta claim describes. Over such backends a selection of the store is the plain read,
filtered: it answers in the same order and as often, it fails in the same way, and of the meta
claims only the URIs count. Without meta claims nothing is selected, and nobody is asked.
-/

namespace Federation

/-! ## Selecting from all claims -/

/-- A claim is selected if a meta claim has its URI. -/
theorem Claim.select_eq_filter (metas : List MetaClaim) (claims : List Claim) :
    Claim.select metas claims = claims.filter fun c => decide (∃ m ∈ metas, m.uri = c.uri) := by
  refine List.filter_congr fun c _ => ?_
  rw [Bool.eq_iff_iff, List.any_eq_true, decide_eq_true_iff]
  simp only [Claim.describedBy, decide_eq_true_eq]
  exact exists_congr fun m => and_congr_right fun _ => eq_comm

/-- Whatever backends answer, they select claims from all claims of the entity. -/
def Network.SelectsFromAll {ω : Type} (net : Network ω) : Prop :=
  ∀ (b : Int32) (k : Kind) (id : String) (metas : List MetaClaim) (w : ω),
    net.serve b (.claimsFor k id metas) w =
      Backend.selectClaims (fun r => net.serve b r) k id metas w

/-- Directories do so, and so does an id that leads to none. -/
theorem Directory.network_selectsFromAll : Directory.network.SelectsFromAll := by
  intro b k id metas ds
  show serveAt b (.claimsFor k id metas) ds =
    Backend.selectClaims (fun r => serveAt b r) k id metas ds
  induction ds with
  | nil => rfl
  | cons d rest ih =>
    by_cases hd : d.answersTo b = true
    · simp only [serveAt, Backend.selectClaims, if_pos hd]
      rfl
    · simp only [serveAt, Backend.selectClaims, if_neg hd, ih]

namespace Store

variable {ω : Type} {net : Network ω} {s : Store} {k : Kind} {uniqueId : String} {w : ω}
  {metas metas' : List MetaClaim}

/-! ## One selection -/

/-- With at least one meta claim, a selection makes its answer of what the plain read answers. -/
theorem result_claimsFor (hnet : net.SelectsFromAll) (hmetas : metas ≠ []) :
    ((s.claimsFor k uniqueId metas).run net w).result =
      ((s.claims k uniqueId).run net w).result.map (Claim.select metas) := by
  have hbusy : metas.isEmpty = false := Bool.eq_false_iff.2 fun h => hmetas (List.isEmpty_iff.1 h)
  unfold claims claimsFor
  cases s.locate k uniqueId with
  | error e => rfl
  | ok p =>
    -- both put one request, and the backend answers the one from the other
    have hserve := congrArg Reply.outcome (hnet p.backend.id k p.localId metas w)
    simp only [Dialogue.ofExcept, Dialogue.done_bind, hbusy, Bool.false_eq_true, if_false]
    rw [Dialogue.result_demand, Dialogue.result_demand, hserve]
    cases hclaims : (net.serve p.backend.id (.claims k p.localId) w).outcome with
    | error e =>
      simp only [Backend.selectClaims, hclaims]
      rfl
    | ok claims =>
      simp only [Backend.selectClaims, hclaims]
      rfl

/-- Without meta claims a selection of an entity with a valid id is empty, and nobody is asked. -/
theorem silent_claimsFor_nil {b : Int32} {l : String}
    (hread : s.registry.decode uniqueId = .ok ⟨b, l⟩) :
    Silent net (s.claimsFor k uniqueId []) w (.ok []) := by
  obtain ⟨c, -, -, hlocate⟩ := locate_of_decode hread k
  rw [claimsFor, hlocate]
  exact silent_done _

/-- The claim is in the answer to a selection. -/
def Picks (net : Network ω) (s : Store) (k : Kind) (uniqueId : String) (w : ω)
    (metas : List MetaClaim) (c : Claim) : Prop :=
  ∃ claims, ((s.claimsFor k uniqueId metas).run net w).result = .ok claims ∧ c ∈ claims

/-- A claim is in the answer if it is one of all claims and a meta claim has its URI. -/
theorem picks_iff (hnet : net.SelectsFromAll) {c : Claim} :
    Picks net s k uniqueId w metas c ↔
      ∃ claims, ((s.claims k uniqueId).run net w).result = .ok claims ∧ c ∈ claims ∧
        ∃ m ∈ metas, m.uri = c.uri := by
  unfold Picks
  by_cases hmetas : metas = []
  · subst hmetas
    constructor
    · rintro ⟨claims, hclaims, hc⟩
      -- the answer is empty, if there is one
      exfalso
      unfold claimsFor at hclaims
      cases hlocate : s.locate k uniqueId with
      | error e =>
        rw [hlocate] at hclaims
        contradiction
      | ok p =>
        rw [hlocate] at hclaims
        rw [← Except.ok.inj hclaims] at hc
        exact List.not_mem_nil hc
    · rintro ⟨-, -, -, m, hm, -⟩
      exact absurd hm List.not_mem_nil
  · rw [result_claimsFor hnet hmetas]
    cases ((s.claims k uniqueId).run net w).result with
    | error e => simp only [Except.map, reduceCtorEq, false_and, exists_false]
    | ok all =>
      simp only [Except.map, Claim.select_eq_filter, Except.ok.injEq, exists_eq_left',
        List.mem_filter, decide_eq_true_eq]

/-! ## All selections -/

/-- What selections of claims of an entity have to do with the plain read of all its claims. -/
structure Filters (net : Network ω) (s : Store) (k : Kind) (uniqueId : String) (w : ω) : Prop where
  /-- The claims whose URI a meta claim has are answered, in their order and as often. -/
  filtered : ∀ metas ≠ [], ∀ claims, ((s.claims k uniqueId).run net w).result = .ok claims →
    ((s.claimsFor k uniqueId metas).run net w).result =
      .ok (claims.filter fun c => decide (∃ m ∈ metas, m.uri = c.uri))
  /-- Where the plain read fails, a selection fails with the same error. -/
  failed : ∀ metas ≠ [], ∀ e, ((s.claims k uniqueId).run net w).result = .error e →
    ((s.claimsFor k uniqueId metas).run net w).result = .error e
  /-- Nothing but the set of the URIs counts. -/
  byUri : ∀ metas metas' : List MetaClaim,
    (∀ uri, uri ∈ metas.map (·.uri) ↔ uri ∈ metas'.map (·.uri)) →
    ((s.claimsFor k uniqueId metas).run net w).result =
      ((s.claimsFor k uniqueId metas').run net w).result
  /-- More meta claims select what each of them selects. -/
  union : ∀ metas metas' c, Picks net s k uniqueId w (metas ++ metas') c ↔
    Picks net s k uniqueId w metas c ∨ Picks net s k uniqueId w metas' c
  /-- For no meta claims nobody is asked, -/
  nothing : ∀ b l, s.registry.decode uniqueId = .ok ⟨b, l⟩ →
    Silent net (s.claimsFor k uniqueId []) w (.ok [])
  /-- though the backend would have said the same. -/
  spared : ∀ b l, s.registry.decode uniqueId = .ok ⟨b, l⟩ →
    ∀ claims, ((s.claims k uniqueId).run net w).result = .ok claims →
      (net.serve b (.claimsFor k l []) w).outcome = .ok []

/-- Meta claims with the same URIs select alike. -/
theorem result_claimsFor_congr (hnet : net.SelectsFromAll)
    (huris : ∀ uri, uri ∈ metas.map (·.uri) ↔ uri ∈ metas'.map (·.uri)) :
    ((s.claimsFor k uniqueId metas).run net w).result =
      ((s.claimsFor k uniqueId metas').run net w).result := by
  have hdescribed : ∀ uri, (∃ m ∈ metas, m.uri = uri) ↔ ∃ m ∈ metas', m.uri = uri := by
    intro uri
    rw [← List.mem_map, ← List.mem_map]
    exact huris uri
  by_cases hmetas : metas = []
  · -- then there are no URIs, and so no other meta claims either
    have hmetas' : metas' = [] := by
      refine List.eq_nil_iff_forall_not_mem.2 fun m hm => ?_
      obtain ⟨m', hm', -⟩ := (hdescribed m.uri).2 ⟨m, hm, rfl⟩
      rw [hmetas] at hm'
      exact List.not_mem_nil hm'
    rw [hmetas, hmetas']
  · have hmetas' : metas' ≠ [] := by
      obtain ⟨m, hm⟩ := List.exists_mem_of_ne_nil metas hmetas
      obtain ⟨m', hm', -⟩ := (hdescribed m.uri).1 ⟨m, hm, rfl⟩
      exact List.ne_nil_of_mem hm'
    have hselect : Claim.select metas = Claim.select metas' := by
      funext claims
      simp only [Claim.select_eq_filter, hdescribed]
    rw [result_claimsFor hnet hmetas, result_claimsFor hnet hmetas', hselect]

/-- A backend that selects from all claims finds nothing for no meta claims, if the plain read of
the entity succeeds. -/
theorem outcome_claimsFor_nil (hnet : net.SelectsFromAll) {b : Int32} {l : String}
    (hread : s.registry.decode uniqueId = .ok ⟨b, l⟩) {claims : List Claim}
    (hclaims : ((s.claims k uniqueId).run net w).result = .ok claims) :
    (net.serve b (.claimsFor k l []) w).outcome = .ok [] := by
  obtain ⟨c, -, rfl, hlocate⟩ := locate_of_decode hread k
  unfold Store.claims at hclaims
  rw [hlocate] at hclaims
  have hclaims : ((Dialogue.demand (.getClaims k uniqueId) c.id (.claims k l)).run net w).result =
      .ok claims := hclaims
  rw [Dialogue.result_demand] at hclaims
  rw [hnet c.id k l [] w]
  cases hserve : (net.serve c.id (.claims k l) w).outcome with
  | error e =>
    rw [hserve] at hclaims
    contradiction
  | ok all => simp [Backend.selectClaims, hserve, Except.map, Claim.select]

/-- Over backends that select from all claims, a selection of claims of a user or group is the
plain read of its claims, filtered by the URIs of the meta claims. -/
theorem claimsFor_filters (hnet : net.SelectsFromAll) (s : Store) (k : Kind) (uniqueId : String)
    (w : ω) : Filters net s k uniqueId w := by
  constructor
  case filtered =>
    intro metas hmetas claims hclaims
    rw [result_claimsFor hnet hmetas, hclaims, Except.map, Claim.select_eq_filter]
  case failed =>
    intro metas hmetas e he
    rw [result_claimsFor hnet hmetas, he]
    rfl
  case byUri => exact fun metas metas' huris => result_claimsFor_congr hnet huris
  case union =>
    intro metas metas' c
    simp only [picks_iff hnet, List.mem_append, or_and_right, exists_or, and_or_left]
  case nothing => exact fun b l hread => silent_claimsFor_nil hread
  case spared => exact fun b l hread claims hclaims => outcome_claimsFor_nil hnet hread hclaims

/-- A user has two claims with one URI, which two meta claims of different dialects describe. -/
theorem claimsFor_filters_north :
    let s : Store := ⟨.standard, .poles⟩
    let mails : List Claim := [⟨"mail", "a@x"⟩, ⟨"phone", "1"⟩, ⟨"mail", "b@x"⟩]
    let metas : List MetaClaim := [⟨"old", "mail", .empty⟩, ⟨"new", "mail", .empty⟩]
    let ds := Registry.poles.ordered.map fun b =>
      { Directory.new b with contents := Contents.empty.setEntity .user "u.1" mails }
    let ann := EntityId.encode ⟨-2147483648, "u.1"⟩
    Directory.network.SelectsFromAll ∧
      ((s.claimsFor .user ann metas).run Directory.network ds).result =
        .ok [⟨"mail", "a@x"⟩, ⟨"mail", "b@x"⟩] ∧
      Filters Directory.network s .user ann ds := by
  intro s mails metas ds ann
  have hfilters : Filters Directory.network s .user ann ds :=
    claimsFor_filters Directory.network_selectsFromAll s .user ann ds
  have hread : s.registry.decode ann = .ok ⟨-2147483648, "u.1"⟩ := decode_north (by decide)
  obtain ⟨c, -, hid, hlocate⟩ := locate_of_decode hread .user
  have hclaims : ((s.claims .user ann).run Directory.network ds).result = .ok mails := by
    rw [claims, hlocate]
    simp only [Dialogue.ofExcept, Dialogue.done_bind, hid]
    rfl
  have hmetas : metas ≠ [] := List.cons_ne_nil _ _
  refine ⟨Directory.network_selectsFromAll, ?_, hfilters⟩
  exact (hfilters.filtered metas hmetas mails hclaims).trans (congrArg Except.ok (by decide))

end Store

end Federation
