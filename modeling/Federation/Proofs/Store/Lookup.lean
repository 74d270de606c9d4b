import Federation.Proofs.Directory.Passwords
import Federation.Proofs.Store.NamedLogin
import Federation.Proofs.Store.Paging

/-!
# Federation.Proofs.Store.Lookup — one choice in three operations

Several entities of a backend can carry the same claim. A look-up by the claim, a listing by it and
a login with it go different ways through the store and the directory, and all come to the first
carrier: the look-up answers its handle, the listing starts with it, and nobody else is logged in.
-/

namespace Federation

namespace Store

variable {s : Store} {ds : List Directory} {k : Kind} {claim : Claim} {name : String}
  {b : BackendConfig} {d : Directory} {credentials : List Credential} {user : User}

/-! ## Logins -/

/-- The answer to a login that names a backend. -/
def login (s : Store) (ds : List Directory) (claim : Claim) (credentials : List Credential)
    (name : String) : Except StoreError User :=
  ((s.authenticate claim credentials (some name)).run Directory.network ds).result

/-- A login without a value or without credentials is refused. -/
theorem login_of_blank (s : Store) (ds : List Directory) (name : String)
    (hblank : (claim.isBlank || credentials.isEmpty) = true) :
    s.login ds claim credentials name = .error (.authenticationFailed none) :=
  Login.result_of_blank (x := ⟨s, Directory.network, ds, claim, credentials, some name⟩) hblank

/-- Any other is answered by what the directory that is named says. -/
theorem login_of_busy (hname : s.Names name b)
    (hbusy : ¬(claim.isBlank || credentials.isEmpty) = true) :
    s.login ds claim credentials name =
      (Oracle.ofState Directory.network ds).answerAt claim credentials b :=
  Login.result_naming (x := ⟨s, Directory.network, ds, claim, credentials, none⟩) hbusy hname

/-- Without faults the directory says what it makes of its records. -/
theorem answer_ofState (hd : d.Faultless) (hat : Directory.at? b.id ds = some d) :
    (Oracle.ofState Directory.network ds).answer b.id (.authenticate claim credentials) =
      (d.respond (.authenticate claim credentials)).1 :=
  congrArg Reply.outcome (hd.serve_read hat rfl (by rintro _ _ _ ⟨⟩))

/-- Who is logged in is the first carrier of the claim, with the stored password. -/
theorem of_login (hname : s.Names name b) (hd : d.Faultless)
    (hat : Directory.at? b.id ds = some d) (h : s.login ds claim credentials name = .ok user) :
    ∃ l, d.contents.FirstCarrier .user claim l ∧ d.contents.accepts l credentials = true ∧
      user = .of b l := by
  have hbusy : ¬(claim.isBlank || credentials.isEmpty) = true := by
    intro hblank
    rw [login_of_blank s ds name hblank] at h
    contradiction
  rw [login_of_busy hname hbusy] at h
  cases (Oracle.ofState Directory.network ds).reaction claim credentials b with
  | accepted l hsaid _ hanswer =>
    rw [answer_ofState hd hat] at hsaid
    have huser : user = .of b l := Except.ok.inj (h.symm.trans hanswer)
    -- a directory that is out of order would have let nobody in
    rcases d.respond_cases (.authenticate claim credentials) with hrecords | ⟨e, hdown⟩
    · rw [hrecords] at hsaid
      obtain ⟨hfirst, haccepts⟩ := Contents.authenticate_eq_ok_iff.1 hsaid
      exact ⟨l, hfirst, haccepts, huser⟩
    · rw [hdown] at hsaid
      contradiction
  | refused _ _ hanswer | failed _ _ _ hanswer =>
    rw [h] at hanswer
    contradiction

/-! ## Look-ups -/

/-- The answer to a look-up of an entity by a claim. -/
def lookup (s : Store) (ds : List Directory) (k : Kind) (claim : Claim) (name : String) :
    Except StoreError (Handle k) :=
  ((s.getByClaim k claim (some name)).run Directory.network ds).result

/-- A look-up by a claim that can be searched for is one request. -/
theorem Leads.getByClaim (h : s.Leads (some name) ds b d) (hclaim : claim.checkSearch = .ok ()) :
    s.getByClaim k claim (some name) = Dialogue.demand (.find k b.name) b.id (.find k claim) >>=
      fun
      | some l => .done (.of b l)
      | none => .fail (.notFound (.carrier k claim.uri b.name)) := by
  rw [Store.getByClaim, hclaim, h.resolve]
  rfl

/-- A directory without faults answers a look-up with the entity that a search finds. -/
theorem Leads.lookup (h : s.Leads (some name) ds b d) (hd : d.Faultless)
    (hclaim : claim.checkSearch = .ok ()) :
    s.lookup ds k claim name = match d.contents.find? k claim with
      | some l => .ok (.of b l)
      | none => .error (.notFound (.carrier k claim.uri b.name)) := by
  have hserve : Directory.network.serve b.id (.find k claim) ds =
      ⟨.ok (d.contents.find? k claim), ds, [.request (.find k claim)]⟩ :=
    hd.serve_read h.at? rfl (by rintro _ _ _ ⟨⟩)
  rw [Store.lookup, h.getByClaim hclaim, Dialogue.demand_bind]
  simp only [Dialogue.run, hserve]
  cases d.contents.find? k claim with
  | none => rfl
  | some l => rfl

/-- What is listed first is what a search finds. -/
theorem head?_shownHandles (d : Directory) (b : BackendConfig) (k : Kind) (claim : Claim) :
    (shownHandles d b k (.byClaim claim)).head? = (d.contents.find? k claim).map (.of b) := by
  rw [shownHandles, List.head?_map, Contents.find?]
  rfl

/-! ## The choice -/

/-- The look-up and the listings by a claim make the same choice among the carriers of the claim
in the directory. -/
structure Chooses (s : Store) (ds : List Directory) (k : Kind) (claim : Claim) (name : String)
    (b : BackendConfig) (d : Directory) : Prop where
  /-- The handle that is looked up is the one on a page for one entry, -/
  onPage : ∀ h, s.lookup ds k claim name = .ok h ↔
    s.listed ds k (.byClaim claim) (some name) 0 1 = .ok [h]
  /-- which is the first one of the whole listing, -/
  onTop : ∀ h, s.listed ds k (.byClaim claim) (some name) 0 1 = .ok [h] ↔
    ∃ rest, s.listed ds k (.byClaim claim) (some name) 0 (-1) = .ok (h :: rest)
  /-- and that of the first carrier. -/
  first : ∀ h, s.lookup ds k claim name = .ok h ↔
    ∃ l, d.contents.FirstCarrier k claim l ∧ h = .of b l
  /-- Nothing is found exactly if the page is empty, -/
  emptyPage : (∃ e, s.lookup ds k claim name = .error e ∧ e.kind = .notFound) ↔
    s.listed ds k (.byClaim claim) (some name) 0 1 = .ok []
  /-- which is so exactly if the whole listing is. -/
  emptyWhole : s.listed ds k (.byClaim claim) (some name) 0 1 = .ok [] ↔
    s.listed ds k (.byClaim claim) (some name) 0 (-1) = .ok []
  /-- The look-up does not fail in another way. -/
  nothingElse : ∀ e, s.lookup ds k claim name = .error e → e.kind = .notFound

/-- A directory without faults makes one choice. -/
theorem Leads.chooses (h : s.Leads (some name) ds b d) (hconfig : d.config = b)
    (hd : d.Faultless) (hclaim : (Filter.byClaim claim).Searchable) (k : Kind) :
    s.Chooses ds k claim name b d := by
  have hlookup := h.lookup (k := k) hd hclaim.check
  have hpaged := h.paged hconfig hd hclaim k
  have hwhole := hpaged.total
  have hpage : s.listed ds k (.byClaim claim) (some name) 0 1 =
      .ok ((shownHandles d b k (.byClaim claim)).take 1) :=
    hpaged.window 0 1 (by decide) (by decide)
  have hhead := head?_shownHandles d b k claim
  have hfirst : ∀ l, d.contents.FirstCarrier k claim l ↔ d.contents.find? k claim = some l :=
    fun l => Contents.find?_eq_some_iff.symm
  cases hfound : d.contents.find? k claim with
  | none =>
    -- nobody is listed, and nobody is found
    rw [hfound, Option.map_none, List.head?_eq_none_iff] at hhead
    rw [hhead] at hpage hwhole
    simp only [hfound] at hlookup hfirst
    constructor
    case onPage => simp [hlookup, hpage]
    case onTop => simp [hpage, hwhole]
    case first => simp [hlookup, hfirst]
    case emptyPage => simp [hlookup, hpage, StoreError.kind]
    case emptyWhole => simp [hpage, hwhole]
    case nothingElse => simp [hlookup, StoreError.kind]
  | some l =>
    -- the entity that is found is the first that is listed
    rw [hfound, Option.map_some, List.head?_eq_some_iff] at hhead
    obtain ⟨rest, hlisted⟩ := hhead
    rw [hlisted] at hpage hwhole
    simp only [hfound, Option.some.injEq] at hlookup hfirst
    constructor
    case onPage => simp [hlookup, hpage]
    case onTop => simp [hpage, hwhole]
    case first => simp [hlookup, hfirst, eq_comm]
    case emptyPage => simp [hlookup, hpage]
    case emptyWhole => simp [hpage, hwhole]
    case nothingElse => simp [hlookup]

/-- A look-up, a listing and a login pick the same entity. In every state of directories without
faults, for every claim with a URI and a value and every name of a backend, and for users and groups
alike: the handle that a look-up by the claim answers is the one on a page for one entry, which is
the first of the whole listing and that of the first carrier of the claim; nothing is found exactly
if nothing is listed; and whatever the credentials, a login with the claim lets only the user in
that the look-up answers. -/
theorem lookup_listing_login_agree {s : Store} {ds : List Directory} (hover : s.Over ds)
    (hfaultless : ∀ d ∈ ds, d.Faultless) {claim : Claim} (huri : claim.uri ≠ "")
    (hvalue : claim.value ≠ "") {name : String} {b : BackendConfig} (hname : s.Names name b) :
    ∃ d ∈ ds, Directory.at? b.id ds = some d ∧ (∀ k, s.Chooses ds k claim name b d) ∧
      ∀ credentials user, s.login ds claim credentials name = .ok user →
        s.lookup ds .user claim name = .ok user := by
  have hresolve : s.resolve (some name) = .ok b :=
    (resolve_of_ne_empty hname.given).trans hname.leads
  obtain ⟨d, hd, hconfig, hat⟩ := hover.at? (mem_of_resolve hresolve)
  have hleads : s.Leads (some name) ds b d := ⟨hresolve, hat⟩
  have hclaim : (Filter.byClaim claim).Searchable := by
    rintro _ (hblank | _)
    exact hblank.elim huri hvalue
  have hchooses : ∀ k, s.Chooses ds k claim name b d :=
    hleads.chooses hconfig (hfaultless d hd) hclaim
  refine ⟨d, hd, hat, hchooses, ?_⟩
  intro credentials user hlogin
  obtain ⟨l, hfirst, -, huser⟩ := of_login hname (hfaultless d hd) hat hlogin
  exact ((hchooses .user).first user).2 ⟨l, hfirst, huser⟩

/-- Two users carry one name. The first of them is chosen, and nobody else is let in by it. -/
theorem lookup_listing_login_agree_north :
    let s : Store := ⟨.standard, .poles⟩
    let contents := (Contents.empty.seedUser "u.2" "ann" "second").seedUser "u.1" "ann" "first"
    let ds := Registry.poles.ordered.map fun b => (Directory.new b).withContents contents
    let claim : Claim := ⟨Claim.usernameUri, "ann"⟩
    let ann : User := ⟨EntityId.encode ⟨-2147483648, "u.1"⟩, "north"⟩
    s.listed ds .user (.byClaim claim) (some "North") 0 1 = .ok [ann] ∧
      s.lookup ds .user claim "North" = .ok ann ∧
      ∀ credentials user, s.login ds claim credentials "North" = .ok user → user = ann := by
  intro s contents ds claim ann
  have hlisted : s.listed ds .user (.byClaim claim) (some "North") 0 1 = .ok [ann] := rfl
  have hfaultless : ∀ d ∈ ds, d.Faultless := fun _ hd => (Directory.of_mem_filled hd).2
  have hname : s.Names "North" ⟨-2147483648, "north", 0, true, .empty⟩ := ⟨by decide, rfl⟩
  obtain ⟨d, -, -, hchooses, hlogins⟩ := lookup_listing_login_agree (over_poles ds rfl) hfaultless
    (by decide : claim.uri ≠ "") (by decide) hname
  have hlookup : s.lookup ds .user claim "North" = .ok ann :=
    ((hchooses .user).onPage ann).2 hlisted
  refine ⟨hlisted, hlookup, ?_⟩
  intro credentials user hlogin
  exact Except.ok.inj ((hlogins credentials user hlogin).symm.trans hlookup)

end Store

end Federation
