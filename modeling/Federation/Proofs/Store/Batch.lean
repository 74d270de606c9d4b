import Mathlib.Data.List.Nodup
import Federation.Proofs.Directory.Additions
import Federation.Proofs.Session.Atomicity
import Federation.Proofs.Store.Ground

/-!
# Federation.Proofs.Store.Batch — batches and single additions

A batch of payloads and the payloads one by one come to the same. Whether the directory takes the
batch as a whole or not, and whether the store is told of a batch at all, the same handles are
given out in the same order, the same records are left, and under each handle the claims of its
own payload are read.
-/

namespace Federation

open Directory (network)

namespace Store

variable {s s' : Store} {k : Kind}

/-! ## What is accepted -/

/-- The configuration of a store decides what it accepts. -/
theorem validate_of_config (h : s.config = s'.config) (p : Payload k) :
    s.validate p = s'.validate p := by
  cases k with
  | user => simp only [validate, h]
  | group => rfl

/-- A batch is accepted if all of its payloads are, and there are any. -/
theorem validateBatch_of_forall {payloads : List (Payload k)} (hne : payloads ≠ [])
    (h : ∀ p ∈ payloads, s.validate p = .ok ()) : s.validateBatch payloads = .ok () := by
  have hall : s.validateAll payloads = .ok () := by
    clear hne
    induction payloads with
    | nil => rfl
    | cons p rest ih =>
      obtain ⟨hp, hrest⟩ := List.forall_mem_cons.1 h
      rw [validateAll, hp]
      exact ih hrest
  have hsome : ¬ payloads.isEmpty = true := fun h => hne (List.isEmpty_iff.1 h)
  rw [validateBatch, if_neg hsome, hall]

/-! ## Operations that are one request -/

/-- An operation that is one request, and asks nobody else after its answer, ends with what it
makes of the answer. -/
theorem carryOut_of_ask {ω : Type} {net : Network ω} {w : ω} {op : Operation} {b : Int32}
    {r : Request} {next : Except BackendError r.Answer → Dialogue Answer} {a : r.Answer}
    {v : Answer} (hop : s.perform op = .ask b r next)
    (hserve : (net.serve b r w).outcome = .ok a)
    (hnext : ∀ w', ((next (.ok a)).run net w').result = .ok v ∧
      ((next (.ok a)).run net w').state = w') :
    (s.carryOut net (.operate op) w).1.result = .ok v ∧
      (s.carryOut net (.operate op) w).2 = (net.serve b r w).state := by
  have hobey : s.obey (.operate op) = .ask b r next := hop
  have hrun : ((s.obey (.operate op)).run net w).result = .ok v ∧
      ((s.obey (.operate op)).run net w).state = (net.serve b r w).state := by
    rw [hobey]
    simp only [Dialogue.run, hserve, hnext, and_self]
  exact hrun

/-- A payload that is accepted is one request to the backend that the name leads to. -/
theorem perform_add {p : Payload k} {name : Option String} {b : BackendConfig}
    (hvalid : s.validate p = .ok ()) (hresolve : s.resolve name = .ok b) :
    s.perform (.add k p name) = .ask b.id (.add k p) fun
      | .ok localId => .note (.added k b.name) (.done (.handle k (.of b localId)))
      | .error e => .fail (.backendFailure (.add k b.name) e) := by
  have hadd : s.perform (.add k p name) = Answer.handle k <$> s.add k p name := rfl
  rw [hadd, add, hvalid, hresolve]
  refine congrArg (Dialogue.ask b.id (.add k p)) (funext ?_)
  rintro (e | localId)
  · rfl
  · rfl

/-- So is the question for the claims under a handle. -/
theorem perform_claims {b : BackendConfig} (hb : b ∈ s.registry.ordered) {l : String}
    (hl : l ≠ "") :
    s.perform (.claims k (Handle.of b l : Handle k).uniqueId) = .ask b.id (.claims k l) fun
      | .ok claims => .done (.claims claims)
      | .error e => .fail (.backendFailure
          (.getClaims k (Handle.of b l : Handle k).uniqueId) e) := by
  have hread : s.registry.decode (Handle.of b l : Handle k).uniqueId = .ok ⟨b.id, l⟩ :=
    Registry.decode_eq_ok_iff.2 ⟨⟨b, hb, rfl⟩, hl, rfl⟩
  obtain ⟨b', hb', hid, hlocate⟩ := locate_of_decode hread k
  have hsame := Registry.eq_of_id_eq hb' hb hid
  subst hsame
  have hclaims : s.perform (.claims k (Handle.of b' l : Handle k).uniqueId) =
      Answer.claims <$> s.claims k (Handle.of b' l : Handle k).uniqueId := rfl
  rw [hclaims, claims, hlocate]
  refine congrArg (Dialogue.ask b'.id (.claims k l)) (funext ?_)
  rintro (e | claims)
  · rfl
  · rfl

end Store

/-! ## Sites -/

/-- Where something is added: a store, a state of its directories, a backend name, and the
directory that the name leads to. -/
structure Site where
  store : Store
  name : Option String
  state : List Directory
  directory : Directory

namespace Site

variable {x y : Site} {k : Kind}

/-- The name leads to the directory, which offers additions and has no planned faults. -/
structure Ready (x : Site) : Prop where
  leads : x.store.Leads x.name x.state x.directory.config x.directory
  adds : x.directory.Adds

/-- The same site in a later state, with other records in its directory. -/
def later (x : Site) (state : List Directory) (c : Contents) : Site :=
  { x with state, directory := x.directory.withContents c }

/-- The handles that a site gives out for payloads. -/
def handles (x : Site) (payloads : List (Payload k)) : List (Handle k) :=
  (x.directory.contents.addAll k payloads).1.map (.of x.directory.config)

/-- The records of a site after payloads were added. -/
def recordsAfter (x : Site) (payloads : List (Payload k)) : Contents :=
  (x.directory.contents.addAll k payloads).2

/-- Adds a payload. -/
def add (x : Site) (p : Payload k) : Outcome × List Directory :=
  x.store.carryOut network (.operate (.add k p x.name)) x.state

/-- Adds payloads as a batch. -/
def addBatch (x : Site) (payloads : List (Payload k)) : Outcome × List Directory :=
  x.store.carryOut network (.operate (.addAll k payloads x.name)) x.state

/-- Adds payloads by operations of their own. -/
def addSingly (x : Site) (payloads : List (Payload k)) : List Outcome × List Directory :=
  x.store.course network (payloads.map fun p => .operate (.add k p x.name)) x.state

/-- What the claims under a handle are said to be. -/
def read (x : Site) (h : Handle k) : Except StoreError Answer :=
  (x.store.carryOut network (.operate (.claims k h.uniqueId)) x.state).1.result

namespace Ready

/-- A payload that is accepted gets the next handle, and the site stays ready. -/
theorem add (h : x.Ready) {p : Payload k} (hvalid : x.store.validate p = .ok ()) :
    (x.add p).1.result =
        .ok (.handle k (.of x.directory.config (x.directory.contents.add k p).1)) ∧
      (x.later (x.add p).2 (x.directory.contents.add k p).2).Ready := by
  obtain ⟨houtcome, -, hat⟩ := h.adds.faultless.serveAt h.leads.at? (h.adds.offers_add p)
  have hserve : (network.serve x.directory.config.id (.add k p) x.state).outcome =
      .ok (x.directory.contents.add k p).1 := houtcome
  have hadd : (x.add p).1.result =
        .ok (.handle k (.of x.directory.config (x.directory.contents.add k p).1)) ∧
      (x.add p).2 = (network.serve x.directory.config.id (.add k p) x.state).state :=
    Store.carryOut_of_ask (Store.perform_add hvalid h.leads.resolve) hserve
      fun _ => ⟨rfl, rfl⟩
  refine ⟨hadd.1, ⟨h.leads.resolve, ?_⟩, h.adds.withContents _⟩
  rw [hadd.2]
  exact hat

/-- Payloads that are accepted get the handles that follow each other. -/
theorem addSingly (h : x.Ready) {payloads : List (Payload k)}
    (hvalid : ∀ p ∈ payloads, x.store.validate p = .ok ()) :
    (x.addSingly payloads).1.map (·.result) = (x.handles payloads).map (.ok <| .handle k ·) ∧
      (x.later (x.addSingly payloads).2 (x.recordsAfter payloads)).Ready := by
  -- by the payloads; each of them is added at the site that the one before it has left
  induction payloads generalizing x with
  | nil => exact ⟨rfl, h⟩
  | cons p rest ih =>
    obtain ⟨hp, hrest⟩ := List.forall_mem_cons.1 hvalid
    obtain ⟨hresult, hready⟩ := h.add hp
    obtain ⟨hresults, hend⟩ := ih hready hrest
    refine ⟨?_, hend⟩
    exact List.cons_eq_cons.2 ⟨hresult, hresults⟩

/-- A batch that is accepted gets the same handles. -/
theorem addBatch (h : x.Ready) {payloads : List (Payload k)} (hne : payloads ≠ [])
    (hvalid : ∀ p ∈ payloads, x.store.validate p = .ok ()) :
    (x.addBatch payloads).1.result = .ok (.handles k (x.handles payloads)) ∧
      (x.later (x.addBatch payloads).2 (x.recordsAfter payloads)).Ready := by
  obtain ⟨houtcome, -, hat⟩ :=
    Directory.serveAt_of_some (r := .addAll k payloads) h.leads.at?
  obtain ⟨hids, hrecords⟩ := h.adds.serve_addAll payloads
  rw [hids] at houtcome
  rw [hrecords] at hat
  have hbatch := Store.validateBatch_of_forall hne hvalid
  have hadd : (x.addBatch payloads).1.result = .ok (.handles k (x.handles payloads)) ∧
      (x.addBatch payloads).2 =
        (network.serve x.directory.config.id (.addAll k payloads) x.state).state :=
    Store.carryOut_of_ask (Store.perform_addAll hbatch h.leads.resolve) houtcome
      fun _ => ⟨rfl, rfl⟩
  refine ⟨hadd.1, ⟨h.leads.resolve, ?_⟩, h.adds.withContents _⟩
  rw [hadd.2]
  exact hat

/-- Claims that are recorded are read. -/
theorem read (h : x.Ready) {l : String} (hl : l ≠ "") {claims : List Claim}
    (hfound : (x.directory.contents.entities k).get? l = some claims) :
    x.read (Handle.of x.directory.config l : Handle k) = .ok (.claims claims) := by
  have hoffers : x.directory.mode.offers (.claims k l) = true :=
    Directory.offers_of_read _ rfl (by rintro _ _ _ ⟨⟩)
  have hclaims : x.directory.contents.claimsOf k l = .ok claims := by
    rw [Contents.claimsOf, hfound]
  obtain ⟨houtcome, -, -⟩ := h.adds.faultless.serveAt h.leads.at? hoffers
  exact (Store.carryOut_of_ask (Store.perform_claims (Store.mem_of_resolve h.leads.resolve) hl)
    (houtcome.trans hclaims) fun _ => ⟨rfl, rfl⟩).1

end Ready

/-! ## Agreement -/

/-- After payloads were added, the directory holds the records and is otherwise as it was, and
under each handle the claims of its own payload are read. -/
structure Settles (x : Site) (payloads : List (Payload k)) (hs : List (Handle k)) (c : Contents)
    (after : List Directory) : Prop where
  records : Directory.at? x.directory.config.id after = some (x.directory.withContents c)
  readBack : List.Forall₂ (fun p h => (x.later after c).read h = .ok (.claims p.claims)) payloads hs

/-- The site gives out the handles for the payloads and leaves the records, if they are added as a
batch and if they are added one by one. -/
structure Adds (x : Site) (payloads : List (Payload k)) (hs : List (Handle k)) (c : Contents) :
    Prop where
  batch : (x.addBatch payloads).1.result = .ok (.handles k hs)
  afterBatch : x.Settles payloads hs c (x.addBatch payloads).2
  singles : (x.addSingly payloads).1.map (·.result) = hs.map (.ok <| .handle k ·)
  afterSingles : x.Settles payloads hs c (x.addSingly payloads).2

/-- A site that is ready after payloads were added has settled. -/
theorem settles_of_ready {payloads : List (Payload k)} {after : List Directory}
    (h : (x.later after (x.recordsAfter payloads)).Ready) :
    x.Settles payloads (x.handles payloads) (x.recordsAfter payloads) after := by
  refine ⟨h.leads.at?, ?_⟩
  rw [handles, List.forall₂_map_right_iff]
  apply (x.directory.contents.get?_addAll payloads).imp
  rintro p id ⟨hid, hfound⟩
  exact h.read hid hfound

/-- A site that is ready adds payloads as a batch and one by one, with the same handles and
records. -/
theorem Ready.adds_payloads (h : x.Ready) {payloads : List (Payload k)} (hne : payloads ≠ [])
    (hvalid : ∀ p ∈ payloads, x.store.validate p = .ok ()) :
    x.Adds payloads (x.handles payloads) (x.recordsAfter payloads) := by
  obtain ⟨hbatch, hafterBatch⟩ := h.addBatch hne hvalid
  obtain ⟨hsingles, hafterSingles⟩ := h.addSingly hvalid
  exact ⟨hbatch, settles_of_ready hafterBatch, hsingles, settles_of_ready hafterSingles⟩

/-- Two sites whose stores are configured alike, and whose directories have the same id and name
and hold the same. They may offer different changes. -/
structure Resembles (x y : Site) : Prop where
  config : x.store.config = y.store.config
  id : x.directory.config.id = y.directory.config.id
  name : x.directory.config.name = y.directory.config.name
  contents : x.directory.contents = y.directory.contents

/-- Sites that resemble each other give out the same handles. -/
theorem Resembles.handles (h : x.Resembles y) (payloads : List (Payload k)) :
    x.handles payloads = y.handles payloads := by
  have hsame : (Handle.of x.directory.config : String → Handle k) =
      Handle.of y.directory.config := by
    funext l
    rw [Handle.of, Handle.of, h.id, h.name]
  rw [Site.handles, Site.handles, hsame, h.contents]

/-- No two payloads get the same handle. -/
theorem nodup_handles (x : Site) (payloads : List (Payload k)) : (x.handles payloads).Nodup :=
  (x.directory.contents.nodup_ids_addAll payloads).map (Handle.of_injective _)

/-- A batch is the same as its payloads one by one. At two sites that resemble each other, one
with a directory that takes batches as a whole and one with a directory that takes single
payloads only, a batch whose payloads are accepted and the payloads one by one all get the same
handles, in the order of the payloads and no two the same, and leave the same records, in which
each payload is found under its handle. -/
theorem batch_eq_singles {x y : Site} (hx : x.Ready) (hy : y.Ready) (hsame : x.Resembles y)
    {k : Kind} {payloads : List (Payload k)} (hne : payloads ≠ [])
    (hvalid : ∀ p ∈ payloads, x.store.validate p = .ok ()) :
    ∃ (hs : List (Handle k)) (c : Contents),
      hs.Nodup ∧ x.Adds payloads hs c ∧ y.Adds payloads hs c := by
  have hvalid' : ∀ p ∈ payloads, y.store.validate p = .ok () := by
    intro p hp
    rw [← Store.validate_of_config hsame.config]
    exact hvalid p hp
  have hrecords : y.recordsAfter payloads = x.recordsAfter payloads := by
    rw [recordsAfter, recordsAfter, hsame.contents]
  have hadds := hy.adds_payloads hne hvalid'
  rw [← hsame.handles payloads, hrecords] at hadds
  exact ⟨_, _, x.nodup_handles payloads, hx.adds_payloads hne hvalid, hadds⟩

/-- Two users are added to directories that hold one already, of which one takes batches as a
whole and the other takes single payloads only. -/
theorem batch_eq_singles_poles :
    let contents := Contents.empty.seedUser "u.1" "ann" "pw"
    let site (mode : Mode) : Site :=
      let d : Directory :=
        { Directory.new ⟨-2147483648, "north", 0, true, .empty⟩ with mode, contents }
      ⟨⟨.standard, .poles⟩, none, [d], d⟩
    let named (name : String) : Payload .user := ⟨[⟨Claim.usernameUri, name⟩], [.password "pw"]⟩
    let payloads := [named "bob", named "eve"]
    ∃ (hs : List User) (c : Contents), hs.Nodup ∧ hs.length = 2 ∧
      ((site .full).addBatch payloads).1.result = .ok (.handles .user hs) ∧
      ((site .addOnly).addBatch payloads).1.result = .ok (.handles .user hs) ∧
      (site .addOnly).Settles payloads hs c ((site .addOnly).addSingly payloads).2 := by
  intro contents site named payloads
  have hready : ∀ mode, mode = .full ∨ mode = .addOnly → (site mode).Ready :=
    fun mode hmode => ⟨⟨rfl, rfl⟩, ⟨hmode, rfl⟩⟩
  have hvalid : ∀ p ∈ payloads, (site .full).store.validate p = .ok () := by
    intro p hp
    rcases List.mem_pair.1 hp with rfl | rfl
    · rfl
    · rfl
  obtain ⟨hs, c, hnodup, hfull, hsingle⟩ := batch_eq_singles (hready .full (.inl rfl))
    (hready .addOnly (.inr rfl)) ⟨rfl, rfl, rfl, rfl⟩ (List.cons_ne_nil _ _) hvalid
  exact ⟨hs, c, hnodup, hfull.afterBatch.readBack.length_eq.symm, hfull.batch, hsingle.batch,
    hsingle.afterSingles⟩

end Site

end Federation
