import Federation.Proofs.Directory.Faultless
import Federation.Proofs.Store.Batch
import Federation.Proofs.Store.MembershipCheck

/-!
# Federation.Proofs.Store.Recorded — reading what is recorded

Where directories have no faults, an operation that only reads changes nothing, and answers from
the records of the directory that its arguments lead to.
-/

namespace Federation

open Directory (network)

variable {d : Directory} {b : Int32} {ds ds' : List Directory}

/-! ## Checks -/

/-- A check of parties that are recorded gets to its end, and is answered from the records. -/
theorem Checked.of_recorded {l m : String} {parties : List Party} {xs : List Exchange}
    {result : Except StoreError Answer} (h : Checked network b l m parties ds xs result ds')
    (hd : d.Faultless) (hat : Directory.at? b ds = some d)
    (hparties : ∀ p ∈ parties, (d.contents.entities p.kind).contains p.localId = true) :
    result = .ok (.truth (d.contents.memberships.contains ⟨l, m⟩)) := by
  induction h with
  | @unclear p rest w w' e log hserve =>
    -- the directory says that the party is there
    rw [hd.serve_isPresent hat, hparties p List.mem_cons_self] at hserve
    cases hserve
  | @absent p rest w w' log hserve =>
    rw [hd.serve_isPresent hat, hparties p List.mem_cons_self] at hserve
    cases hserve
  | @present p rest w w' w'' log ys answer hserve hrest ih =>
    obtain ⟨hp, hothers⟩ := List.forall_mem_cons.1 hparties
    rw [hd.serve_isPresent hat, hp] at hserve
    injection hserve with _ hsame
    subst hsame
    exact ih hat hothers
  | failed hserve =>
    rw [hd.serve_isMember hat] at hserve
    cases hserve
  | answered hserve =>
    rw [hd.serve_isMember hat] at hserve
    injection hserve with hv
    rw [Except.ok.inj hv]

namespace Store

/-! ## Operations -/

variable {s : Store} {k : Kind} {uniqueId l : String}

/-- The operation answers so, and changes nothing. -/
structure Reads (s : Store) (ds : List Directory) (op : Operation) (a : Answer) : Prop where
  result : ((s.perform op).run network ds).result = .ok a
  state : ((s.perform op).run network ds).state = ds

/-- Operations that only read change nothing. -/
theorem state_of_isReading {op : Operation} (hop : op.isReading = true)
    (hfaultless : ∀ d ∈ ds, d.Faultless) : ((s.perform op).run network ds).state = ds :=
  Directory.state_run_of_read (puts_of_isReading hop) hfaultless

/-- The memberships of an entity are asked for after it was found to be there. -/
theorem perform_memberships {c : BackendConfig} (hlocate : s.locate k uniqueId = .ok ⟨c, l⟩) :
    s.perform (.memberships k uniqueId) = ensurePresent k ⟨c, l⟩ uniqueId >>= fun _ =>
      Dialogue.demand (.getMemberships k uniqueId) c.id (.memberships k l) >>= fun ids =>
        .done (.handles k.other (ids.map (.of c))) := by
  show Answer.handles k.other <$> s.memberships k uniqueId = _
  rw [memberships, hlocate]
  show Answer.handles k.other <$> (ensurePresent k ⟨c, l⟩ uniqueId >>= _) = _
  simp only [map_bind]
  rfl

/-- The memberships of an entity that is recorded are listed by the handles of the entities at the
other ends, which are of the same backend. -/
theorem result_memberships
    (hread : s.registry.decode uniqueId = .ok ⟨b, l⟩) (hd : d.Faultless)
    (hat : Directory.at? b ds = some d) (hpresent : (d.contents.entities k).contains l = true) :
    ∃ c : BackendConfig, c.id = b ∧
      ((s.perform (.memberships k uniqueId)).run network ds).result =
        .ok (.handles k.other ((d.contents.membershipsOf k l).map (.of c))) := by
  obtain ⟨c, -, rfl, hlocate⟩ := locate_of_decode hread k
  refine ⟨c, rfl, ?_⟩
  have hfirst := hd.serve_isPresent hat k l
  have hsecond := hd.serve_memberships hat k l
  rw [perform_memberships hlocate, ensurePresent_bind]
  simp only [Dialogue.run, hfirst, hpresent]
  rw [Dialogue.demand_bind]
  simp only [Dialogue.run, hsecond]

/-- The claims of an entity that is recorded are read as they are. -/
theorem result_claims (hread : s.registry.decode uniqueId = .ok ⟨b, l⟩) (hd : d.Faultless)
    (hat : Directory.at? b ds = some d) {claims : List Claim}
    (hclaims : (d.contents.entities k).get? l = some claims) :
    ((s.perform (.claims k uniqueId)).run network ds).result = .ok (.claims claims) := by
  obtain ⟨⟨c, hc, rfl⟩, hl, rfl⟩ := Registry.decode_eq_ok_iff.1 hread
  have hanswer : (d.respond (.claims k l)).1 = .ok claims := by
    show d.contents.claimsOf k l = _
    rw [Contents.claimsOf, hclaims]
  have hserve := hd.serve_read (r := .claims k l) hat rfl (by rintro _ _ _ ⟨⟩)
  rw [hanswer] at hserve
  have hperform : s.perform (.claims k (EntityId.encode ⟨c.id, l⟩)) = _ :=
    perform_claims (k := k) hc hl
  rw [hperform]
  simp only [Dialogue.run, hserve]

end Store

end Federation
