import Federation.Proofs.Store.Lookup
import Federation.Proofs.Store.RecordEdit

/-!
# Federation.Proofs.Store.Rotation — logins after a change of credentials

A change of a user's credentials takes effect at once and exactly: the user is let in with the
password that the change leaves and with nothing else, a password that was replaced or removed is
of no use any more, and what others are let in with stays as it was. Credentials that are no
passwords play no part in it, neither in a change nor in a login.
-/

namespace Federation

namespace Store

variable {s : Store} {ds : List Directory} {claim : Claim} {name : String} {b : BackendConfig}
  {d : Directory} {credentials : List Credential} {user : User} {l : String}

/-! ## Logins at a directory that is up -/

/-- The login is refused. -/
def RefusesLogin (s : Store) (ds : List Directory) (claim : Claim)
    (credentials : List Credential) (name : String) : Prop :=
  ∃ e, s.login ds claim credentials name = .error e ∧ e.kind = .authenticationFailed

/-- A user is logged in exactly as the first carrier of the claim and with the stored password. -/
theorem login_eq_ok_iff (hname : s.Names name b) (hd : d.Faultless) (hup : d.outage = none)
    (hat : Directory.at? b.id ds = some d) :
    s.login ds claim credentials name = .ok (.of b l) ↔ claim.value ≠ "" ∧
      d.contents.FirstCarrier .user claim l ∧ d.contents.accepts l credentials = true := by
  constructor
  · intro hlogin
    obtain ⟨v, hfirst, haccepts, hsame⟩ := of_login hname hd hat hlogin
    rw [Handle.of_injective b hsame]
    refine ⟨?_, hfirst, haccepts⟩
    intro hvalue
    have hblank : (claim.isBlank || credentials.isEmpty) = true := by
      rw [Claim.isBlank, hvalue]
      rfl
    rw [login_of_blank s ds name hblank] at hlogin
    contradiction
  · rintro ⟨hvalue, hfirst, haccepts⟩
    have hbusy : ¬(claim.isBlank || credentials.isEmpty) = true := by
      rw [Bool.or_eq_true, Claim.isBlank, String.isEmpty_iff, List.isEmpty_iff]
      rintro (hblank | rfl)
      · exact hvalue hblank
      · contradiction
    have hsaid : (d.respond (.authenticate claim credentials)).1 = .ok l := by
      rw [Directory.respond, hup]
      exact Contents.authenticate_eq_ok_iff.2 ⟨hfirst, haccepts⟩
    rw [login_of_busy hname hbusy, Oracle.answerAt, answer_ofState hd hat, hsaid]

/-- Whoever is not logged in is refused. -/
theorem refusesLogin_of_not_ok (hname : s.Names name b) (hd : d.Faultless) (hup : d.outage = none)
    (hat : Directory.at? b.id ds = some d) (h : ∀ user, s.login ds claim credentials name ≠ .ok user) :
    s.RefusesLogin ds claim credentials name := by
  by_cases hblank : (claim.isBlank || credentials.isEmpty) = true
  · exact ⟨_, login_of_blank s ds name hblank, rfl⟩
  · have hanswer : s.login ds claim credentials name = _ := login_of_busy hname hblank
    cases hsaid : (d.respond (.authenticate claim credentials)).1 with
    | ok l =>
      rw [Oracle.answerAt, answer_ofState hd hat, hsaid] at hanswer
      exact absurd hanswer (h _)
    | error e =>
      have hrefusal : e.isAuthentication = true := by
        rw [Directory.respond, hup] at hsaid
        exact Contents.isAuthentication_of_authenticate hsaid
      rw [Oracle.answerAt, answer_ofState hd hat, hsaid] at hanswer
      simp only [hrefusal, if_true] at hanswer
      exact ⟨_, hanswer, rfl⟩

/-- Without a password everybody is refused. -/
theorem refusesLogin_of_passwordless (hname : s.Names name b) (hd : d.Faultless)
    (hup : d.outage = none) (hat : Directory.at? b.id ds = some d)
    (hnone : Passwordless credentials) : s.RefusesLogin ds claim credentials name := by
  apply refusesLogin_of_not_ok hname hd hup hat
  intro user hlogin
  obtain ⟨l, -, haccepts, -⟩ := of_login hname hd hat hlogin
  obtain ⟨secret, -, hpresents⟩ := Contents.accepts_iff.1 haccepts
  exact hnone.not_presents secret hpresents

/-! ## Rotations -/

/-- What logins at a backend are after an operation on the credentials of the user with the local id
`l`, who is the first to carry the claim: the user is logged in with the credentials that are
accepted. -/
structure Rotates (s : Store) (ds after : List Directory) (op : Operation) (name : String)
    (b : BackendConfig) (l : String) (claim : Claim) (accepted : List Credential → Prop) :
    Prop where
  done : s.Done [.operate op] ds after
  lets : ∀ xs, s.login after claim xs name = .ok (.of b l) ↔ accepted xs
  /-- With all others nobody is, -/
  refuses : ∀ xs, ¬ accepted xs → s.RefusesLogin after claim xs name
  /-- and without a password nobody ever is. -/
  passwordless : ∀ state ∈ [ds, after], ∀ claim xs, Passwordless xs →
    s.RefusesLogin state claim xs name
  /-- Others are logged in with what they were logged in with. -/
  others : ∀ v ≠ l, ∀ claim xs,
    s.login after claim xs name = .ok (.of b v) ↔ s.login ds claim xs name = .ok (.of b v)

/-- The password of one user is all that an operation on credentials changes. -/
theorem rotates_of_done (x : Slot) (hup : x.directory.outage = none) (hb : b.id = x.backend)
    (hname : s.Names name b) {c c' : Contents} {op : Operation} {accepted : List Credential → Prop}
    (hvalue : claim.value ≠ "") (hfirst : c.FirstCarrier .user claim l)
    (hdone : s.Done [.operate op] (x.holding c) (x.holding c'))
    (hentities : c'.entities .user = c.entities .user)
    (hothers : ∀ v, v ≠ l → c'.passwords.get? v = c.passwords.get? v)
    (haccepted : ∀ xs, c'.accepts l xs = true ↔ accepted xs) :
    s.Rotates (x.holding c) (x.holding c') op name b l claim accepted := by
  have hat : ∀ c, Directory.at? b.id (x.holding c) = some (x.directory.withContents c) := by
    rw [hb]
    exact x.at?_holding
  have hfaultless : ∀ c, (x.directory.withContents c).Faultless := x.faultless.withContents
  have hcarriers : ∀ claim v, c'.FirstCarrier .user claim v ↔ c.FirstCarrier .user claim v := by
    intro claim v
    rw [← Contents.find?_eq_some_iff, ← Contents.find?_eq_some_iff, Contents.find?,
      Contents.find?, Contents.matching, Contents.matching, hentities]
  have hpasswords : ∀ v, v ≠ l → ∀ xs, c'.accepts v xs = true ↔ c.accepts v xs = true := by
    intro v hv xs
    rw [Contents.accepts_iff, Contents.accepts_iff, hothers v hv]
  constructor
  case done => exact hdone
  case lets =>
    intro xs
    rw [login_eq_ok_iff hname (hfaultless c') hup (hat c'), ← haccepted]
    exact (and_iff_right hvalue).trans (and_iff_right ((hcarriers claim l).2 hfirst))
  case refuses =>
    intro xs hxs
    apply refusesLogin_of_not_ok hname (hfaultless c') hup (hat c')
    intro user hlogin
    -- nobody else is the first carrier of the claim
    obtain ⟨v, hv, haccepts, -⟩ := of_login hname (hfaultless c') (hat c') hlogin
    have hsame : v = l := ((hcarriers claim v).1 hv).unique hfirst
    rw [hsame] at haccepts
    exact hxs ((haccepted xs).1 haccepts)
  case passwordless =>
    intro state hstate claim xs hxs
    rcases List.mem_pair.1 hstate with rfl | rfl
    · exact refusesLogin_of_passwordless hname (hfaultless c) hup (hat c) hxs
    · exact refusesLogin_of_passwordless hname (hfaultless c') hup (hat c') hxs
  case others =>
    intro v hv claim xs
    rw [login_eq_ok_iff hname (hfaultless c') hup (hat c'),
      login_eq_ok_iff hname (hfaultless c) hup (hat c)]
    exact and_congr_right fun _ => and_congr (hcarriers claim v) (hpasswords v hv xs)

/-- A rotation of credentials takes effect exactly. In every state of directories that offer all
changes, are up and have no faults, for every user of a named backend who has a local id and is the
first to carry a claim: after the user's credentials are replaced, the claim logs the user in with
the first password of the new ones and with nothing else; after they are changed, with the first
password that was added, or, if none was, with what was accepted before, unless a password was
removed. Nobody is logged in without a password, and the logins of others stay as they are. -/
theorem rotation_exact {s : Store} {ds : List Directory} (hfaultless : ∀ d ∈ ds, d.Faultless)
    (hfull : ∀ d ∈ ds, d.mode = .full) (hup : ∀ d ∈ ds, d.outage = none) {name : String}
    {b : BackendConfig} (hname : s.Names name b) {d : Directory}
    (hat : Directory.at? b.id ds = some d) {claim : Claim} (hvalue : claim.value ≠ "") {l : String}
    (hl : l ≠ "") (hfirst : d.contents.FirstCarrier .user claim l) :
    (∀ credentials, ∃ after,
      s.Rotates ds after (.replaceCredentials (EntityId.encode ⟨b.id, l⟩) credentials) name b l
        claim fun xs => ∃ secret, firstPassword? credentials = some secret ∧ Presents xs secret) ∧
    ∀ add remove, ∃ after,
      s.Rotates ds after (.changeCredentials (EntityId.encode ⟨b.id, l⟩) add remove) name b l
        claim (AcceptedAfter add remove fun xs => s.login ds claim xs name = .ok (.of b l)) := by
  have hmem := Directory.mem_of_at? hat
  have hd := hfaultless d hmem
  have hdown := hup d hmem
  obtain ⟨x, hx, rfl, rfl⟩ := Slot.exists_holding hat (hfull d hmem) hd
  have hb := (Registry.byName_eq_ok_iff.1 hname.leads).1
  have hread : s.registry.decode (EntityId.encode ⟨b.id, l⟩) = .ok ⟨x.backend, l⟩ := by
    rw [hx]
    exact Registry.decode_eq_ok_iff.2 ⟨⟨b, hb, rfl⟩, hl, rfl⟩
  obtain ⟨claims, hclaims, -⟩ := hfirst.carries
  have hpresent : (x.directory.contents.entities .user).contains l = true :=
    Dict.contains_iff.2 ⟨claims, hclaims⟩
  constructor
  · intro credentials
    have hdone := done_edit x hread hpresent (.replaceCredentials credentials)
    refine ⟨_, rotates_of_done x hdown hx.symm hname hvalue hfirst hdone ?_ ?_ ?_⟩
    · exact x.directory.contents.entities_setPassword l _ .user
    · intro v hv
      exact (x.directory.contents.get?_setPassword l _ v).trans (if_neg hv)
    · exact fun xs => Contents.accepts_setPassword_iff
  · intro add remove
    have hdone := done_edit x hread hpresent (.changeCredentials add remove)
    refine ⟨_, rotates_of_done x hdown hx.symm hname hvalue hfirst hdone ?_ ?_ ?_⟩
    · exact x.directory.contents.entities_changeCredentials l add remove .user
    · intro v hv
      exact x.directory.contents.get?_changeCredentials_of_ne hv add remove
    · intro xs
      have hbefore : s.login (x.holding x.directory.contents) claim xs name = .ok (.of b l) ↔
          x.directory.contents.accepts l xs = true := by
        rw [login_eq_ok_iff hname hd hdown hat]
        exact (and_iff_right hvalue).trans (and_iff_right hfirst)
      exact Contents.accepts_changeCredentials_iff.trans (AcceptedAfter.congr hbefore.symm)

/-- A user gets a new password, among other credentials. It is accepted from then on, and the old one
is not. -/
theorem rotation_exact_north :
    let s : Store := ⟨.standard, .poles⟩
    let contents := (Contents.empty.seedUser "u.1" "ann" "old").seedUser "u.2" "bob" "pw"
    let ds := Registry.poles.ordered.map fun b => (Directory.new b).withContents contents
    let claim : Claim := ⟨Claim.usernameUri, "ann"⟩
    let ann : User := ⟨EntityId.encode ⟨-2147483648, "u.1"⟩, "north"⟩
    let credentials := [⟨"otp", []⟩, .password "new", .password "newer"]
    ∃ after, s.Done [.operate (.replaceCredentials ann.uniqueId credentials)] ds after ∧
      s.login after claim [.password "new"] "North" = .ok ann ∧
      s.RefusesLogin after claim [.password "old"] "North" := by
  intro s contents ds claim ann credentials
  have hfaultless : ∀ d ∈ ds, d.Faultless := fun _ hd => (Directory.of_mem_filled hd).2
  have hfull : ∀ d ∈ ds, d.mode = .full := fun _ hd => (Directory.of_mem_filled hd).1
  have hup : ∀ d ∈ ds, d.outage = none := by
    intro d hd
    obtain ⟨b, -, rfl⟩ := List.mem_map.1 hd
    rfl
  have hname : s.Names "North" ⟨-2147483648, "north", 0, true, .empty⟩ := ⟨by decide, rfl⟩
  obtain ⟨d, hat, hcontents⟩ :
      ∃ d, Directory.at? (-2147483648) ds = some d ∧ d.contents = contents := ⟨_, rfl, rfl⟩
  have hfirst : d.contents.FirstCarrier .user claim "u.1" := by
    rw [hcontents]
    exact Contents.find?_eq_some_iff.1 (by decide)
  obtain ⟨after, hrotates⟩ := (rotation_exact hfaultless hfull hup hname hat
    (by decide : claim.value ≠ "") (by decide) hfirst).1 credentials
  have hnew : firstPassword? credentials = some (Credential.password "new").secret := by decide
  refine ⟨after, hrotates.done, ?_, ?_⟩
  · exact (hrotates.lets _).2 ⟨_, hnew, _, List.mem_singleton_self _, by decide, rfl⟩
  · apply hrotates.refuses
    rintro ⟨secret, hsecret, x, hx, -, hold⟩
    rw [hnew, Option.some.injEq] at hsecret
    rw [List.mem_singleton.1 hx, ← hsecret] at hold
    exact absurd hold (by decide)

end Store

end Federation
