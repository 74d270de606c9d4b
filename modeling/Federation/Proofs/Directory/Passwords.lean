import Federation.Proofs.Collection.Dict
import Federation.Proofs.Directory.Selection

/-!
# Federation.Proofs.Directory.Passwords — who is let in by a directory

A directory lets the first carrier of a claim in if the stored password is among the credentials.
Only passwords count among credentials: of those that are stored the first, of those that are
presented any. A change of credentials decides about the password of one user, and about nothing
else.
-/

namespace Federation

/-- A password with the secret is among the credentials. -/
def Presents (credentials : List Credential) (secret : List UInt8) : Prop :=
  ∃ x ∈ credentials, x.isPassword = true ∧ x.secret = secret

/-- No password is among the credentials. -/
def Passwordless (credentials : List Credential) : Prop :=
  ∀ x ∈ credentials, x.isPassword = false

theorem passwordless_iff {credentials : List Credential} :
    Passwordless credentials ↔ credentials.any (·.isPassword) = false := by
  rw [List.any_eq_false]
  exact forall₂_congr fun x _ => Bool.eq_false_iff

/-- Without a password nothing is presented. -/
theorem Passwordless.not_presents {credentials : List Credential} (h : Passwordless credentials)
    (secret : List UInt8) : ¬ Presents credentials secret := by
  rintro ⟨x, hx, hpassword, -⟩
  rw [h x hx] at hpassword
  contradiction

/-- The credentials that are accepted after a change, given those that were accepted before: those
with the first password that was added; if none was, those from before, unless one was removed. -/
def AcceptedAfter (add remove : List Credential) (before : List Credential → Prop)
    (xs : List Credential) : Prop :=
  match firstPassword? add with
  | some secret => Presents xs secret
  | none => Passwordless remove ∧ before xs

theorem AcceptedAfter.congr {add remove : List Credential} {before before' : List Credential → Prop}
    {xs : List Credential} (h : before xs ↔ before' xs) :
    AcceptedAfter add remove before xs ↔ AcceptedAfter add remove before' xs := by
  unfold AcceptedAfter
  cases firstPassword? add with
  | none => exact and_congr_right fun _ => h
  | some secret => exact Iff.rfl

namespace Contents

variable {c : Contents} {claim : Claim} {credentials : List Credential} {user : String}

/-! ## Logins -/

/-- A user is let in with the stored password. -/
theorem accepts_iff : c.accepts user credentials = true ↔
    ∃ secret, c.passwords.get? user = some secret ∧ Presents credentials secret := by
  simp only [accepts, List.any_eq_true, Bool.and_eq_true, decide_eq_true_eq, Presents]
  constructor
  · rintro ⟨x, hx, hpassword, hstored⟩
    exact ⟨x.secret, hstored, x, hx, hpassword, rfl⟩
  · rintro ⟨_, hstored, x, hx, hpassword, rfl⟩
    exact ⟨x, hx, hpassword, hstored⟩

/-- The user that is let in is the first carrier of the claim. -/
theorem authenticate_eq_ok_iff : c.authenticate claim credentials = .ok user ↔
    c.FirstCarrier .user claim user ∧ c.accepts user credentials = true := by
  rw [← find?_eq_some_iff, authenticate]
  cases c.find? .user claim with
  | none => simp
  | some found =>
    show (if c.accepts found credentials = true then _ else _) = _ ↔ _
    cases haccepts : c.accepts found credentials with
    | true =>
      rw [if_pos rfl, Except.ok.injEq, Option.some.injEq]
      refine ⟨?_, And.left⟩
      rintro rfl
      exact ⟨rfl, haccepts⟩
    | false =>
      refine iff_of_false (by simp) ?_
      rintro ⟨hsame, huser⟩
      rw [← Option.some.inj hsame, haccepts] at huser
      contradiction

/-- Whoever is not let in is refused. -/
theorem isAuthentication_of_authenticate {e : BackendError}
    (h : c.authenticate claim credentials = .error e) : e.isAuthentication = true := by
  unfold authenticate at h
  split at h
  · rw [← Except.error.inj h]
    rfl
  · split at h
    · contradiction
    · rw [← Except.error.inj h]
      rfl

/-! ## Changes of passwords -/

/-- The entities stay as they are. -/
theorem entities_setPassword (c : Contents) (user : String) (secret : Option (List UInt8))
    (k : Kind) : (c.setPassword user secret).entities k = c.entities k := by
  cases secret with
  | none =>
    cases k with
    | user => rfl
    | group => rfl
  | some secret =>
    cases k with
    | user => rfl
    | group => rfl

/-- The password of one user is set, or forgotten. -/
theorem get?_setPassword (c : Contents) (user : String) (secret : Option (List UInt8))
    (other : String) : (c.setPassword user secret).passwords.get? other =
      if other = user then secret else c.passwords.get? other := by
  cases secret with
  | none => exact Dict.get?_erase c.passwords user other
  | some secret => exact Dict.get?_insert c.passwords user secret other

/-- A change of credentials comes to a replacement by those that are to be added, unless there is
no password in it at all. -/
theorem changeCredentials_eq (c : Contents) (user : String) (add remove : List Credential) :
    c.changeCredentials user add remove =
      if ((firstPassword? add).isSome || remove.any (·.isPassword)) = true then
        c.setPassword user (firstPassword? add)
      else c := by
  unfold changeCredentials
  cases firstPassword? add with
  | none =>
    cases remove.any (·.isPassword) with
    | true => rfl
    | false => rfl
  | some secret =>
    cases remove.any (·.isPassword) with
    | true =>
      -- the password that is forgotten makes room for the one that is stored
      exact congrArg (fun passwords => { c with passwords }) (Dict.insert_erase _ _ _)
    | false => rfl

theorem entities_changeCredentials (c : Contents) (user : String) (add remove : List Credential)
    (k : Kind) : (c.changeCredentials user add remove).entities k = c.entities k := by
  rw [changeCredentials_eq]
  split
  · exact c.entities_setPassword user _ k
  · rfl

/-- After a change the first password that was added counts; if none was, the stored one, unless
one was removed. -/
theorem get?_changeCredentials (c : Contents) (user : String) (add remove : List Credential) :
    (c.changeCredentials user add remove).passwords.get? user = (firstPassword? add).or
      (if remove.any (·.isPassword) = true then none else c.passwords.get? user) := by
  rw [changeCredentials_eq]
  cases firstPassword? add with
  | none =>
    cases remove.any (·.isPassword) with
    | true => exact (c.get?_setPassword user none user).trans (if_pos rfl)
    | false => rfl
  | some secret => exact (c.get?_setPassword user (some secret) user).trans (if_pos rfl)

/-- The user is let in with the password that was set, if there is one, -/
theorem accepts_setPassword_iff {secret : Option (List UInt8)} {xs : List Credential} :
    (c.setPassword user secret).accepts user xs = true ↔
      ∃ stored, secret = some stored ∧ Presents xs stored := by
  rw [accepts_iff, get?_setPassword, if_pos rfl]

/-- and after a change with what is accepted after it. -/
theorem accepts_changeCredentials_iff {add remove xs : List Credential} :
    (c.changeCredentials user add remove).accepts user xs = true ↔
      AcceptedAfter add remove (fun xs => c.accepts user xs = true) xs := by
  rw [AcceptedAfter, accepts_iff, get?_changeCredentials, accepts_iff, passwordless_iff]
  cases firstPassword? add with
  | none =>
    cases remove.any (·.isPassword) with
    | true => simp
    | false => simp
  | some secret => simp

/-- Nobody else's password is changed. -/
theorem get?_changeCredentials_of_ne (c : Contents) {user other : String} (h : other ≠ user)
    (add remove : List Credential) :
    (c.changeCredentials user add remove).passwords.get? other = c.passwords.get? other := by
  rw [changeCredentials_eq]
  split
  · rw [get?_setPassword, if_neg h]
  · rfl

end Contents

end Federation
