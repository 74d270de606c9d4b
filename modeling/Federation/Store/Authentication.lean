import Federation.Store.Basic

/-!
# Federation.Store.Authentication — logins

A login names a user by a claim. If a backend is named, it alone decides. Otherwise the backends
that support the claim are tried in their order until one accepts the credentials; one that
refuses them is passed over, one that fails for another reason ends the attempt. A refused login
never tells which backend refused it, or why.
-/

namespace Federation.Store

/-- The error for a backend that fails a login for another reason than the credentials. -/
def loginFailure (b : BackendConfig) (e : BackendError) : StoreError :=
  .backendFailure (.authenticate b.name) e

/-- A login at one backend. -/
def authenticateAt (b : BackendConfig) (claim : Claim) (credentials : List Credential) :
    Dialogue User :=
  .ask b.id (.authenticate claim credentials) fun
    | .ok localId => .note (.authenticated b.name) (.done (.of b localId))
    | .error e =>
      if e.isAuthentication then .fail (.authenticationFailed (some e))
      else .fail (loginFailure b e)

/-- A login at the first of the backends that supports the claim and accepts the credentials. -/
def scan (claim : Claim) (credentials : List Credential) : List BackendConfig → Dialogue User
  | [] => .fail (.authenticationFailed none)
  | b :: rest =>
    .probe b.id claim.uri fun
      | false => .note (.unsupported b.name claim.uri) (scan claim credentials rest)
      | true =>
        .ask b.id (.authenticate claim credentials) fun
          | .ok localId => .note (.authenticated b.name) (.done (.of b localId))
          | .error e =>
            if e.isAuthentication then
              .note (.rejected b.name e) (scan claim credentials rest)
            else .note (.attemptFailed b.name e) (.fail (loginFailure b e))

/-- A login. A claim without value or a lack of credentials is refused at once. -/
def authenticate (s : Store) (claim : Claim) (credentials : List Credential)
    (backend : Option String) : Dialogue User :=
  if claim.isBlank || credentials.isEmpty then .fail (.authenticationFailed none)
  else
    match given? backend with
    | some name => do
      let b ← .ofExcept (s.registry.byName name)
      authenticateAt b claim credentials
    | none => scan claim credentials s.registry.ordered

end Federation.Store
