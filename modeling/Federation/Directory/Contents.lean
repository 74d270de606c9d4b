import Federation.Backend.Request
import Federation.Text.Pattern

/-!
# Federation.Directory.Contents — what a directory holds

The records of an in-memory directory and what every request does to them. Users and groups are
kept under their local ids, passwords under the ids of users, and memberships as a set of pairs;
everything is in ascending order, so every listing is. Memberships and passwords are kept as they
are given, whether or not the entities exist.
-/

namespace Federation

/-! ## Memberships -/

/-- A user's membership of a group, by their local ids. -/
structure Membership where
  user : String
  group : String
deriving DecidableEq

namespace Membership

/-- Memberships are ordered by user, those of one user by group. -/
def before (a b : Membership) : Bool :=
  Key.before a.user b.user || (a.user = b.user && Key.before a.group b.group)

theorem before_iff {a b : Membership} : before a b = true ↔
    Key.before a.user b.user = true ∨ a.user = b.user ∧ Key.before a.group b.group = true := by
  simp [before]

instance : Key Membership where
  before := before
  irrefl a := by simp [before, Key.irrefl]
  trans {a b c} h₁ h₂ := by
    rw [before_iff] at *
    rcases h₁ with h₁ | ⟨e₁, h₁⟩ <;> rcases h₂ with h₂ | ⟨e₂, h₂⟩
    · exact Or.inl (Key.trans h₁ h₂)
    · exact Or.inl (e₂ ▸ h₁)
    · exact Or.inl (e₁ ▸ h₂)
    · exact Or.inr ⟨e₁.trans e₂, Key.trans h₁ h₂⟩
  total {a b} h₁ h₂ := by
    cases a with | mk u g => ?_
    cases b with | mk v h => ?_
    simp only [before, Bool.or_eq_false_iff, Bool.and_eq_false_iff, decide_eq_false_iff_not]
      at h₁ h₂
    have e : u = v := Key.total h₁.1 h₂.1
    subst e
    have f : g = h := Key.total (h₁.2.resolve_left (· rfl)) (h₂.2.resolve_left (· rfl))
    rw [f]

/-- The end of a membership that is of the kind. -/
def ofKind (m : Membership) : Kind → String
  | .user => m.user
  | .group => m.group

/-- The membership between an entity of a kind and one of the other kind. -/
def link (k : Kind) (id other : String) : Membership :=
  match k with
  | .user => ⟨id, other⟩
  | .group => ⟨other, id⟩

/-- What holds of both ends of a membership holds of its end of either kind. -/
theorem ofKind_link {P : String → Prop} {k : Kind} {id other : String} (hid : P id)
    (hother : P other) (k' : Kind) : P ((link k id other).ofKind k') := by
  cases k with
  | user =>
    cases k' with
    | user => exact hid
    | group => exact hother
  | group =>
    cases k' with
    | user => exact hother
    | group => exact hid

end Membership

/-! ## Records -/

/-- The records of a directory. -/
structure Contents where
  users : Dict String (List Claim)
  groups : Dict String (List Claim)
  passwords : Dict String (List UInt8)
  memberships : Dict Membership Unit
  /-- How many ids were given out; users and groups share one count. -/
  counter : Nat
deriving DecidableEq

namespace Contents

/-- A directory without records. -/
def empty : Contents := ⟨.empty, .empty, .empty, .empty, 0⟩

/-- The entities of a kind with their claims. -/
def entities (c : Contents) : Kind → Dict String (List Claim)
  | .user => c.users
  | .group => c.groups

/-- Replaces the entities of a kind. -/
def withEntities (c : Contents) (k : Kind) (entities : Dict String (List Claim)) : Contents :=
  match k with
  | .user => { c with users := entities }
  | .group => { c with groups := entities }

theorem entities_withEntities (c : Contents) (k k' : Kind) (entities : Dict String (List Claim)) :
    (c.withEntities k entities).entities k' = if k' = k then entities else c.entities k' := by
  cases k with
  | user =>
    cases k' with
    | user => rfl
    | group => rfl
  | group =>
    cases k' with
    | user => rfl
    | group => rfl

@[simp] theorem memberships_withEntities (c : Contents) (k : Kind)
    (entities : Dict String (List Claim)) :
    (c.withEntities k entities).memberships = c.memberships := by
  cases k with
  | user => rfl
  | group => rfl

/-- Sets the claims of an entity. -/
def setEntity (c : Contents) (k : Kind) (id : String) (claims : List Claim) : Contents :=
  c.withEntities k ((c.entities k).insert id claims)

/-- Stores a password, or forgets the stored one. -/
def setPassword (c : Contents) (user : String) : Option (List UInt8) → Contents
  | some secret => { c with passwords := c.passwords.insert user secret }
  | none => { c with passwords := c.passwords.erase user }

/-- Adds a membership. -/
def join (c : Contents) (m : Membership) : Contents :=
  { c with memberships := c.memberships.insert m () }

/-- Keeps the memberships that pass the test. -/
def keepMemberships (c : Contents) (p : Membership → Bool) : Contents :=
  { c with memberships := c.memberships.keep p }

/-! ## Reading -/

/-- Whether an entity with these claims belongs to a listing. -/
def passes (filter : Filter) (claims : List Claim) : Bool :=
  match filter with
  | .all => true
  | .byClaim claim => claims.contains claim
  | .byMetaClaim m pattern =>
    claims.any fun c => c.describedBy m && Text.Pattern.foundIn pattern c.value

/-- The ids of the entities that belong to a listing. -/
def matching (c : Contents) (k : Kind) (filter : Filter) : List String :=
  ((c.entities k).entries.filter fun e => passes filter e.2).map (·.1)

/-- The first entity that carries the claim. -/
def find? (c : Contents) (k : Kind) (claim : Claim) : Option String :=
  (c.matching k (.byClaim claim)).head?

/-- The ids at the other ends of the memberships of an entity. -/
def membershipsOf (c : Contents) (k : Kind) (id : String) : List String :=
  (c.memberships.keys.filter (·.ofKind k = id)).map (·.ofKind k.other)

/-- The claims of an entity. -/
def claimsOf (c : Contents) (k : Kind) (id : String) : Except BackendError (List Claim) :=
  match (c.entities k).get? id with
  | some claims => .ok claims
  | none => .error (.notFound k id)

/-- Whether one of the credentials is the stored password of a user. -/
def accepts (c : Contents) (user : String) (credentials : List Credential) : Bool :=
  credentials.any fun x => x.isPassword && c.passwords.get? user = some x.secret

/-- Authenticates the first user that carries the claim. -/
def authenticate (c : Contents) (claim : Claim) (credentials : List Credential) :
    Except BackendError String :=
  match c.find? .user claim with
  | none => .error (.authenticationFailed "unknown user")
  | some user =>
    if c.accepts user credentials then .ok user
    else .error (.authenticationFailed "invalid credentials")

/-! ## Writing -/

/-- The id that the directory gives to the next entity. -/
def freshId (c : Contents) (k : Kind) : String :=
  let letter := match k with
    | .user => 'u'
    | .group => 'g'
  String.ofList (letter :: '.' :: Nat.toDigits 10 (c.counter + 1))

/-- Adds an entity under a fresh id. -/
def add (c : Contents) (k : Kind) (payload : Payload k) : String × Contents :=
  let id := c.freshId k
  let counted := { c with counter := c.counter + 1 }
  let stored := match payload.password? with
    | some secret => counted.setPassword id (some secret)
    | none => counted
  (id, stored.setEntity k id payload.claims)

/-- Adds entities in their order. -/
def addAll (c : Contents) (k : Kind) : List (Payload k) → List String × Contents
  | [] => ([], c)
  | p :: rest =>
    let (id, c') := c.add k p
    let (ids, c'') := c'.addAll k rest
    (id :: ids, c'')

/-- Changes the claims of an entity that must be there. -/
def updateClaims (c : Contents) (k : Kind) (id : String) (f : List Claim → List Claim) :
    Except BackendError Unit × Contents :=
  match (c.entities k).get? id with
  | some claims => (.ok (), c.setEntity k id (f claims))
  | none => (.error (.notFound k id), c)

/-- Forgets the password if one is to be removed, then stores the first that is to be added. -/
def changeCredentials (c : Contents) (user : String) (add remove : List Credential) : Contents :=
  let forgotten := if remove.any (·.isPassword) then c.setPassword user none else c
  match firstPassword? add with
  | some secret => forgotten.setPassword user (some secret)
  | none => forgotten

/-- Removes an entity that must be there, with its memberships and a user's password. -/
def delete (c : Contents) (k : Kind) (id : String) : Except BackendError Unit × Contents :=
  if (c.entities k).contains id then
    let removed := (c.withEntities k ((c.entities k).erase id)).keepMemberships (·.ofKind k ≠ id)
    match k with
    | .user => (.ok (), removed.setPassword id none)
    | .group => (.ok (), removed)
  else (.error (.notFound k id), c)

/-- Adds memberships of an entity. -/
def joinAll (c : Contents) (k : Kind) (id : String) (others : List String) : Contents :=
  others.foldl (fun c other => c.join (.link k id other)) c

/-- Replaces all memberships of an entity. -/
def replaceMemberships (c : Contents) (k : Kind) (id : String) (others : List String) : Contents :=
  (c.keepMemberships (·.ofKind k ≠ id)).joinAll k id others

/-- Removes memberships of an entity, then adds some. -/
def changeMemberships (c : Contents) (k : Kind) (id : String) (add remove : List String) :
    Contents :=
  (c.keepMemberships fun m => m.ofKind k ≠ id || !remove.contains (m.ofKind k.other)).joinAll
    k id add

/-! ## Requests -/

/-- The answer to a request and the records after it. -/
def respond (c : Contents) : (r : Request) → Except BackendError r.Answer × Contents
  | .isPresent k id => (.ok ((c.entities k).contains id), c)
  | .find k claim => (.ok (c.find? k claim), c)
  | .list k filter page => (.ok (page.window (c.matching k filter)), c)
  | .memberships k id => (.ok (c.membershipsOf k id), c)
  | .isMember user group => (.ok (c.memberships.contains ⟨user, group⟩), c)
  | .claims k id => (c.claimsOf k id, c)
  | .claimsFor k id metas => ((c.claimsOf k id).map (Claim.select metas), c)
  | .authenticate claim credentials => (c.authenticate claim credentials, c)
  | .add k payload =>
    let (id, c') := c.add k payload
    (.ok id, c')
  | .addAll k payloads =>
    let (ids, c') := c.addAll k payloads
    (.ok ids, c')
  | .replaceClaims k id claims => c.updateClaims k id fun _ => claims
  | .changeClaims k id add remove =>
    c.updateClaims k id fun stored => stored.filter (!remove.contains ·) ++ add
  | .replaceCredentials id credentials => (.ok (), c.setPassword id (firstPassword? credentials))
  | .changeCredentials id add remove => (.ok (), c.changeCredentials id add remove)
  | .delete k id => c.delete k id
  | .replaceMemberships k id others => (.ok (), c.replaceMemberships k id others)
  | .changeMemberships k id add remove => (.ok (), c.changeMemberships k id add remove)

end Contents

end Federation
