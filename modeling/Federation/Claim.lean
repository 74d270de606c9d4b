import Federation.Collection.Dict

/-!
# Federation.Claim — claims and their descriptors

A claim asserts an attribute of a user or group: a URI that names the attribute, and its value. A
meta claim describes a claim URI without a value and selects claims.
-/

namespace Federation

/-- An attribute of a user or group. -/
structure Claim where
  uri : String
  value : String
deriving DecidableEq

/-- A descriptor of a claim URI. -/
structure MetaClaim where
  /-- The dialect that the claim URI belongs to. -/
  dialect : String
  uri : String
  /-- Free-form properties, such as a display name. -/
  properties : Dict String String
deriving DecidableEq

namespace Claim

/-- The claim URI of a user name. -/
def usernameUri : String := "http://wso2.org/claims/username"

/-- The claim URI of a group name. -/
def groupnameUri : String := "http://wso2.org/claims/groupname"

/-- A claim without a value. -/
def isBlank (c : Claim) : Bool := c.value.isEmpty

/-- A meta claim describes the claims with its URI; dialect and properties do not matter. -/
def describedBy (c : Claim) (m : MetaClaim) : Bool := c.uri = m.uri

/-- The claims that one of the meta claims describes, in their order. -/
def select (metas : List MetaClaim) (claims : List Claim) : List Claim :=
  claims.filter fun c => metas.any c.describedBy

end Claim

/-- The descriptor that says nothing. -/
def MetaClaim.blank : MetaClaim := ⟨"", "", .empty⟩

end Federation
