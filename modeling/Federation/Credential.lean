import Federation.Text.Quoted

/-!
# Federation.Credential — credential material

A credential is a type and secret bytes. Credentials pass through the store untouched; the secret
is never shown.
-/

namespace Federation

/-- Raw credential material. -/
structure Credential where
  type : String
  secret : List UInt8
deriving DecidableEq

namespace Credential

/-- The type of plain passwords. -/
def passwordType : String := "password"

/-- The credential of a plain password: its UTF-8 bytes. -/
def password (text : String) : Credential := ⟨passwordType, text.toUTF8.data.toList⟩

/-- Whether the credential is a plain password. -/
def isPassword (c : Credential) : Bool := c.type = passwordType

/-- Whether there is no secret material. -/
def isEmpty (c : Credential) : Bool := c.secret.isEmpty

/-- The diagnostic text of a credential shows its type and hides its secret. -/
def describe (c : Credential) : String :=
  "Credential \x7b credential_type: " ++ Text.quoted c.type ++ ", secret: \"[REDACTED]\" \x7d"

end Credential

/-- The secret of the first password of a list. -/
def firstPassword? (credentials : List Credential) : Option (List UInt8) :=
  (credentials.find? (·.isPassword)).map (·.secret)

end Federation
