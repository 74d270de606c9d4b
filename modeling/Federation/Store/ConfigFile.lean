import Federation.Document.Forms
import Federation.Document.Toml.Reader
import Federation.Error

/-!
# Federation.Store.ConfigFile — configurations from TOML

A store's configuration as a TOML document. Every field has a default, so the empty document is a
configuration.
-/

namespace Federation.StoreConfig

/-- The configuration that a document describes. -/
def ofToml (document : String) : Except StoreError StoreConfig :=
  match (Document.Toml.read? document).bind Document.Record.ofValue? with
  | some config => .ok config
  | none => .error (.configuration .malformedDocument (some .other))

/-- The configuration in a file, given the bytes that could be read of it, if any. -/
def ofFile (path : String) (bytes : Option ByteArray) : Except StoreError StoreConfig :=
  match bytes.bind String.fromUTF8? with
  | some document => ofToml document
  | none => .error (.configuration (.unreadableFile path) (some .other))

end Federation.StoreConfig
