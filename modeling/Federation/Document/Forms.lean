import Federation.Authority
import Federation.Document.Record
import Federation.Page
import Federation.Store.Config

/-!
# Federation.Document.Forms — the records of the library

The fields of claims, meta claims, pages, permissions and configurations, with what holds for
those that are left out.
-/

namespace Federation.Document

instance : Record Claim where
  fields := [.required "claim_uri" .text, .required "value" .text]
  ofValues := fun (uri, value, ()) => ⟨uri, value⟩
  values c := (c.uri, c.value, ())

instance : Record MetaClaim where
  fields := [.required "dialect_uri" .text, .required "claim_uri" .text,
    .optional "properties" .properties .empty]
  ofValues := fun (dialect, uri, properties, ()) => ⟨dialect, uri, properties⟩
  values m := (m.dialect, m.uri, m.properties, ())

instance : Record Page where
  fields := [.required "offset" .uint64, .nullable "limit" .uint64]
  ofValues := fun (offset, limit, ()) => ⟨offset, limit⟩
  values p := (p.offset, p.limit, ())

instance : Record BackendConfig where
  fields := [.required "id" .int32, .required "name" .text, .optional "priority" .int32 0,
    .optional "enabled" .truth true, .optional "properties" .properties .empty]
  ofValues := fun (id, name, priority, enabled, properties, ()) =>
    ⟨id, name, priority, enabled, properties⟩
  values b := (b.id, b.name, b.priority, b.enabled, b.properties, ())

instance : Record StoreConfig where
  fields := [.optional "username_claim_uri" .text StoreConfig.standard.usernameUri,
    .optional "require_username_claim" .truth StoreConfig.standard.requireUsername]
  ofValues := fun (usernameUri, requireUsername, ()) => ⟨usernameUri, requireUsername⟩
  values c := (c.usernameUri, c.requireUsername, ())

instance : Record Permission where
  fields := [.required "resource" .text, .required "action" .text]
  ofValues := fun (resource, action, ()) => ⟨resource, action⟩
  values p := (p.resource, p.action, ())

end Federation.Document
