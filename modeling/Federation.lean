import Federation.Text.Base64
import Federation.Text.Blank
import Federation.Text.Casing
import Federation.Text.Decimal
import Federation.Text.Pattern
import Federation.Text.Quoted
import Federation.Authority
import Federation.Backend.Default
import Federation.Dialogue
import Federation.Directory.Basic
import Federation.Directory.Network
import Federation.Document.Forms
import Federation.Document.Hex
import Federation.Document.Json
import Federation.Document.Toml.Lexical
import Federation.Document.Toml.Moment
import Federation.Document.Toml.Number
import Federation.Document.Toml.Reader
import Federation.Registry
import Federation.Session
import Federation.Store.ConfigFile
import Federation.Proofs.Registry.Construction
import Federation.Proofs.Registry.Reordering
import Federation.Proofs.Registry.Respelling
import Federation.Proofs.UniqueId
import Federation.Proofs.Backend.Config
import Federation.Proofs.Collection.Dict
import Federation.Proofs.Directory.Deletion
import Federation.Proofs.Directory.Effects
import Federation.Proofs.Directory.Memberships
import Federation.Proofs.Directory.Passwords
import Federation.Proofs.Directory.Selection
import Federation.Proofs.Document.ReadBack
import Federation.Proofs.Store.Acceptance
import Federation.Proofs.Store.AuditEvents
import Federation.Proofs.Store.Authentication
import Federation.Proofs.Store.Batch
import Federation.Proofs.Store.Deletion
import Federation.Proofs.Store.Discretion
import Federation.Proofs.Store.Enabled
import Federation.Proofs.Store.Failures
import Federation.Proofs.Store.Handles
import Federation.Proofs.Store.Interleaving
import Federation.Proofs.Store.InvalidInput
import Federation.Proofs.Store.Listing
import Federation.Proofs.Store.Lookup
import Federation.Proofs.Store.Membership
import Federation.Proofs.Store.MembershipCheck
import Federation.Proofs.Store.MembershipUpdate
import Federation.Proofs.Store.NamedLogin
import Federation.Proofs.Store.Paging
import Federation.Proofs.Store.RecordEdit
import Federation.Proofs.Store.Recorded
import Federation.Proofs.Store.Replacement
import Federation.Proofs.Store.Rotation
import Federation.Proofs.Store.Routing
import Federation.Proofs.Store.Secrecy
import Federation.Proofs.Store.SelectedClaims
import Federation.Proofs.Store.Spelling
import Federation.Proofs.Session.Atomicity
import Federation.Proofs.Session.MembershipViews
import Federation.Proofs.Document.Acceptance
import Federation.Proofs.Session.Comparison
