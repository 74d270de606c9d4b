import Federation.Document.Forms
import Federation.Proofs.Collection.Dict
import Federation.Proofs.Document.Record
import Federation.Proofs.Text.Decimal
import Mathlib.Data.List.Perm.Basic

/-!
# Federation.Proofs.Document.ReadBack — what is written is read back

The reader and the writer of a record follow from one declaration of its fields. If the fields have
different names and each of them reads what it writes, then the record is read back from the object
that is written for it, from this object with its members in any order and with others among
them, and from the list of its values. This holds for all records of the library.
-/

namespace Federation.Document

/-! ## Order of members -/

/-- The same value; only the members of an object may stand in another order. -/
inductive Value.Reorders : Value → Value → Prop
  | same (v : Value) : Reorders v v
  | members {ms ms' : List (String × Value)} (h : ms.Perm ms') : Reorders (.object ms) (.object ms')

/-- A member with the same name, and the same value up to order. -/
structure Restates (m m' : String × Value) : Prop where
  name : m.1 = m'.1
  value : m.2.Reorders m'.2

/-! ## Formats -/

namespace Format

variable {α : Type}

/-- The format reads what it writes. -/
def Lawful (format : Format α) : Prop :=
  ∀ a v, (format.write a).Reorders v → format.read? v = some a

theorem lawful_text : text.Lawful := by
  rintro a v ⟨⟩
  rfl

theorem lawful_truth : truth.Lawful := by
  rintro a v ⟨⟩
  rfl

theorem lawful_int32 : int32.Lawful := by
  rintro a v ⟨⟩
  exact Text.Decimal.toInt32?_toInt a

theorem lawful_uint64 : uint64.Lawful := by
  rintro a v ⟨⟩
  have hbound : a.toNat < 18446744073709551616 := a.toNat_lt
  show (if 0 ≤ (a.toNat : Int) ∧ (a.toNat : Int) ≤ 18446744073709551615 then
    some (UInt64.ofNat (a.toNat : Int).toNat) else none) = some a
  rw [if_pos (by omega), Int.toNat_natCast, UInt64.ofNat_toNat]

/-- Texts that are written as members are read. -/
theorem textMembers?_written (l : List (String × String)) :
    Value.textMembers? (l.map fun e => (e.1, .text e.2)) = some l := by
  induction l with
  | nil => rfl
  | cons e rest ih =>
    rw [List.map_cons, Value.textMembers?, ih]
    rfl

/-- Properties are read back from their members in any order. -/
theorem lawful_properties : properties.Lawful := by
  intro a v h
  have hobject : ∃ ms, v = .object ms ∧ ms.Perm (a.entries.map fun e => (e.1, .text e.2)) := by
    generalize hwritten : properties.write a = w at h
    cases h with
    | same => exact ⟨_, hwritten.symm, .refl _⟩
    | members h =>
      injection hwritten with hwritten
      exact ⟨_, rfl, hwritten ▸ h.symm⟩
  obtain ⟨ms, rfl, hperm⟩ := hobject
  -- the members are those of a list of entries in the same order
  have hentries : Relation.Comp (· = List.map (fun e => (e.1, .text e.2)) ·) List.Perm ms
      a.entries := by
    rw [List.eq_map_comp_perm]
    exact hperm
  obtain ⟨l, rfl, hl⟩ := hentries
  show (Value.textMembers? _).map Dict.ofList = some a
  rw [textMembers?_written, Option.map_some, Dict.ofList_of_perm hl]

/-- A value that is given is read as such. -/
theorem orNull?_of_ne {read : Value → Option α} {v : Value} (h : v ≠ .null) :
    Value.orNull? read v = (read v).map some := by
  cases v with
  | null => contradiction
  | _ => rfl

/-- A value or its absence is read back if no value is written as `null`. -/
theorem lawful_orNull {format : Format α} (h : format.Lawful)
    (hnull : ∀ a v, (format.write a).Reorders v → v ≠ .null) : format.orNull.Lawful := by
  rintro (_ | a) v hv
  · have hv : Value.null.Reorders v := hv
    cases hv
    rfl
  · have hread := h a v hv
    have hne := hnull a v hv
    show Value.orNull? format.read? v = some (some a)
    rw [orNull?_of_ne hne, hread]
    rfl

end Format

/-! ## Values of fields -/

namespace Values

variable {fields : List Field}

/-- The members that are written have the names of the fields. -/
theorem names_members (x : Values fields) :
    (members fields x).map (·.1) = fields.map (·.name) := by
  induction fields with
  | nil => rfl
  | cons f fields ih => exact congrArg (f.name :: ·) (ih x.2)

/-- Members that restate others have the same names. -/
theorem names_of_restates {ms ms' : List (String × Value)} (h : List.Forall₂ Restates ms ms') :
    ms'.map (·.1) = ms.map (·.1) := by
  induction h with
  | nil => rfl
  | cons hm _ ih => rw [List.map_cons, List.map_cons, ih, hm.name]

/-- Values are read back from what is written for them, in any order and with other members. -/
theorem ofMembers?_of_perm (hnames : (fields.map (·.name)).Nodup)
    (hlawful : ∀ f ∈ fields, f.format.Lawful) (x : Values fields)
    {ms ours others : List (String × Value)} (hours : List.Forall₂ Restates (members fields x) ours)
    (hperm : ms.Perm (ours ++ others)) (hothers : ∀ m ∈ others, m.1 ∉ fields.map (·.name)) :
    ofMembers? fields ms = some x := by
  induction fields generalizing ms ours with
  | nil => exact ofMembers?_nil ms
  | cons f fields ih =>
    rcases x with ⟨a, rest⟩
    rcases hours with _ | ⟨⟨hname, hvalue⟩, hours⟩
    rename_i m ours
    rcases m with ⟨key, v⟩
    have hkey : f.name = key := hname
    subst hkey
    rcases List.nodup_cons.1 hnames with ⟨hfirst, hnames⟩
    rcases List.forall_mem_cons.1 hlawful with ⟨hread, hlawful⟩
    -- no other member has the name of the first field
    have hne : ∀ m ∈ ours ++ others, m.1 ≠ f.name := by
      intro m hm hsame
      rcases List.mem_append.1 hm with hm | hm
      · have hlisted : m.1 ∈ ours.map (·.1) := List.mem_map_of_mem hm
        rw [names_of_restates hours, names_members, hsame] at hlisted
        exact hfirst hlisted
      · exact hothers m hm (hsame ▸ List.mem_cons_self)
    have hgiven : given f.name ms = [v] := by
      have hpermuted := given_perm f.name hperm
      rw [List.cons_append, given_cons_self, given_of_forall_ne hne] at hpermuted
      exact List.perm_singleton.1 hpermuted
    have hbesides : (besides f.name ms).Perm (ours ++ others) := by
      have hpermuted := besides_perm f.name hperm
      rwa [List.cons_append, besides_cons_self, besides_of_forall_ne hne] at hpermuted
    have hlater : ∀ m ∈ others, m.1 ∉ fields.map (·.name) :=
      fun m hm hmem => hothers m hm (List.mem_cons_of_mem _ hmem)
    have hpick : f.pick? [v] = some a := hread a v hvalue
    rw [ofMembers?_cons, hgiven, hpick, Option.bind_some,
      ih hnames hlawful rest hours hbesides hlater]
    rfl

/-- Values are read back from the list of what is written for them. -/
theorem ofItems?_of_reorders (hlawful : ∀ f ∈ fields, f.format.Lawful) (x : Values fields)
    {items : List Value}
    (h : List.Forall₂ Value.Reorders ((members fields x).map (·.2)) items) :
    ofItems? fields items = some x := by
  induction fields generalizing items with
  | nil =>
    cases h
    rfl
  | cons f fields ih =>
    rcases x with ⟨a, rest⟩
    rcases h with _ | ⟨hvalue, hrest⟩
    rcases List.forall_mem_cons.1 hlawful with ⟨hread, hlawful⟩
    rw [ofItems?, hread a _ hvalue, ih hlawful rest hrest]
    rfl

end Values

/-! ## Records -/

/-- A type of records of which the fields have different names and are read as they are written,
and which are nothing but the values of their fields. -/
class LawfulRecord (α : Type) [Record α] : Prop where
  names : ((Record.fields α).map (·.name)).Nodup
  formats : ∀ f ∈ Record.fields α, f.format.Lawful
  ofValues_values : ∀ a : α, Record.ofValues (Record.values a) = a

namespace Record

variable {α : Type} [Record α]

/-- The records of a type are written as objects of the given form, and read back. -/
structure ReadsBack (form : α → List (String × Value)) : Prop where
  formed : ∀ a : α, toValue a = .object (form a)
  /-- The object that is written is read as the record. -/
  written : ∀ a : α, ofValue? (toValue a) = some a
  /-- So is an object with the same members in any order, among any others that have other
  names. -/
  shuffled : ∀ (a : α) (ms ours others : List (String × Value)),
    List.Forall₂ Restates (form a) ours → ms.Perm (ours ++ others) →
    (∀ m ∈ others, m.1 ∉ (form a).map (·.1)) → ofValue? (.object ms) = some a
  /-- So is the list of the values in the order of the fields. -/
  listed : ∀ (a : α) (items : List Value),
    List.Forall₂ Value.Reorders ((form a).map (·.2)) items → ofValue? (.list items) = some a

/-- Lawful records are read back. -/
theorem readsBack_of_lawful [LawfulRecord α] {form : α → List (String × Value)}
    (hform : ∀ a, members a = form a) : ReadsBack form := by
  obtain rfl : members = form := funext hform
  have hshuffled : ∀ (a : α) (ms ours others : List (String × Value)),
      List.Forall₂ Restates (members a) ours → ms.Perm (ours ++ others) →
      (∀ m ∈ others, m.1 ∉ (members a).map (·.1)) → ofValue? (.object ms) = some a := by
    intro a ms ours others hours hperm hothers
    rw [members, Values.names_members] at hothers
    rw [ofValue?, Values.ofMembers?_of_perm LawfulRecord.names LawfulRecord.formats (values a)
      hours hperm hothers, Option.map_some, LawfulRecord.ofValues_values]
  constructor
  case formed => exact fun a => rfl
  case written =>
    intro a
    have hsame : List.Forall₂ Restates (members a) (members a) :=
      List.forall₂_same.2 fun m _ => ⟨rfl, .same m.2⟩
    exact hshuffled a (members a) (members a) [] hsame (by rw [List.append_nil])
      (List.forall_mem_nil _)
  case shuffled => exact hshuffled
  case listed =>
    intro a items h
    rw [ofValue?, Values.ofItems?_of_reorders LawfulRecord.formats (values a) h, Option.map_some,
      LawfulRecord.ofValues_values]

end Record

/-! ## The records of the library -/

section Instances

open Format

instance : LawfulRecord Claim where
  names := by decide
  formats := by simp [Record.fields, Field.required, lawful_text]
  ofValues_values _ := rfl

instance : LawfulRecord MetaClaim where
  names := by decide
  formats := by
    simp [Record.fields, Field.required, Field.optional, lawful_text, lawful_properties]
  ofValues_values _ := rfl

instance : LawfulRecord Page where
  names := by decide
  formats := by
    have hlimit : uint64.orNull.Lawful := by
      apply lawful_orNull lawful_uint64
      rintro n v ⟨⟩ hnull
      contradiction
    simp [Record.fields, Field.required, Field.nullable, lawful_uint64, hlimit]
  ofValues_values _ := rfl

instance : LawfulRecord BackendConfig where
  names := by decide
  formats := by
    simp [Record.fields, Field.required, Field.optional, lawful_text, lawful_int32, lawful_truth,
      lawful_properties]
  ofValues_values _ := rfl

instance : LawfulRecord StoreConfig where
  names := by decide
  formats := by simp [Record.fields, Field.optional, lawful_text, lawful_truth]
  ofValues_values _ := rfl

instance : LawfulRecord Permission where
  names := by decide
  formats := by simp [Record.fields, Field.required, lawful_text]
  ofValues_values _ := rfl

end Instances

/-- All records of the library are read back: from the object that is written, from the same
object with its members in any order and with any others among them, and from the list of the
values of the fields in the order of their declaration. -/
theorem records_readBack :
    (Record.ReadsBack fun c : Claim =>
      [("claim_uri", .text c.uri), ("value", .text c.value)]) ∧
    (Record.ReadsBack fun m : MetaClaim =>
      [("dialect_uri", .text m.dialect), ("claim_uri", .text m.uri),
       ("properties", .object (m.properties.entries.map fun e => (e.1, .text e.2)))]) ∧
    (Record.ReadsBack fun p : Page =>
      [("offset", .integer p.offset.toNat),
       ("limit", p.limit.elim .null fun n => .integer n.toNat)]) ∧
    (Record.ReadsBack fun b : BackendConfig =>
      [("id", .integer b.id.toInt), ("name", .text b.name),
       ("priority", .integer b.priority.toInt), ("enabled", .truth b.enabled),
       ("properties", .object (b.properties.entries.map fun e => (e.1, .text e.2)))]) ∧
    (Record.ReadsBack fun c : StoreConfig =>
      [("username_claim_uri", .text c.usernameUri),
       ("require_username_claim", .truth c.requireUsername)]) ∧
    (Record.ReadsBack fun p : Permission =>
      [("resource", .text p.resource), ("action", .text p.action)]) := by
  have hpage : ∀ p : Page, Record.members p = [("offset", .integer p.offset.toNat),
      ("limit", p.limit.elim .null fun n => .integer n.toNat)] := by
    rintro ⟨offset, _ | limit⟩
    · rfl
    · rfl
  refine ⟨?claim, ?metaClaim, ?page, ?backend, ?store, ?permission⟩
  case page => exact Record.readsBack_of_lawful hpage
  all_goals exact Record.readsBack_of_lawful fun _ => rfl

/-- The limit of a page stands first, and a member that pages do not have stands there twice. -/
example :
    Record.ofValue? (.object [("limit", .null), ("total", .integer 3), ("total", .null),
      ("offset", .integer 18446744073709551615)]) =
      some (⟨18446744073709551615, none⟩ : Page) := by
  rfl

end Federation.Document
