import Federation.Proofs.Document.ReadBack

/-!
# Federation.Proofs.Document.Acceptance — which objects are records

What an object must be like to be read as a record, said clause by clause and without the reader:
how often each field occurs, what its value stands for, and what holds if it is left out. Exactly
the objects that satisfy the clauses are read, as the record that the clauses describe. So neither
the order of the members matters, nor what other members there are.
-/

namespace Federation.Document

/-! ## What values stand for -/

namespace Stands

/-- A text stands for itself. -/
def text (v : Value) (s : String) : Prop := v = .text s

/-- A truth value stands for itself. -/
def truth (v : Value) (b : Bool) : Prop := v = .truth b

/-- An integer of 32 bits with sign stands for itself. -/
def int32 (v : Value) (n : Int32) : Prop := v = .integer n.toInt

/-- An integer of 64 bits without sign stands for itself. -/
def uint64 (v : Value) (n : UInt64) : Prop := v = .integer n.toNat

/-- An object of texts stands for the text that each key is given last. -/
def properties (v : Value) (d : Dict String String) : Prop :=
  ∃ entries : List (String × String), v = .object (entries.map fun e => (e.1, .text e.2)) ∧
    ∀ key, d.get? key = (entries.reverse.find? (·.1 = key)).map (·.2)

/-- Besides, `null` stands for nothing. -/
def orNull {α : Type} (stands : Value → α → Prop) (v : Value) : Option α → Prop
  | none => v = .null
  | some a => stands v a

end Stands

namespace Format

variable {α : Type}

/-- The format reads a value exactly as what it stands for. -/
def Reads (format : Format α) (stands : Value → α → Prop) : Prop :=
  ∀ v a, format.read? v = some a ↔ stands v a

theorem reads_text : text.Reads Stands.text := by
  intro v s
  show v.text? = some s ↔ v = .text s
  cases v with
  | text s' => rw [Value.text?, Option.some.injEq, Value.text.injEq]
  | _ => simp [Value.text?]

theorem reads_truth : truth.Reads Stands.truth := by
  intro v b
  show v.truth? = some b ↔ v = .truth b
  cases v with
  | truth b' => rw [Value.truth?, Option.some.injEq, Value.truth.injEq]
  | _ => simp [Value.truth?]

theorem reads_int32 : int32.Reads Stands.int32 := by
  intro v n
  show v.int32? = some n ↔ v = .integer n.toInt
  cases v with
  | integer z => rw [Value.int32?, Text.Decimal.toInt32?_eq_some_iff, Value.integer.injEq]
  | _ => simp [Value.int32?]

theorem reads_uint64 : uint64.Reads Stands.uint64 := by
  intro v n
  constructor
  · intro h
    have hread : v.uint64? = some n := h
    cases v with
    | integer z =>
      rw [Value.uint64?] at hread
      split at hread
      · have hn : n.toNat = z.toNat := by
          rw [← Option.some.inj hread, UInt64.toNat_ofNat_of_lt']
          show z.toNat < 18446744073709551616
          omega
        have hz : z = n.toNat := by omega
        rw [Stands.uint64, hz]
      · contradiction
    | _ => contradiction
  · rintro rfl
    exact lawful_uint64 n _ (.same _)

/-- The members of an object are read as texts exactly if they are texts. -/
theorem textMembers?_eq_some_iff {ms : List (String × Value)} {l : List (String × String)} :
    Value.textMembers? ms = some l ↔ ms = l.map fun e => (e.1, .text e.2) := by
  constructor
  · intro h
    induction ms generalizing l with
    | nil =>
      rw [Value.textMembers?] at h
      rw [← Option.some.inj h, List.map_nil]
    | cons m rest ih =>
      rcases m with ⟨key, v⟩
      simp only [Value.textMembers?, Option.bind_eq_bind, Option.bind_eq_some_iff] at h
      obtain ⟨s, hs, others, hothers, hl⟩ := h
      have hv : v = .text s := (reads_text v s).1 hs
      rw [← Option.some.inj hl, List.map_cons, ← ih hothers, hv]
  · rintro rfl
    exact textMembers?_written l

theorem reads_properties : properties.Reads Stands.properties := by
  intro v d
  constructor
  · intro h
    have hread : v.texts? = some d := h
    cases v with
    | object ms =>
      rw [Value.texts?, Option.map_eq_some_iff] at hread
      obtain ⟨entries, hentries, rfl⟩ := hread
      rw [textMembers?_eq_some_iff.1 hentries]
      exact ⟨entries, rfl, Dict.get?_ofList entries⟩
    | _ => contradiction
  · rintro ⟨entries, rfl, hget⟩
    have hd : Dict.ofList entries = d := by
      apply Dict.ext_get?
      intro key
      rw [Dict.get?_ofList, hget]
    show (Value.textMembers? _).map Dict.ofList = some d
    rw [textMembers?_written, Option.map_some, hd]

/-- A format that does not read `null` may be given it for nothing. -/
theorem Reads.orNull {format : Format α} {stands : Value → α → Prop} (h : format.Reads stands)
    (hnull : ∀ a, ¬ stands .null a) : format.orNull.Reads (Stands.orNull stands) := by
  intro v o
  show Value.orNull? format.read? v = some o ↔ Stands.orNull stands v o
  by_cases hv : v = .null
  · subst hv
    cases o with
    | none => exact iff_of_true rfl rfl
    | some a => exact iff_of_false (by simp [Value.orNull?]) (hnull a)
  · rw [orNull?_of_ne hv]
    cases o with
    | none => exact iff_of_false (by simp) hv
    | some a =>
      rw [Option.map_eq_some_iff]
      constructor
      · rintro ⟨a', hread, hsame⟩
        rw [← Option.some.inj hsame]
        exact (h v a').1 hread
      · intro hstands
        exact ⟨a, (h v a).2 hstands, rfl⟩

end Format

/-! ## Clauses -/

/-- What the description of a record says of one field. -/
structure Clause (α : Type) where
  name : String
  {type : Type}
  /-- What the values of the field stand for. -/
  stands : Value → type → Prop
  /-- What holds if the field is left out. -/
  default : Option type
  /-- What a record has in the field. -/
  part : α → type

namespace Clause

variable {α : Type} {c : Clause α} {vs vs' : List Value} {a : α}

/-- The clause allows that the values are given for the field: it is one at most, there is one if
there is no default, and it stands for something. -/
structure Allows (c : Clause α) (vs : List Value) : Prop where
  once : vs.length ≤ 1
  present : c.default = none → vs ≠ []
  typed : ∀ v ∈ vs, ∃ x, c.stands v x

/-- The record has in the field what is given for it, or else the default. -/
structure Describes (c : Clause α) (vs : List Value) (a : α) : Prop where
  given : ∀ v ∈ vs, c.stands v (c.part a)
  omitted : vs = [] → c.default = some (c.part a)

theorem Allows.perm (h : c.Allows vs) (hperm : vs.Perm vs') : c.Allows vs' := by
  constructor
  case once => exact hperm.length_eq ▸ h.once
  case present =>
    rintro hdefault rfl
    exact h.present hdefault hperm.eq_nil
  case typed =>
    intro v hv
    exact h.typed v (hperm.mem_iff.2 hv)

theorem Describes.perm (h : c.Describes vs a) (hperm : vs.Perm vs') : c.Describes vs' a := by
  constructor
  case given =>
    intro v hv
    exact h.given v (hperm.mem_iff.2 hv)
  case omitted =>
    rintro rfl
    exact h.omitted hperm.eq_nil

end Clause

/-! ## Fields -/

namespace Field

variable {α : Type} {f : Field} {stands : Value → f.type → Prop}

/-- The clause for a field. -/
def clause (f : Field) (stands : Value → f.type → Prop) (part : α → f.type) : Clause α :=
  ⟨f.name, stands, f.default, part⟩

/-- There is a value for the field exactly if its clause allows what is given. -/
theorem exists_pick?_iff (hreads : f.format.Reads stands) (part : α → f.type) (vs : List Value) :
    (∃ x, f.pick? vs = some x) ↔ (f.clause stands part).Allows vs := by
  match vs with
  | [] =>
    constructor
    · rintro ⟨x, hx⟩
      have hdefault : f.default = some x := hx
      constructor
      case once => exact Nat.zero_le 1
      case present =>
        intro hnone
        have hnone : f.default = none := hnone
        rw [hdefault] at hnone
        contradiction
      case typed => exact fun v hv => absurd hv List.not_mem_nil
    · intro h
      exact Option.ne_none_iff_exists'.1 fun hnone => h.present hnone rfl
  | [v] =>
    constructor
    · rintro ⟨x, hx⟩
      have hstands : stands v x := (hreads v x).1 hx
      constructor
      case once => exact Nat.le_refl 1
      case present => exact fun _ => List.cons_ne_nil _ _
      case typed => exact List.forall_mem_singleton.2 ⟨x, hstands⟩
    · intro h
      obtain ⟨x, hx⟩ := h.typed v (List.mem_singleton_self v)
      exact ⟨x, (hreads v x).2 hx⟩
  | v :: v' :: rest =>
    constructor
    · rintro ⟨x, hx⟩
      contradiction
    · intro h
      exact absurd h.once (by simp)

/-- The value is that of a record exactly if the clause describes the record. -/
theorem pick?_eq_part_iff (hreads : f.format.Reads stands) (part : α → f.type) (vs : List Value)
    (a : α) : f.pick? vs = some (part a) ↔
      (f.clause stands part).Allows vs ∧ (f.clause stands part).Describes vs a := by
  constructor
  · intro h
    refine ⟨(exists_pick?_iff hreads part vs).1 ⟨_, h⟩, ?_⟩
    match vs with
    | [] => exact ⟨fun v hv => absurd hv List.not_mem_nil, fun _ => h⟩
    | [v] =>
      constructor
      case given => exact List.forall_mem_singleton.2 ((hreads v _).1 h)
      case omitted => exact fun hnil => absurd hnil (List.cons_ne_nil _ _)
    | v :: v' :: rest => contradiction
  · rintro ⟨hallows, hdescribes⟩
    match vs with
    | [] => exact hdescribes.omitted rfl
    | [v] => exact (hreads v _).2 (hdescribes.given v (List.mem_singleton_self v))
    | v :: v' :: rest => exact absurd hallows.once (by simp)

end Field

/-! ## All fields -/

/-- If no member with the name is left out, the same is given under it. -/
theorem given_filter {name : String} {p : String × Value → Bool}
    (h : ∀ m, m.1 = name → p m = true) (ms : List (String × Value)) :
    given name (ms.filter p) = given name ms := by
  have hfilter : ms.filter (fun m => decide (m.1 = name) && p m) = ms.filter (·.1 = name) := by
    apply List.filter_congr
    intro m _
    by_cases hm : m.1 = name
    · simp [hm, h m hm]
    · simp [hm]
  rw [given, List.filter_filter, hfilter, given]

namespace Values

/-- An object is read as values exactly if the first of them is read of what is given for the
first field, and the others of the other members. -/
theorem ofMembers?_cons_eq_some_iff {f : Field} {fields : List Field}
    {ms : List (String × Value)} {a : f.type} {rest : Values fields} :
    ofMembers? (f :: fields) ms = some (a, rest) ↔
      f.pick? (given f.name ms) = some a ∧ ofMembers? fields (besides f.name ms) = some rest := by
  constructor
  · intro h
    have hread := (ofMembers?_cons f fields ms).symm.trans h
    obtain ⟨a', ha, hrest⟩ := Option.bind_eq_some_iff.1 hread
    obtain ⟨rest', hrest', hsame⟩ := Option.map_eq_some_iff.1 hrest
    injection hsame with hfirst hothers
    exact ⟨hfirst ▸ ha, hothers ▸ hrest'⟩
  · rintro ⟨ha, hrest⟩
    rw [ofMembers?_cons, ha, hrest]
    rfl

end Values

section Declares

variable {α : Type} {fields : List Field} {values : α → Values fields} {clauses : List (Clause α)}

/-- The clauses say what the declaration of the fields means, for records that have these values
in them. -/
inductive Declares : (fields : List Field) → (α → Values fields) → List (Clause α) → Prop
  | nil {values : α → Values []} : Declares [] values []
  | cons {f : Field} {fields : List Field} {values : α → Values (f :: fields)}
    {stands : Value → f.type → Prop} {clauses : List (Clause α)}
    (hreads : f.format.Reads stands) (hrest : Declares fields (fun a => (values a).2) clauses) :
    Declares (f :: fields) values (f.clause stands (fun a => (values a).1) :: clauses)

theorem Declares.names (h : Declares fields values clauses) :
    clauses.map (·.name) = fields.map (·.name) := by
  induction h with
  | nil => rfl
  | cons hreads hrest ih => exact congrArg (_ :: ·) ih

/-- Clauses that are about other names do not notice if the members for a field are left out. -/
theorem forall_given_besides {f : Field} (hne : ∀ c ∈ clauses, c.name ≠ f.name)
    (P : Clause α → List Value → Prop) (ms : List (String × Value)) :
    (∀ c ∈ clauses, P c (given c.name (besides f.name ms))) ↔
      ∀ c ∈ clauses, P c (given c.name ms) := by
  have hgiven : ∀ c ∈ clauses, given c.name (besides f.name ms) = given c.name ms := by
    intro c hc
    apply given_filter
    intro m hm
    rw [hm]
    exact decide_eq_true (hne c hc)
  constructor
  · intro h c hc
    rw [← hgiven c hc]
    exact h c hc
  · intro h c hc
    rw [hgiven c hc]
    exact h c hc

/-- If all fields have different names, the clauses of the others are about other names. -/
theorem Declares.ne_name {f : Field} (h : Declares fields values clauses)
    (hfirst : f.name ∉ fields.map (·.name)) : ∀ c ∈ clauses, c.name ≠ f.name := by
  intro c hc hsame
  have hlisted : c.name ∈ clauses.map (·.name) := List.mem_map_of_mem hc
  rw [h.names, hsame] at hlisted
  exact hfirst hlisted

/-- An object is read exactly if the clauses allow what is given. -/
theorem Declares.exists_iff (h : Declares fields values clauses)
    (hnames : (fields.map (·.name)).Nodup) (ms : List (String × Value)) :
    (∃ x, Values.ofMembers? fields ms = some x) ↔
      ∀ c ∈ clauses, c.Allows (given c.name ms) := by
  induction h generalizing ms with
  | nil =>
    constructor
    · exact fun _ => List.forall_mem_nil _
    · exact fun _ => ⟨(), Values.ofMembers?_nil ms⟩
  | cons hreads hrest ih =>
    rename_i f fields values stands clauses
    rcases List.nodup_cons.1 hnames with ⟨hfirst, hnames⟩
    rw [List.forall_mem_cons, ← forall_given_besides (hrest.ne_name hfirst) _ ms, ← ih hnames]
    have hpick := Field.exists_pick?_iff hreads (fun a => (values a).1) (given f.name ms)
    constructor
    · rintro ⟨⟨a, rest⟩, hread⟩
      obtain ⟨hfirst, hothers⟩ := Values.ofMembers?_cons_eq_some_iff.1 hread
      exact ⟨hpick.1 ⟨a, hfirst⟩, ⟨rest, hothers⟩⟩
    · rintro ⟨hallows, rest, hothers⟩
      obtain ⟨a, hfirst⟩ := hpick.2 hallows
      exact ⟨(a, rest), Values.ofMembers?_cons_eq_some_iff.2 ⟨hfirst, hothers⟩⟩

/-- It is read as the record that the clauses describe. -/
theorem Declares.eq_some_iff (h : Declares fields values clauses)
    (hnames : (fields.map (·.name)).Nodup) (ms : List (String × Value)) (a : α) :
    Values.ofMembers? fields ms = some (values a) ↔
      ∀ c ∈ clauses, c.Allows (given c.name ms) ∧ c.Describes (given c.name ms) a := by
  induction h generalizing ms with
  | nil =>
    constructor
    · exact fun _ => List.forall_mem_nil _
    · exact fun _ => Values.ofMembers?_nil ms
  | cons hreads hrest ih =>
    rename_i f fields values stands clauses
    rcases List.nodup_cons.1 hnames with ⟨hfirst, hnames⟩
    have hpick := Field.pick?_eq_part_iff hreads (fun a => (values a).1) (given f.name ms) a
    have hbesides := forall_given_besides (hrest.ne_name hfirst)
      (fun c vs => c.Allows vs ∧ c.Describes vs a) ms
    rw [List.forall_mem_cons, ← hbesides, ← ih hnames]
    exact Values.ofMembers?_cons_eq_some_iff.trans (and_congr_left' hpick)

end Declares

/-! ## Records -/

namespace Record

variable {α : Type} [Record α] {clauses : List (Clause α)}

/-- Records are read from exactly the objects that satisfy the clauses. -/
structure ReadsExactly (clauses : List (Clause α)) : Prop where
  /-- An object is accepted exactly if every clause allows what is given for its field. -/
  accepted : ∀ ms, (∃ a : α, ofValue? (.object ms) = some a) ↔
    ∀ c ∈ clauses, c.Allows (given c.name ms)
  /-- It is then read as the one record that the clauses describe. -/
  described : ∀ ms (a : α), ofValue? (.object ms) = some a ↔
    ∀ c ∈ clauses, c.Allows (given c.name ms) ∧ c.Describes (given c.name ms) a
  /-- The order of the members does not matter, nor do members that no clause is about. -/
  heedless : ∀ ms ms', (ms.filter (·.1 ∈ clauses.map (·.name))).Perm
    (ms'.filter (·.1 ∈ clauses.map (·.name))) →
      (ofValue? (.object ms) : Option α) = ofValue? (.object ms')

/-- This holds for all lawful records of which the clauses say what the fields are. -/
theorem readsExactly_of_declares [LawfulRecord α]
    (hvalues : ∀ x : Values (fields α), values (ofValues x : α) = x)
    (h : Declares (fields α) values clauses) : ReadsExactly clauses := by
  have haccepted : ∀ ms, (∃ a : α, ofValue? (.object ms) = some a) ↔
      ∀ c ∈ clauses, c.Allows (given c.name ms) := by
    intro ms
    rw [← h.exists_iff LawfulRecord.names]
    constructor
    · rintro ⟨a, ha⟩
      obtain ⟨x, hx, -⟩ := Option.map_eq_some_iff.1 ha
      exact ⟨x, hx⟩
    · rintro ⟨x, hx⟩
      exact ⟨ofValues x, Option.map_eq_some_iff.2 ⟨x, hx, rfl⟩⟩
  have hdescribed : ∀ ms (a : α), ofValue? (.object ms) = some a ↔
      ∀ c ∈ clauses, c.Allows (given c.name ms) ∧ c.Describes (given c.name ms) a := by
    intro ms a
    rw [← h.eq_some_iff LawfulRecord.names]
    constructor
    · intro ha
      obtain ⟨x, hx, rfl⟩ := Option.map_eq_some_iff.1 ha
      rw [hvalues]
      exact hx
    · intro hx
      exact Option.map_eq_some_iff.2 ⟨values a, hx, LawfulRecord.ofValues_values a⟩
  constructor
  case accepted => exact haccepted
  case described => exact hdescribed
  case heedless =>
    have hone : ∀ ms ms', (ms.filter (·.1 ∈ clauses.map (·.name))).Perm
        (ms'.filter (·.1 ∈ clauses.map (·.name))) → ∀ a : α,
          ofValue? (.object ms) = some a → ofValue? (.object ms') = some a := by
      intro ms ms' hperm a ha
      apply (hdescribed ms' a).2
      intro c hc
      -- for each field the same values are given, in another order perhaps
      have hkept : ∀ m : String × Value, m.1 = c.name →
          decide (m.1 ∈ clauses.map (·.name)) = true := by
        intro m hm
        rw [hm]
        exact decide_eq_true (List.mem_map_of_mem hc)
      have hgiven := given_perm c.name hperm
      rw [given_filter hkept, given_filter hkept] at hgiven
      obtain ⟨hallows, hdescribes⟩ := (hdescribed ms a).1 ha c hc
      exact ⟨hallows.perm hgiven, hdescribes.perm hgiven⟩
    intro ms ms' hperm
    apply Option.ext
    intro a
    exact ⟨hone ms ms' hperm a, hone ms' ms hperm.symm a⟩

end Record

/-- All records of the library are read from exactly the objects that satisfy their clauses: no
field is given twice, a field without a default is given, and a field that is given has a value of
its type. The record then has what is given, and the defaults of the fields that are not. -/
theorem records_accepted :
    Record.ReadsExactly (α := Claim)
      [⟨"claim_uri", Stands.text, none, (·.uri)⟩, ⟨"value", Stands.text, none, (·.value)⟩] ∧
    Record.ReadsExactly (α := MetaClaim)
      [⟨"dialect_uri", Stands.text, none, (·.dialect)⟩, ⟨"claim_uri", Stands.text, none, (·.uri)⟩,
       ⟨"properties", Stands.properties, some .empty, (·.properties)⟩] ∧
    Record.ReadsExactly (α := Page)
      [⟨"offset", Stands.uint64, none, (·.offset)⟩,
       ⟨"limit", Stands.orNull Stands.uint64, some none, (·.limit)⟩] ∧
    Record.ReadsExactly (α := BackendConfig)
      [⟨"id", Stands.int32, none, (·.id)⟩, ⟨"name", Stands.text, none, (·.name)⟩,
       ⟨"priority", Stands.int32, some 0, (·.priority)⟩,
       ⟨"enabled", Stands.truth, some true, (·.enabled)⟩,
       ⟨"properties", Stands.properties, some .empty, (·.properties)⟩] ∧
    Record.ReadsExactly (α := StoreConfig)
      [⟨"username_claim_uri", Stands.text, some "http://wso2.org/claims/username",
        (·.usernameUri)⟩,
       ⟨"require_username_claim", Stands.truth, some true, (·.requireUsername)⟩] ∧
    Record.ReadsExactly (α := Permission)
      [⟨"resource", Stands.text, none, (·.resource)⟩,
       ⟨"action", Stands.text, none, (·.action)⟩] := by
  have hlimit : Format.uint64.orNull.Reads (Stands.orNull Stands.uint64) := by
    apply Format.reads_uint64.orNull
    intro n hnull
    contradiction
  refine ⟨?claim, ?metaClaim, ?page, ?backend, ?store, ?permission⟩
  case claim =>
    exact Record.readsExactly_of_declares (fun _ => rfl)
      (.cons Format.reads_text (.cons Format.reads_text .nil))
  case metaClaim =>
    exact Record.readsExactly_of_declares (fun _ => rfl)
      (.cons Format.reads_text (.cons Format.reads_text (.cons Format.reads_properties .nil)))
  case page =>
    exact Record.readsExactly_of_declares (fun _ => rfl)
      (.cons Format.reads_uint64 (.cons hlimit .nil))
  case backend =>
    exact Record.readsExactly_of_declares (fun _ => rfl)
      (.cons Format.reads_int32 (.cons Format.reads_text (.cons Format.reads_int32
        (.cons Format.reads_truth (.cons Format.reads_properties .nil)))))
  case store =>
    exact Record.readsExactly_of_declares (fun _ => rfl)
      (.cons Format.reads_text (.cons Format.reads_truth .nil))
  case permission =>
    exact Record.readsExactly_of_declares (fun _ => rfl)
      (.cons Format.reads_text (.cons Format.reads_text .nil))

/-- The priority is left out, the name is given among a foreign member that occurs twice, and a
limit that is too great is no limit. -/
example :
    (Record.ofValue? (.object [("name", .text "hr"), ("tag", .null), ("id", .integer (-1)),
      ("tag", .integer 5)]) : Option BackendConfig) = some ⟨-1, "hr", 0, true, .empty⟩ ∧
    (Record.ofValue? (.object [("offset", .integer 0),
      ("limit", .integer 18446744073709551616)]) : Option Page) = none := by
  decide

end Federation.Document
