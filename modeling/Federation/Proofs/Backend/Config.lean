import Federation.Backend.Config
import Federation.Proofs.Collection.Dict
import Federation.Proofs.Text.Numeral
import Federation.Proofs.UniqueId

/-!
# Federation.Proofs.Backend.Config — what a configuration holds

A property is a 32-bit integer exactly if it is a numeral of one; no numeral of another number is
taken for it, however long it is. A configuration that is built from settings holds what was said
last about each subject, so only the order of settings about one subject matters.
-/

namespace Federation

/-! ## Integer properties -/

namespace BackendConfig

open Text.Decimal (Numeral Canonical writeInt32)

/-- How the property with the key is read as a 32-bit integer. -/
structure ReadsInt32 (c : BackendConfig) (key : String) : Prop where
  /-- It is read as an integer exactly if it is a numeral of it. -/
  read : ∀ n, c.getInt32? key = some n ↔
    ∃ text, c.get? key = some text ∧ Numeral text.toList n.toInt
  /-- It is not read exactly if it is no numeral, or one of a number out of range. -/
  refused : c.getInt32? key = none ↔ ∀ text, c.get? key = some text →
    ∀ z, Numeral text.toList z → z < -2147483648 ∨ 2147483647 < z
  /-- What is written for an integer is read as that integer, -/
  written : ∀ n, c.get? key = some (writeInt32 n) → c.getInt32? key = some n
  /-- and of all texts that are read as it, it is the canonical one. -/
  canonical : ∀ text n, c.get? key = some text → c.getInt32? key = some n →
    (Canonical text.toList ↔ text = writeInt32 n)

theorem getInt32?_eq_some_iff {c : BackendConfig} {key : String} {n : Int32} :
    c.getInt32? key = some n ↔ ∃ text, c.get? key = some text ∧ Numeral text.toList n.toInt := by
  rw [getInt32?, Option.bind_eq_some_iff]
  simp only [Text.Decimal.readInt32?_eq_some_iff]

theorem getInt32?_eq_none_iff {c : BackendConfig} {key : String} :
    c.getInt32? key = none ↔ ∀ text, c.get? key = some text →
      ∀ z, Numeral text.toList z → z < -2147483648 ∨ 2147483647 < z := by
  rw [getInt32?, Option.bind_eq_none_iff]
  simp only [Text.Decimal.readInt32?_eq_none_iff]

end BackendConfig

/-- A plain form is read exactly if the backend id in it is the canonical numeral of a 32-bit
integer and there is a local id after it. -/
theorem EntityId.ofPlain?_eq_some_iff {plain : String} {e : EntityId} :
    ofPlain? plain = some e ↔ e.localId ≠ "" ∧ ∃ text, plain = text ++ "." ++ e.localId ∧
      Text.Decimal.Numeral text.toList e.backend.toInt ∧ Text.Decimal.Canonical text.toList := by
  constructor
  · intro h
    rcases eq_plain_of_ofPlain? h with ⟨hplain, hlocal⟩
    exact ⟨hlocal, _, hplain, Text.Decimal.eq_writeInt32_iff.1 rfl⟩
  · rintro ⟨hlocal, text, rfl, hnumeral⟩
    rw [Text.Decimal.eq_writeInt32_iff.2 hnumeral]
    exact ofPlain?_plain hlocal

/-- Integer properties never wrap. For every configuration and key, the property is read as a
32-bit integer exactly if it is a numeral of it, that is at least one figure with at most one sign
before; any other text is refused, be it that its number is out of range. What is written for an
integer is read back, and is the only canonical text for it, which is the one text that is taken
for a backend id in the plain form of a unique id. -/
theorem BackendConfig.getInt32?_exact (c : BackendConfig) (key : String) :
    c.ReadsInt32 key ∧ ∀ (plain : String) (e : EntityId), EntityId.ofPlain? plain = some e ↔
      e.localId ≠ "" ∧ ∃ text, plain = text ++ "." ++ e.localId ∧
        Text.Decimal.Numeral text.toList e.backend.toInt ∧
        Text.Decimal.Canonical text.toList := by
  refine ⟨?_, fun plain e => EntityId.ofPlain?_eq_some_iff⟩
  constructor
  case read => exact fun n => getInt32?_eq_some_iff
  case refused => exact getInt32?_eq_none_iff
  case written =>
    intro n htext
    exact getInt32?_eq_some_iff.2 ⟨_, htext, (Text.Decimal.eq_writeInt32_iff.1 rfl).1⟩
  case canonical =>
    intro text n htext hread
    obtain ⟨text', htext', hnumeral⟩ := getInt32?_eq_some_iff.1 hread
    rw [htext] at htext'
    obtain rfl : text = text' := Option.some.inj htext'
    rw [Text.Decimal.eq_writeInt32_iff, and_iff_right hnumeral]

/-- The least integer has a numeral with idle zeros, and the first integer that is too great has
none that is read. -/
example :
    let c : BackendConfig := ⟨1, "hr", 0, true,
      (Dict.empty.insert "least" "-002147483648").insert "over" "2147483648"⟩
    c.getInt32? "least" = some (-2147483648) ∧ c.getInt32? "over" = none := by
  decide

/-! ## What is said -/

/-- What a setting can be about. -/
inductive ConfigSubject where
  | id
  | name
  | priority
  | enabled
  | property (key : String)
deriving DecidableEq

/-- What can be said about a subject. -/
abbrev ConfigSubject.Said : ConfigSubject → Type
  | .id => Int32
  | .name => String
  | .priority => Int32
  | .enabled => Bool
  | .property _ => String

namespace ConfigSetting

/-- What the setting is about. -/
def subject : ConfigSetting → ConfigSubject
  | .id _ => .id
  | .name _ => .name
  | .priority _ => .priority
  | .enabled _ => .enabled
  | .property key _ => .property key

/-- What the setting says about it. -/
def said : (c : ConfigSetting) → c.subject.Said
  | .id n => n
  | .name s => s
  | .priority n => n
  | .enabled b => b
  | .property _ value => value

/-- What the setting says about a subject, if it is about this one. -/
def says? (c : ConfigSetting) (x : ConfigSubject) : Option x.Said :=
  if h : c.subject = x then some (h ▸ c.said) else none

theorem says?_self (c : ConfigSetting) : c.says? c.subject = some c.said :=
  dif_pos rfl

theorem says?_of_ne {c : ConfigSetting} {x : ConfigSubject} (h : c.subject ≠ x) :
    c.says? x = none :=
  dif_neg h

end ConfigSetting

/-- What the settings say last about a subject, if they say anything about it. -/
def lastSaid? (settings : List ConfigSetting) (x : ConfigSubject) : Option x.Said :=
  (settings.filterMap (·.says? x)).getLast?

/-- What later settings say counts before what earlier ones say. -/
theorem lastSaid?_append (before after : List ConfigSetting) (x : ConfigSubject) :
    lastSaid? (before ++ after) x = (lastSaid? after x).or (lastSaid? before x) := by
  rw [lastSaid?, List.filterMap_append, List.getLast?_append]
  rfl

theorem lastSaid?_cons (c : ConfigSetting) (rest : List ConfigSetting) (x : ConfigSubject) :
    lastSaid? (c :: rest) x = (lastSaid? rest x).or (c.says? x) := by
  have hsingle : lastSaid? [c] x = c.says? x := by
    rw [lastSaid?, List.filterMap_cons]
    cases c.says? x with
    | none => rfl
    | some v => rfl
  rw [← List.singleton_append, lastSaid?_append, hsingle]

/-- Two settings about different subjects may be exchanged. -/
theorem lastSaid?_exchange {c c' : ConfigSetting} (h : c.subject ≠ c'.subject)
    (before after : List ConfigSetting) (x : ConfigSubject) :
    lastSaid? (before ++ c' :: c :: after) x = lastSaid? (before ++ c :: c' :: after) x := by
  -- at most one of them says anything about the subject
  have hone : (c.says? x).or (c'.says? x) = (c'.says? x).or (c.says? x) := by
    by_cases hx : c.subject = x
    · have hx' : c'.subject ≠ x := fun heq => h (hx.trans heq.symm)
      rw [ConfigSetting.says?_of_ne hx', Option.or_none, Option.none_or]
    · rw [ConfigSetting.says?_of_ne hx, Option.or_none, Option.none_or]
  have htail : lastSaid? (c' :: c :: after) x = lastSaid? (c :: c' :: after) x := by
    rw [lastSaid?_cons, lastSaid?_cons, Option.or_assoc, hone, ← Option.or_assoc, ← lastSaid?_cons,
      ← lastSaid?_cons]
  rw [lastSaid?_append, lastSaid?_append, htail]

/-! ## Drafts -/

namespace ConfigDraft

/-- What a draft holds for a subject. -/
def held? (d : ConfigDraft) : (x : ConfigSubject) → Option x.Said
  | .id => some d.id
  | .name => d.name
  | .priority => some d.priority
  | .enabled => some d.enabled
  | .property key => d.properties.get? key

/-- A draft is known by what it holds. -/
theorem ext_held? {d d' : ConfigDraft} (h : ∀ x, d.held? x = d'.held? x) : d = d' := by
  have hid : d.id = d'.id := Option.some.inj (h .id)
  have hname : d.name = d'.name := h .name
  have hpriority : d.priority = d'.priority := Option.some.inj (h .priority)
  have henabled : d.enabled = d'.enabled := Option.some.inj (h .enabled)
  have hproperties : d.properties = d'.properties := Dict.ext_get? fun key => h (.property key)
  cases d
  cases d'
  rw [ConfigDraft.mk.injEq]
  exact ⟨hid, hname, hpriority, henabled, hproperties⟩

/-- A setting replaces what is held for its subject, and nothing else. -/
theorem held?_set (d : ConfigDraft) (c : ConfigSetting) (x : ConfigSubject) :
    (d.set c).held? x = (c.says? x).or (d.held? x) := by
  by_cases h : c.subject = x
  · subst h
    rw [ConfigSetting.says?_self, Option.some_or]
    cases c with
    | property key value =>
      show (d.properties.insert key value).get? key = some value
      rw [Dict.get?_insert, if_pos rfl]
    | _ => rfl
  · rw [ConfigSetting.says?_of_ne h, Option.none_or]
    cases x with
    | id =>
      cases c with
      | id n => exact absurd rfl h
      | _ => rfl
    | name =>
      cases c with
      | name s => exact absurd rfl h
      | _ => rfl
    | priority =>
      cases c with
      | priority n => exact absurd rfl h
      | _ => rfl
    | enabled =>
      cases c with
      | enabled b => exact absurd rfl h
      | _ => rfl
    | property key =>
      cases c with
      | property key' value =>
        have hkey : key ≠ key' := by
          rintro rfl
          exact h rfl
        show (d.properties.insert key' value).get? key = d.properties.get? key
        rw [Dict.get?_insert, if_neg hkey]
      | _ => rfl

/-- After a sequence of settings a draft holds what was said last, or else what it held before. -/
theorem held?_foldl_set (settings : List ConfigSetting) (d : ConfigDraft) (x : ConfigSubject) :
    (settings.foldl set d).held? x = (lastSaid? settings x).or (d.held? x) := by
  induction settings generalizing d with
  | nil => rfl
  | cons c rest ih => rw [List.foldl_cons, ih, held?_set, lastSaid?_cons, Option.or_assoc]

/-- Settings that say the same last make the same draft. -/
theorem foldl_set_congr {settings others : List ConfigSetting}
    (h : ∀ x, lastSaid? settings x = lastSaid? others x) (d : ConfigDraft) :
    settings.foldl set d = others.foldl set d := by
  apply ext_held?
  intro x
  rw [held?_foldl_set, held?_foldl_set, h]

end ConfigDraft

/-! ## Building -/

/-- No name is given in the end: none was ever set, or the last one is white space. -/
def Nameless (settings : List ConfigSetting) : Prop :=
  lastSaid? settings .name = none ∨ ∃ name, lastSaid? settings .name = some name ∧
    ∀ c ∈ name.toList, Text.isWhiteSpace c = true

namespace BackendConfig

variable {settings others : List ConfigSetting}

/-- The configuration holds what the settings say last. -/
structure Follows (b : BackendConfig) (settings : List ConfigSetting) : Prop where
  name : lastSaid? settings .name = some b.name
  id : b.id = (lastSaid? settings .id).getD (0 : Int32)
  priority : b.priority = (lastSaid? settings .priority).getD (0 : Int32)
  enabled : b.enabled = (lastSaid? settings .enabled).getD true
  property : ∀ key, b.get? key = lastSaid? settings (.property key)

/-- There is only one such configuration. -/
theorem Follows.unique {b b' : BackendConfig} (h : b.Follows settings) (h' : b'.Follows settings) :
    b = b' := by
  have hid : b.id = b'.id := h.id.trans h'.id.symm
  have hname : b.name = b'.name := Option.some.inj (h.name.symm.trans h'.name)
  have hpriority : b.priority = b'.priority := h.priority.trans h'.priority.symm
  have henabled : b.enabled = b'.enabled := h.enabled.trans h'.enabled.symm
  have hproperties : b.properties = b'.properties :=
    Dict.ext_get? fun key => (h.property key).trans (h'.property key).symm
  cases b
  cases b'
  rw [BackendConfig.mk.injEq]
  exact ⟨hid, hname, hpriority, henabled, hproperties⟩

/-- A finished draft holds what the settings say last, if the draft does. -/
theorem follows_of_held? {d : ConfigDraft} {name : String}
    (hheld : ∀ x, d.held? x = (lastSaid? settings x).or (ConfigDraft.blank.held? x))
    (hname : lastSaid? settings .name = some name) :
    Follows ⟨d.id, name, d.priority, d.enabled, d.properties⟩ settings := by
  constructor
  case name => exact hname
  case id =>
    have hid : some d.id = (lastSaid? settings .id).or (some (0 : Int32)) := hheld .id
    rw [Option.or_some] at hid
    exact Option.some.inj hid
  case priority =>
    have hpriority : some d.priority = (lastSaid? settings .priority).or (some (0 : Int32)) :=
      hheld .priority
    rw [Option.or_some] at hpriority
    exact Option.some.inj hpriority
  case enabled =>
    have henabled : some d.enabled = (lastSaid? settings .enabled).or (some true) :=
      hheld .enabled
    rw [Option.or_some] at henabled
    exact Option.some.inj henabled
  case property => exact fun key => (hheld (.property key)).trans Option.or_none

/-- Building fails for want of a name, or ends with a configuration that holds what was said
last. -/
theorem build_cases (settings : List ConfigSetting) :
    (Nameless settings ∧
      build settings = .error (.configuration "backend name is required")) ∨
    (¬ Nameless settings ∧ ∃ b, build settings = .ok b ∧ b.Follows settings) := by
  have hheld := ConfigDraft.held?_foldl_set settings .blank
  generalize hdraft : settings.foldl ConfigDraft.set .blank = d at hheld
  have hbuild : build settings = d.finish := congrArg ConfigDraft.finish hdraft
  have hname : lastSaid? settings .name = d.name := ((hheld .name).trans Option.or_none).symm
  rw [hbuild, ConfigDraft.finish]
  cases hset : d.name with
  | none => exact .inl ⟨.inl (hname.trans hset), rfl⟩
  | some name =>
    have hlast : lastSaid? settings .name = some name := hname.trans hset
    by_cases hblank : Text.isBlank name = true
    · have hwhite : ∀ c ∈ name.toList, Text.isWhiteSpace c = true := List.all_eq_true.1 hblank
      exact .inl ⟨.inr ⟨name, hlast, hwhite⟩, if_pos hblank⟩
    · refine .inr ⟨?_, _, if_neg hblank, follows_of_held? hheld hlast⟩
      rintro (hnone | ⟨name', hlast', hwhite⟩)
      · rw [hlast] at hnone
        contradiction
      · rw [hlast] at hlast'
        obtain rfl : name = name' := Option.some.inj hlast'
        exact hblank (List.all_eq_true.2 hwhite)

/-- What comes of building a configuration from settings. -/
structure BuildsLastSaid (settings : List ConfigSetting) : Prop where
  /-- It fails exactly for want of a name. -/
  refused : ∀ e, build settings = .error e ↔
    Nameless settings ∧ e = .configuration "backend name is required"
  /-- Otherwise the configuration holds what was said last, and is known by that. -/
  built : ∀ b, build settings = .ok b ↔ ¬ Nameless settings ∧ b.Follows settings
  /-- Settings that say the same last build the same. -/
  agreed : ∀ others, (∀ x, lastSaid? settings x = lastSaid? others x) →
    build settings = build others
  /-- Two settings about different subjects may be exchanged. -/
  exchanged : ∀ before c c' after, settings = before ++ c :: c' :: after →
    c.subject ≠ c'.subject → build (before ++ c' :: c :: after) = build settings

/-- A configuration is a record of what was said last. For every sequence of settings, building
fails if and only if no name was set or the last one is white space; otherwise the id, the name,
the priority, whether the backend is enabled, and each property are what was said last, or what
holds if nothing was said. So sequences that say the same last build the same, and settings about
different subjects may be exchanged. -/
theorem build_lastSaid (settings : List ConfigSetting) : BuildsLastSaid settings := by
  have hagreed : ∀ settings others : List ConfigSetting,
      (∀ x, lastSaid? settings x = lastSaid? others x) → build settings = build others :=
    fun _ _ h => congrArg ConfigDraft.finish (ConfigDraft.foldl_set_congr h .blank)
  constructor
  case refused =>
    intro e
    rcases build_cases settings with ⟨hnameless, herror⟩ | ⟨hnamed, b, hok, -⟩
    · rw [herror, Except.error.injEq, and_iff_right hnameless, eq_comm]
    · rw [hok]
      constructor
      · intro h
        contradiction
      · rintro ⟨hnameless, -⟩
        exact absurd hnameless hnamed
  case built =>
    intro b
    rcases build_cases settings with ⟨hnameless, herror⟩ | ⟨hnamed, b', hok, hfollows⟩
    · rw [herror]
      constructor
      · intro h
        contradiction
      · rintro ⟨hnamed, -⟩
        exact absurd hnameless hnamed
    · rw [hok, Except.ok.injEq, and_iff_right hnamed]
      constructor
      · rintro rfl
        exact hfollows
      · intro hfollows'
        exact hfollows.unique hfollows'
  case agreed => exact hagreed settings
  case exchanged =>
    rintro before c c' after rfl hne
    exact hagreed _ _ (lastSaid?_exchange hne before after)

/-- A good name is overwritten by a blank one, and a blank one by a name that is kept as it is. -/
example :
    build [.name "hr", .id 7, .name "  "] =
      .error (.configuration "backend name is required") ∧
    build [.name " ", .property "host" "a", .name " hr", .property "host" "b"] =
      .ok ⟨0, " hr", 0, true, Dict.empty.insert "host" "b"⟩ := by
  decide

end BackendConfig

end Federation
