import Federation.Document.Record
import Mathlib.Data.List.Forall2
import Mathlib.Data.List.Nodup

/-!
# Federation.Proofs.Document.Record — what is read of an object

An object is read member by member, but what comes of it can be said field by field: of the
members with the name of a field there must be one, whose value is read, or none, if there is a
default. So neither the order of the members matters, nor what other members there are.
-/

namespace Federation.Document

/-! ## Members with a name -/

/-- The values that are given under a name. -/
def given (name : String) (members : List (String × Value)) : List Value :=
  (members.filter (·.1 = name)).map (·.2)

/-- The members with other names. -/
def besides (name : String) (members : List (String × Value)) : List (String × Value) :=
  members.filter (·.1 ≠ name)

section Members

variable {name key : String} {v : Value} {ms ms' : List (String × Value)}

theorem given_cons_self : given name ((name, v) :: ms) = v :: given name ms := by
  rw [given, List.filter_cons_of_pos (by simp)]
  rfl

theorem given_cons_of_ne (h : key ≠ name) : given name ((key, v) :: ms) = given name ms := by
  rw [given, List.filter_cons_of_neg (by simpa using h)]
  rfl

theorem besides_cons_self : besides name ((name, v) :: ms) = besides name ms :=
  List.filter_cons_of_neg (by simp)

theorem besides_cons_of_ne (h : key ≠ name) :
    besides name ((key, v) :: ms) = (key, v) :: besides name ms :=
  List.filter_cons_of_pos (by simpa using h)

/-- Nothing is given under a name that no member has. -/
theorem given_of_forall_ne (h : ∀ m ∈ ms, m.1 ≠ name) : given name ms = [] := by
  rw [given, List.filter_eq_nil_iff.2 (by simpa using h), List.map_nil]

/-- All members remain if none has the name. -/
theorem besides_of_forall_ne (h : ∀ m ∈ ms, m.1 ≠ name) : besides name ms = ms :=
  List.filter_eq_self.2 (by simpa using h)

/-- In another order of the members the same values are given, in another order perhaps. -/
theorem given_perm (name : String) (h : ms.Perm ms') : (given name ms).Perm (given name ms') :=
  (h.filter _).map _

theorem besides_perm (name : String) (h : ms.Perm ms') : (besides name ms).Perm (besides name ms') :=
  h.filter _

end Members

/-! ## One field -/

namespace Field

variable {f : Field}

/-- What the slot of a field holds after further values were given. -/
def fill? (f : Field) : Option f.type → List Value → Option (Option f.type)
  | slot, [] => some slot
  | none, v :: rest => do
    let a ← f.format.read? v
    f.fill? (some a) rest
  | some _, _ :: _ => none

/-- The value of a field, by what is given for it in an object. -/
def pick? (f : Field) : List Value → Option f.type
  | [] => f.default
  | [v] => f.format.read? v
  | _ :: _ :: _ => none

/-- What the slot holds in the end, or else the default, is the value of the field. -/
theorem fill?_none (f : Field) (vs : List Value) :
    ((f.fill? none vs).bind fun slot => slot <|> f.default) = f.pick? vs := by
  match vs with
  | [] => rfl
  | [v] =>
    cases hread : f.format.read? v with
    | none => simp [fill?, pick?, hread]
    | some a => simp [fill?, pick?, hread]
  | v :: v' :: rest =>
    cases hread : f.format.read? v with
    | none => simp [fill?, pick?, hread]
    | some a => simp [fill?, pick?, hread]

end Field

/-! ## All fields -/

namespace Slots

/-- Where there are no fields, all members are ignored. -/
theorem takeAll?_nil (ms : List (String × Value)) : takeAll? [] ms () = some () := by
  induction ms with
  | nil => rfl
  | cons m rest ih => exact ih

/-- Of the members, the slot of the first field takes those with the name of the field, and the
other slots take the others. -/
theorem takeAll?_cons (f : Field) (fields : List Field) (ms : List (String × Value))
    (slot : Option f.type) (slots : Slots fields) :
    takeAll? (f :: fields) ms (slot, slots) =
      (f.fill? slot (given f.name ms)).bind fun slot =>
        (takeAll? fields (besides f.name ms) slots).map fun slots => (slot, slots) := by
  induction ms generalizing slot slots with
  | nil => rfl
  | cons m rest ih =>
    rcases m with ⟨key, v⟩
    have hstep : takeAll? (f :: fields) ((key, v) :: rest) (slot, slots) =
        (take? (f :: fields) (key, v) (slot, slots)).bind (takeAll? (f :: fields) rest) := rfl
    rw [hstep]
    by_cases hkey : key = f.name
    · subst hkey
      rw [given_cons_self, besides_cons_self]
      cases slot with
      | some a =>
        have htake : take? (f :: fields) (f.name, v) (some a, slots) = none := if_pos rfl
        rw [htake]
        rfl
      | none =>
        have htake : take? (f :: fields) (f.name, v) (none, slots) =
          (f.format.read? v).map fun a => (some a, slots) := if_pos rfl
        rw [htake, Field.fill?]
        cases f.format.read? v with
        | none => rfl
        | some a => exact ih (some a) slots
    · rw [given_cons_of_ne hkey, besides_cons_of_ne hkey]
      have htake : take? (f :: fields) (key, v) (slot, slots) =
        (take? fields (key, v) slots).map fun slots => (slot, slots) := if_neg hkey
      have hrest : takeAll? fields ((key, v) :: besides f.name rest) slots =
        (take? fields (key, v) slots).bind (takeAll? fields (besides f.name rest)) := rfl
      rw [htake, hrest]
      cases take? fields (key, v) slots with
      | none =>
        -- the member is refused, whatever was given before and after it
        cases f.fill? slot (given f.name rest) with
        | none => rfl
        | some _ => rfl
      | some slots' => exact ih slot slots'

/-- The slots are emptied one by one. -/
theorem finish?_cons (f : Field) (fields : List Field) (slot : Option f.type)
    (slots : Slots fields) :
    finish? (f :: fields) (slot, slots) =
      (slot <|> f.default).bind fun a => (finish? fields slots).map fun rest => (a, rest) := by
  have hstep : finish? (f :: fields) (slot, slots) = (slot <|> f.default).bind fun a =>
    (finish? fields slots).bind fun rest => some (a, rest) := rfl
  rw [hstep]
  cases finish? fields slots with
  | none => rfl
  | some rest => rfl

end Slots

namespace Values

theorem ofMembers?_nil (ms : List (String × Value)) : ofMembers? [] ms = some () := by
  rw [ofMembers?, Slots.empty, Slots.takeAll?_nil]
  rfl

/-- An object is read field by field. -/
theorem ofMembers?_cons (f : Field) (fields : List Field) (ms : List (String × Value)) :
    ofMembers? (f :: fields) ms =
      (f.pick? (given f.name ms)).bind fun a =>
        (ofMembers? fields (besides f.name ms)).map fun rest => (a, rest) := by
  have hread : ofMembers? (f :: fields) ms =
    (Slots.takeAll? (f :: fields) ms (none, Slots.empty fields)).bind
      (Slots.finish? (f :: fields)) := rfl
  have hrest : ofMembers? fields (besides f.name ms) =
    (Slots.takeAll? fields (besides f.name ms) (Slots.empty fields)).bind (Slots.finish? fields) :=
    rfl
  rw [hread, hrest, Slots.takeAll?_cons, ← Field.fill?_none]
  cases f.fill? none (given f.name ms) with
  | none => rfl
  | some slot =>
    cases Slots.takeAll? fields (besides f.name ms) (Slots.empty fields) with
    | none =>
      -- one of the other fields is refused, whatever this one is
      show none = (slot <|> f.default).bind fun _ => none
      cases slot <|> f.default with
      | none => rfl
      | some a => rfl
    | some slots => exact Slots.finish?_cons f fields slot slots

end Values

end Federation.Document
