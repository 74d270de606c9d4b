import Federation.Proofs.Registry.Construction
import Federation.Proofs.Text.Casing

/-!
# Federation.Proofs.Registry.Respelling — one backend under all spellings of its name

Names are compared in lower case. So a name leads to the same backend as the name with ASCII
letters in another case, and as its own lower-case form; and two backends whose names are related
so cannot be registered together.
-/

namespace Federation

open Text (lowercase Recased)

/-- Another spelling of a name: with some of its ASCII letters in the other case, or its lower-case
form. -/
inductive Respells (name : String) : String → Prop
  | recased {other : String} (h : List.Forall₂ Recased name.toList other.toList) :
      Respells name other
  | folded : Respells name (lowercase name)

/-- A name and its other spellings are compared as the same. -/
theorem Respells.lowercase_eq {name other : String} (h : Respells name other) :
    lowercase name = lowercase other := by
  cases h with
  | recased h => exact Text.lowercase_of_recased h
  | folded => exact (Text.lowercase_lowercase name).symm

namespace Registry

/-- Two look-ups by name come to the same: one backend, or two refusals of an unknown name. -/
inductive Agree : Except StoreError BackendConfig → Except StoreError BackendConfig → Prop
  | found (b : BackendConfig) : Agree (.ok b) (.ok b)
  | unknown (name other : String) :
      Agree (.error (.invalidInput (.unknownBackend name)))
        (.error (.invalidInput (.unknownBackend other)))

/-- Names that are compared as the same come to the same. -/
theorem agree_of_lowercase_eq (r : Registry) {name other : String}
    (h : lowercase name = lowercase other) : Agree (r.byName name) (r.byName other) := by
  have hsame : r.byName? name = r.byName? other := by
    unfold byName?
    rw [h]
  unfold byName
  rw [hsame]
  cases r.byName? other with
  | none => exact .unknown name other
  | some b => exact .found b

/-- Two backends at different places of a list whose names are compared as the same are not
distinct. -/
theorem not_distinct_of_folded_eq {backends : List BackendConfig} {i j : Nat}
    {a b : BackendConfig} (hij : i ≠ j) (ha : backends[i]? = some a) (hb : backends[j]? = some b)
    (h : a.folded = b.folded) : ¬ Distinct backends := by
  intro hdistinct
  obtain ⟨hi, rfl⟩ := List.getElem?_eq_some_iff.1 ha
  obtain ⟨hj, rfl⟩ := List.getElem?_eq_some_iff.1 hb
  have hnames := List.pairwise_iff_getElem.1 hdistinct.names
  rcases Nat.lt_or_gt_of_ne hij with hlt | hgt
  · exact hnames i j hi hj hlt h
  · exact hnames j i hj hi hgt h.symm

/-- A list that is not empty and has backends that are not distinct is refused. -/
theorem ofList_of_not_distinct {backends : List BackendConfig} (hne : backends ≠ [])
    (h : ¬ Distinct backends) :
    ∃ problem, ofList backends = .error (.configuration problem none) := by
  rcases ofList_cases backends with ⟨hempty, -⟩ | ⟨-, problem, -, herror⟩ | ⟨-, hok⟩
  · exact absurd hempty hne
  · exact ⟨problem, herror⟩
  · exact absurd (exists_ofList_iff.1 hok).2 h

/-- Spellings do not matter. In every registry a name and another spelling of it lead to the same
backend, or are both unknown; and a list with two backends of which one has another spelling of the
other's name makes no registry. -/
theorem byName_respelled :
    (∀ (r : Registry) (name other : String), Respells name other →
      Agree (r.byName name) (r.byName other)) ∧
    ∀ (backends : List BackendConfig) (i j : Nat) (a b : BackendConfig), i ≠ j →
      backends[i]? = some a → backends[j]? = some b → Respells a.name b.name →
      ∃ problem, ofList backends = .error (.configuration problem none) := by
  constructor
  · intro r name other hother
    exact r.agree_of_lowercase_eq hother.lowercase_eq
  · intro backends i j a b hij ha hb hother
    have hne : backends ≠ [] := by
      rintro rfl
      contradiction
    exact ofList_of_not_distinct hne (not_distinct_of_folded_eq hij ha hb hother.lowercase_eq)

/-- A name is found with its first letter small, and a name with two forms of the sigma cannot be
registered beside its lower-case form. -/
theorem byName_respelled_sigma :
    let upper : BackendConfig := ⟨1, "ΣΟΦΟΣ", 0, true, .empty⟩
    let lower : BackendConfig := ⟨2, "σοφος", 7, true, .empty⟩
    Respells "nORTH" "NORTH" ∧ Agree (poles.byName "nORTH") (poles.byName "NORTH") ∧
      Respells upper.name lower.name ∧
      ∃ problem, ofList [lower, upper] = .error (.configuration problem none) := by
  intro upper lower
  have hnorth : Respells "nORTH" "NORTH" :=
    .recased (.cons (.raised 'n' rfl) (List.forall₂_same.2 fun c _ => .same c))
  have hsigma : Respells upper.name lower.name := by
    have hfolded : lower.name = lowercase upper.name := by decide +kernel
    rw [hfolded]
    exact .folded
  refine ⟨hnorth, byName_respelled.1 poles _ _ hnorth, hsigma, ?_⟩
  exact byName_respelled.2 [lower, upper] 1 0 upper lower (by decide) rfl rfl hsigma

end Registry

end Federation
