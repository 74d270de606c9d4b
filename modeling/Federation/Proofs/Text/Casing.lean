import Federation.Text.Casing
import Mathlib.Data.List.Forall2

/-!
# Federation.Proofs.Text.Casing — what lower-casing goes by

Lower-casing leaves nothing to do for a second time, as no small letter has a small letter of its
own (`lowercase_lowercase`). And the case of ASCII letters does not matter to it: either form of a
letter has the same small letter, and both count alike where the form of a sigma is decided
(`lowercase_of_recased`).
-/

namespace Federation.Text

namespace Casing

/-! ## Capital letters -/

/-- The capital I with a dot, which is lower-cased by a rule of its own. -/
def dotted : Run := ⟨0x130, 0x130, 1, 0x69⟩

/-- The character has no other lower-case form than itself. -/
def IsSmall (c : Char) : Prop := ∀ r ∈ dotted :: capitals, r.holds c.toNat = false

/-- One pass through the table tells. -/
theorem all_iff_isSmall {c : Char} :
    ((dotted :: capitals).all fun r => !r.holds c.toNat) = true ↔ IsSmall c := by
  rw [List.all_eq_true]
  exact forall₂_congr fun r _ => by rw [Bool.not_eq_true']

instance (c : Char) : Decidable (IsSmall c) := decidable_of_iff _ all_iff_isSmall

theorem holds_eq_true_iff {r : Run} {n : Nat} :
    r.holds n = true ↔ r.first ≤ n ∧ n ≤ r.last ∧ (n - r.first) % r.step = 0 := by
  simp only [Run.holds, Bool.and_eq_true, decide_eq_true_eq, beq_iff_eq, and_assoc]

/-- A character that is not held by the run of the dotted capital I is another one. -/
theorem IsSmall.ne_dotted {c : Char} (h : IsSmall c) : c ≠ 'İ' := by
  rintro rfl
  exact absurd (h dotted List.mem_cons_self) (by decide)

/-- The capital sigma is in the table too. -/
theorem IsSmall.ne_sigma {c : Char} (h : IsSmall c) : c ≠ 'Σ' := by
  rintro rfl
  exact absurd h (by decide +kernel)

/-- A character without another lower-case form is its own. -/
theorem IsSmall.lower {c : Char} (h : IsSmall c) : lower c = [c] := by
  have hnone : capitals.find? (·.holds c.toNat) = none :=
    List.find?_eq_none.2 fun r hr => Bool.eq_false_iff.1 (h r (List.mem_cons_of_mem dotted hr))
  rw [Casing.lower, if_neg h.ne_dotted, small, hnone]

/-! ## Small letters -/

/-- No small letter of the first run is a capital one of the second: they lie apart, or the second
run takes every other code point only, and the small letters are between them. -/
def Run.misses (r r' : Run) : Bool :=
  Nat.blt (r.image + (r.last - r.first)) r'.first || Nat.blt r'.last r.image ||
    (r'.step == 2 && (r.step == 2 || r.first == r.last) && (r.image + r'.first) % 2 == 1)

/-- That is what it comes to for a single letter. -/
theorem not_holds_of_misses {r r' : Run} (h : r.misses r' = true) {n : Nat}
    (hn : r.holds n = true) : r'.holds (r.image + (n - r.first)) = false := by
  obtain ⟨hfirst, hlast, hstep⟩ := holds_eq_true_iff.1 hn
  refine Bool.eq_false_iff.2 fun hheld => ?_
  obtain ⟨hfirst', hlast', hstep'⟩ := holds_eq_true_iff.1 hheld
  simp only [Run.misses, Bool.or_eq_true, Bool.and_eq_true, Nat.blt_eq, beq_iff_eq] at h
  rcases h with (hbelow | habove) | ⟨⟨htwo', htwo | hone⟩, hparity⟩
  · omega
  · omega
  · rw [htwo] at hstep
    rw [htwo'] at hstep'
    omega
  · rw [htwo'] at hstep'
    omega

/-- The runs of the table all miss each other, and the dotted capital I. -/
theorem capitals_miss : (capitals.all fun r => (dotted :: capitals).all r.misses) = true := by
  decide +kernel

/-- A character that is made from a number has this code point, or zero if there is none. -/
theorem toNat_ofNat (n : Nat) : (Char.ofNat n).toNat = n ∨ (Char.ofNat n).toNat = 0 := by
  by_cases hvalid : n.isValidChar
  · have hchar : Char.ofNat n = Char.ofNatAux n hvalid := dif_pos hvalid
    rw [hchar]
    exact Or.inl rfl
  · have hnone : Char.ofNat n = '\x00' := dif_neg hvalid
    rw [hnone]
    exact Or.inr rfl

/-- The small letter of a character has no other lower-case form. -/
theorem isSmall_small {c : Char} (hc : c ≠ 'İ') : IsSmall (small c) := by
  unfold small
  cases hfound : capitals.find? (·.holds c.toNat) with
  | none =>
    rintro r hr
    rcases List.mem_cons.1 hr with rfl | hr
    · refine Bool.eq_false_iff.2 fun hheld => hc ?_
      obtain ⟨hfirst, hlast, -⟩ := holds_eq_true_iff.1 hheld
      exact Char.toNat_inj.1 (Nat.le_antisymm hlast hfirst)
    · exact Bool.eq_false_iff.2 (List.find?_eq_none.1 hfound r hr)
  | some r =>
    have hmem : r ∈ capitals := List.mem_of_find?_eq_some hfound
    have hholds : r.holds c.toNat = true := List.find?_some (p := fun r : Run => r.holds c.toNat) hfound
    have hzero : IsSmall (Char.ofNat 0) := by decide +kernel
    intro r' hr'
    rcases toNat_ofNat (r.image + (c.toNat - r.first)) with hsame | hnone
    · have hmisses := List.all_eq_true.1 (List.all_eq_true.1 capitals_miss r hmem) r' hr'
      rw [hsame]
      exact not_holds_of_misses hmisses hholds
    · rw [hnone]
      exact hzero r' hr'

/-- Nor do the two characters of the dotted small i, -/
theorem isSmall_of_mem_lower {c d : Char} (h : d ∈ lower c) : IsSmall d := by
  unfold lower at h
  split at h
  · have hpair : IsSmall 'i' ∧ IsSmall '\u0307' := by decide +kernel
    exact List.forall_mem_cons.2 ⟨hpair.1, List.forall_mem_singleton.2 hpair.2⟩ d h
  · rename_i hc
    rw [List.mem_singleton.1 h]
    exact isSmall_small hc

/-- and the two forms of the small sigma. -/
theorem isSmall_sigma (before after : List Char) : IsSmall (sigma before after) := by
  have hforms : IsSmall 'ς' ∧ IsSmall 'σ' := by decide +kernel
  unfold sigma
  split
  · exact hforms.1
  · exact hforms.2

/-! ## Lower-casing twice -/

/-- No character of a lower-cased text has another lower-case form. -/
theorem isSmall_of_mem_lowerFrom {before text : List Char} {d : Char}
    (h : d ∈ lowerFrom before text) : IsSmall d := by
  induction text generalizing before with
  | nil => exact absurd h List.not_mem_nil
  | cons c rest ih =>
    rcases List.mem_append.1 h with hfirst | hrest
    · split at hfirst
      · rw [List.mem_singleton.1 hfirst]
        exact isSmall_sigma before rest
      · exact isSmall_of_mem_lower hfirst
    · exact ih hrest

/-- A text of such characters is its own lower-case form. -/
theorem lowerFrom_of_isSmall {text : List Char} (h : ∀ c ∈ text, IsSmall c)
    (before : List Char) : lowerFrom before text = text := by
  induction text generalizing before with
  | nil => rfl
  | cons c rest ih =>
    obtain ⟨hc, hrest⟩ := List.forall_mem_cons.1 h
    rw [lowerFrom, if_neg hc.ne_sigma, hc.lower, ih hrest]
    rfl

end Casing

/-- A lower-cased text is its own lower-case form. -/
theorem lowercase_lowercase (s : String) : lowercase (lowercase s) = lowercase s := by
  have hsmall : Casing.lowerFrom [] (lowercase s).toList = (lowercase s).toList := by
    refine Casing.lowerFrom_of_isSmall (fun c hc => ?_) []
    rw [lowercase, String.toList_ofList] at hc
    exact Casing.isSmall_of_mem_lowerFrom hc
  rw [lowercase, hsmall, String.ofList_toList]

/-! ## ASCII letters -/

/-- The second character is the first, or the same ASCII letter in the other case. -/
inductive Recased : Char → Char → Prop
  | same (c : Char) : Recased c c
  | raised (c : Char) (h : c.isLower = true) : Recased c c.toUpper
  | lowered (c : Char) (h : c.isUpper = true) : Recased c c.toLower

/-- What holds of each of 26 successive characters holds of a character among them. -/
theorem forall_letters {P : Char → Prop} {first : Nat} (h : ∀ i < 26, P (Char.ofNat (first + i)))
    {c : Char} (hfirst : first ≤ c.toNat) (hlast : c.toNat < first + 26) : P c := by
  have hc := h (c.toNat - first) (by omega)
  have hsame : first + (c.toNat - first) = c.toNat := by omega
  rwa [hsame, Char.ofNat_toNat] at hc

/-- A capital letter of ASCII is one of 26. -/
theorem forall_isUpper {P : Char → Prop} (h : ∀ i < 26, P (Char.ofNat (65 + i))) {c : Char}
    (hc : c.isUpper = true) : P c := by
  obtain ⟨hfirst, hlast⟩ := of_decide_eq_true hc
  exact forall_letters h hfirst (Nat.lt_succ_of_le hlast)

/-- A small letter of ASCII is one of 26. -/
theorem forall_isLower {P : Char → Prop} (h : ∀ i < 26, P (Char.ofNat (97 + i))) {c : Char}
    (hc : c.isLower = true) : P c := by
  obtain ⟨hfirst, hlast⟩ := Bool.and_eq_true_iff.1 hc
  exact forall_letters h (of_decide_eq_true hfirst) (Nat.lt_succ_of_le (of_decide_eq_true hlast))

/-- The two forms of a letter have one small form. -/
theorem Recased.toLower_eq {c d : Char} (h : Recased c d) : c.toLower = d.toLower := by
  cases h with
  | same => rfl
  | raised hc =>
    exact forall_isLower (P := fun c => c.toLower = c.toUpper.toLower) (by decide) hc
  | lowered hc =>
    exact forall_isUpper (P := fun c => c.toLower = c.toLower.toLower) (by decide) hc

namespace Casing

/-- Lower-casing makes no difference between the two characters. -/
structure SameForm (c d : Char) : Prop where
  lower : lower c = lower d
  sigma : c = 'Σ' ↔ d = 'Σ'
  cased : inRanges cased c = inRanges cased d
  ignorable : inRanges ignorable c = inRanges ignorable d

instance (c d : Char) : Decidable (SameForm c d) :=
  decidable_of_iff
    (Casing.lower c = Casing.lower d ∧ (c = 'Σ' ↔ d = 'Σ') ∧
      inRanges Casing.cased c = inRanges Casing.cased d ∧
      inRanges Casing.ignorable c = inRanges Casing.ignorable d)
    ⟨fun ⟨hl, hs, hc, hi⟩ => ⟨hl, hs, hc, hi⟩, fun ⟨hl, hs, hc, hi⟩ => ⟨hl, hs, hc, hi⟩⟩

/-- It makes none between a character and the small letter that it has in ASCII. -/
theorem sameForm_toLower (c : Char) : SameForm c.toLower c := by
  by_cases hc : c.isUpper = true
  · exact forall_isUpper (P := fun c => SameForm c.toLower c) (by decide +kernel) hc
  · have hsame : c.toLower = c := by
      unfold Char.toLower
      exact dif_neg fun h => hc (decide_eq_true h)
    rw [hsame]
    exact ⟨rfl, Iff.rfl, rfl, rfl⟩

/-- So the first character that is not ignorable counts alike. -/
theorem meetsCased_map (text : List Char) :
    meetsCased (text.map Char.toLower) = meetsCased text := by
  induction text with
  | nil => rfl
  | cons c rest ih =>
    have hc := sameForm_toLower c
    unfold meetsCased at ih ⊢
    rw [List.map_cons, List.dropWhile_cons, List.dropWhile_cons, hc.ignorable]
    by_cases hskipped : inRanges ignorable c = true
    · rw [if_pos hskipped, if_pos hskipped]
      exact ih
    · rw [if_neg hskipped, if_neg hskipped]
      exact hc.cased

/-- The lower-case form of a text goes by the small letters that it has in ASCII. -/
theorem lowerFrom_map (before text : List Char) :
    lowerFrom (before.map Char.toLower) (text.map Char.toLower) = lowerFrom before text := by
  induction text generalizing before with
  | nil => rfl
  | cons c rest ih =>
    have hc := sameForm_toLower c
    have hsigma : sigma (before.map Char.toLower) (rest.map Char.toLower) = sigma before rest := by
      simp only [sigma, meetsCased_map]
    have hrest : lowerFrom (c.toLower :: before.map Char.toLower) (rest.map Char.toLower) =
        lowerFrom (c :: before) rest := ih (c :: before)
    simp only [List.map_cons, lowerFrom, hc.lower, hc.sigma, hsigma, hrest]

end Casing

/-- The case of ASCII letters does not matter to lower-casing. -/
theorem lowercase_of_recased {s t : String} (h : List.Forall₂ Recased s.toList t.toList) :
    lowercase s = lowercase t := by
  have hsame : s.toList.map Char.toLower = t.toList.map Char.toLower := by
    generalize s.toList = l at h
    generalize t.toList = l' at h
    induction h with
    | nil => rfl
    | cons hc _ ih => rw [List.map_cons, List.map_cons, hc.toLower_eq, ih]
  have hform : ∀ text : List Char,
      Casing.lowerFrom [] (text.map Char.toLower) = Casing.lowerFrom [] text :=
    Casing.lowerFrom_map []
  rw [lowercase, lowercase, ← hform s.toList, hsame, hform]

end Federation.Text
