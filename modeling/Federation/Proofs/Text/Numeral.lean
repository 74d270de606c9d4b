import Federation.Proofs.Text.Decimal
import Mathlib.Data.Nat.Digits.Defs

/-!
# Federation.Proofs.Text.Numeral — which texts are read as numbers

A numeral is a non-empty sequence of figures with at most one sign before it, and it stands for a
number by the places of its figures. The reader takes exactly the numerals of numbers in range,
however long they are (`readInt32?_eq_some_iff`). A number has many numerals, of which one has
neither an idle sign nor an idle zero, and this is the one that is written (`eq_write_iff`).
-/

namespace Federation.Text.Decimal

variable {l : List Char} {c : Char} {n : Nat} {z : Int}

/-! ## Numerals -/

/-- A non-empty sequence of the figures `0`–`9`. -/
structure Figures (l : List Char) : Prop where
  ne_nil : l ≠ []
  isDigit : ∀ c ∈ l, c.isDigit = true

/-- The number that figures stand for: the last figure counts once, the one before it ten times,
and so on. -/
def placeValue (l : List Char) : Nat :=
  Nat.ofDigits 10 (l.reverse.map fun c => c.toNat - 48)

/-- The text is a numeral of the integer: figures, with at most one sign before them. -/
inductive Numeral : List Char → Int → Prop
  | unsigned {l : List Char} (h : Figures l) : Numeral l (placeValue l)
  | plus {l : List Char} (h : Figures l) : Numeral ('+' :: l) (placeValue l)
  | minus {l : List Char} (h : Figures l) : Numeral ('-' :: l) (-placeValue l)

/-- The first figure has the highest place. -/
theorem placeValue_cons (c : Char) (l : List Char) :
    placeValue (c :: l) = 10 ^ l.length * (c.toNat - 48) + placeValue l := by
  rw [placeValue, List.reverse_cons, List.map_append, Nat.ofDigits_append, List.length_map,
    List.length_reverse, List.map_singleton, Nat.ofDigits_singleton, placeValue, Nat.add_comm]

/-- Figures stand for less than the place before the first one. -/
theorem placeValue_lt (h : ∀ c ∈ l, c.isDigit = true) : placeValue l < 10 ^ l.length := by
  have hlt : ∀ d ∈ l.reverse.map fun c => c.toNat - 48, d < 10 := by
    intro d hd
    obtain ⟨c, hc, rfl⟩ := List.mem_map.1 hd
    have hhigh : c.toNat ≤ 57 := (Char.isDigit_iff_toNat.1 (h c (List.mem_reverse.1 hc))).2
    omega
  have hbound := Nat.ofDigits_lt_base_pow_length (by omega) hlt
  rwa [List.length_map, List.length_reverse] at hbound

/-! ## What is read -/

/-- The characters with a value are the figures. -/
theorem digit?_eq_some_iff : digit? c = some n ↔ c.isDigit = true ∧ c.toNat - 48 = n := by
  constructor
  · intro h
    unfold digit? at h
    split at h
    · rename_i hrange
      exact ⟨Char.isDigit_iff_toNat.2 hrange, Option.some.inj h⟩
    · contradiction
  · rintro ⟨hc, rfl⟩
    exact digit?_of_isDigit hc

/-- Figures are read by their places, after what was read before them. -/
theorem readDigits?_eq_some_iff {acc : Nat} : readDigits? acc l = some n ↔
    (∀ c ∈ l, c.isDigit = true) ∧ 10 ^ l.length * acc + placeValue l = n := by
  induction l generalizing acc with
  | nil => simp [readDigits?, placeValue]
  | cons c rest ih =>
    -- the value so far moves by one place with every figure that follows
    have hplaces : 10 ^ rest.length * (acc * 10 + (c.toNat - 48)) + placeValue rest =
        10 ^ (c :: rest).length * acc + placeValue (c :: rest) := by
      rw [placeValue_cons, List.length_cons, Nat.pow_succ, Nat.mul_add, Nat.mul_comm acc,
        Nat.mul_assoc, Nat.add_assoc]
    rw [readDigits?, Option.bind_eq_bind, Option.bind_eq_some_iff, List.forall_mem_cons,
      ← hplaces]
    constructor
    · rintro ⟨d, hd, hrest⟩
      obtain ⟨hc, rfl⟩ := digit?_eq_some_iff.1 hd
      obtain ⟨hfigures, hvalue⟩ := ih.1 hrest
      exact ⟨⟨hc, hfigures⟩, hvalue⟩
    · rintro ⟨⟨hc, hfigures⟩, hvalue⟩
      exact ⟨_, digit?_of_isDigit hc, ih.2 ⟨hfigures, hvalue⟩⟩

/-- A number without a sign is read exactly from figures. -/
theorem readNat?_eq_some_iff : readNat? l = some n ↔ Figures l ∧ placeValue l = n := by
  cases l with
  | nil =>
    constructor
    · intro h
      contradiction
    · rintro ⟨hfigures, -⟩
      exact absurd rfl hfigures.ne_nil
  | cons c rest =>
    rw [readNat?, readDigits?_eq_some_iff, Nat.mul_zero, Nat.zero_add]
    constructor
    · rintro ⟨hfigures, hvalue⟩
      exact ⟨⟨List.cons_ne_nil _ _, hfigures⟩, hvalue⟩
    · rintro ⟨hfigures, hvalue⟩
      exact ⟨hfigures.isDigit, hvalue⟩

/-- A text is read as an integer exactly if it is a numeral of it. -/
theorem read?_eq_some_iff : read? l = some z ↔ Numeral l z := by
  constructor
  · intro h
    unfold read? at h
    split at h
    · obtain ⟨n, hn, rfl⟩ := Option.map_eq_some_iff.1 h
      obtain ⟨hfigures, rfl⟩ := readNat?_eq_some_iff.1 hn
      exact .plus hfigures
    · obtain ⟨n, hn, rfl⟩ := Option.map_eq_some_iff.1 h
      obtain ⟨hfigures, rfl⟩ := readNat?_eq_some_iff.1 hn
      exact .minus hfigures
    · obtain ⟨n, hn, rfl⟩ := Option.map_eq_some_iff.1 h
      obtain ⟨hfigures, rfl⟩ := readNat?_eq_some_iff.1 hn
      exact .unsigned hfigures
  · rintro (h | h | h)
    · rw [read?_of_isDigit h.isDigit, readNat?_eq_some_iff.2 ⟨h, rfl⟩]
      rfl
    · rw [read?, readNat?_eq_some_iff.2 ⟨h, rfl⟩]
      rfl
    · rw [read?, readNat?_eq_some_iff.2 ⟨h, rfl⟩]
      rfl

/-- A text is read as a 32-bit integer exactly if it is a numeral of it. -/
theorem readInt32?_eq_some_iff {text : String} {n : Int32} :
    readInt32? text = some n ↔ Numeral text.toList n.toInt := by
  rw [readInt32?, Option.bind_eq_some_iff]
  constructor
  · rintro ⟨z, hz, hn⟩
    rw [← toInt32?_eq_some_iff.1 hn]
    exact read?_eq_some_iff.1 hz
  · intro h
    exact ⟨n.toInt, read?_eq_some_iff.2 h, toInt32?_toInt n⟩

/-- A text is refused exactly if it is no numeral, or one of a number out of range. -/
theorem readInt32?_eq_none_iff {text : String} : readInt32? text = none ↔
    ∀ z, Numeral text.toList z → z < -2147483648 ∨ 2147483647 < z := by
  rw [readInt32?, Option.bind_eq_none_iff]
  constructor
  · intro h z hz
    have hrefused := h z (read?_eq_some_iff.2 hz)
    unfold toInt32? at hrefused
    split at hrefused
    · contradiction
    · omega
  · intro h z hz
    have hrange := h z (read?_eq_some_iff.1 hz)
    rw [toInt32?, if_neg (by omega)]

/-! ## What is written -/

/-- Figures without a zero in front of others. -/
structure Trimmed (l : List Char) : Prop extends Figures l where
  eq_nil_of_zero : ∀ rest, l = '0' :: rest → rest = []

/-- A text without an idle sign and without idle zeros. -/
inductive Canonical : List Char → Prop
  | unsigned {l : List Char} (h : Trimmed l) : Canonical l
  | minus {l : List Char} (h : Trimmed l) (hne : l ≠ ['0']) : Canonical ('-' :: l)

/-- The figures that are written for a number stand for it. -/
theorem placeValue_toDigits (n : Nat) : placeValue (Nat.toDigits 10 n) = n :=
  (readNat?_eq_some_iff.1 (readNat?_toDigits n)).2

/-- A figure is what is written for its value. -/
theorem toDigits_figure (hc : c.isDigit = true) : Nat.toDigits 10 (c.toNat - 48) = [c] := by
  obtain ⟨hlow, hhigh⟩ : 48 ≤ c.toNat ∧ c.toNat ≤ 57 := Char.isDigit_iff_toNat.1 hc
  have hchar : (c.toNat - 48).digitChar = c := by
    apply Char.toNat_inj.1
    rw [Nat.toNat_digitChar_of_lt_ten (by omega)]
    omega
  rw [Nat.toDigits_of_lt_base (by omega), hchar]

/-- Figures after a number that is not zero are written after it. -/
theorem toDigits_append (h : ∀ c ∈ l, c.isDigit = true) (hn : 0 < n) :
    Nat.toDigits 10 n ++ l = Nat.toDigits 10 (10 ^ l.length * n + placeValue l) := by
  induction l generalizing n with
  | nil => simp [placeValue]
  | cons c rest ih =>
    rcases List.forall_mem_cons.1 h with ⟨hc, hrest⟩
    have hhigh : c.toNat ≤ 57 := (Char.isDigit_iff_toNat.1 hc).2
    have hvalue : 10 ^ rest.length * (10 * n + (c.toNat - 48)) + placeValue rest =
        10 ^ (c :: rest).length * n + placeValue (c :: rest) := by
      rw [placeValue_cons, List.length_cons, Nat.pow_succ, Nat.mul_add, Nat.mul_assoc,
        Nat.add_assoc]
    calc Nat.toDigits 10 n ++ c :: rest
      _ = (Nat.toDigits 10 n ++ Nat.toDigits 10 (c.toNat - 48)) ++ rest := by
        rw [toDigits_figure hc, List.append_assoc, List.singleton_append]
      _ = Nat.toDigits 10 (10 * n + (c.toNat - 48)) ++ rest := by
        rw [Nat.toDigits_append_toDigits (by omega) hn (by omega)]
      _ = Nat.toDigits 10 (10 ^ (c :: rest).length * n + placeValue (c :: rest)) := by
        rw [ih hrest (by omega), hvalue]

/-- Figures without an idle zero are those that are written for their number. -/
theorem toDigits_placeValue (h : Trimmed l) : Nat.toDigits 10 (placeValue l) = l := by
  cases l with
  | nil => exact absurd rfl h.ne_nil
  | cons c rest =>
    rcases List.forall_mem_cons.1 h.isDigit with ⟨hc, hrest⟩
    by_cases hzero : c = '0'
    · subst hzero
      rw [h.eq_nil_of_zero rest rfl]
      rfl
    · have hlow : 48 ≤ c.toNat := (Char.isDigit_iff_toNat.1 hc).1
      have hne : c.toNat ≠ 48 := fun heq => hzero (Char.toNat_inj.1 heq)
      rw [placeValue_cons, ← toDigits_append hrest (by omega), toDigits_figure hc,
        List.singleton_append]

/-- What is written for a number has no idle zero. -/
theorem trimmed_toDigits (n : Nat) : Trimmed (Nat.toDigits 10 n) := by
  refine ⟨⟨Nat.toDigits_ne_nil, fun c => isDigit_of_mem_toDigits⟩, ?_⟩
  intro rest hzero
  -- the other figures stand for the same number, so fewer figures would do
  have hvalue := placeValue_toDigits n
  rw [hzero, placeValue_cons] at hvalue
  have hrest : placeValue rest = n := by simpa using hvalue
  have hlt := placeValue_lt (l := rest) fun c hc =>
    isDigit_of_mem_toDigits (n := n) (hzero ▸ List.mem_cons_of_mem _ hc)
  rw [hrest] at hlt
  by_contra hne
  have hlength := (Nat.length_toDigits_le_iff (by omega) (List.length_pos_iff.2 hne)).2 hlt
  rw [hzero, List.length_cons] at hlength
  omega

/-- What is written for an integer is canonical. -/
theorem canonical_write (z : Int) : Canonical (write z) := by
  cases z with
  | ofNat n => exact .unsigned (trimmed_toDigits n)
  | negSucc n =>
    refine .minus (trimmed_toDigits (n + 1)) ?_
    intro hzero
    have hvalue := placeValue_toDigits (n + 1)
    rw [hzero] at hvalue
    contradiction

/-- What is written for an integer is its one canonical numeral. -/
theorem eq_write_iff : l = write z ↔ Numeral l z ∧ Canonical l := by
  constructor
  · rintro rfl
    exact ⟨read?_eq_some_iff.1 (read?_write z), canonical_write z⟩
  · rintro ⟨hnumeral, hcanonical⟩
    cases hcanonical with
    | unsigned htrimmed =>
      cases hnumeral with
      | unsigned _ => exact (toDigits_placeValue htrimmed).symm
      | plus _ => exact absurd (htrimmed.isDigit '+' List.mem_cons_self) (by decide)
      | minus _ => exact absurd (htrimmed.isDigit '-' List.mem_cons_self) (by decide)
    | minus htrimmed hne =>
      rename_i figures
      cases hnumeral with
      | unsigned h => exact absurd (h.isDigit '-' List.mem_cons_self) (by decide)
      | minus _ =>
        have hwritten := toDigits_placeValue htrimmed
        cases hvalue : placeValue figures with
        | zero =>
          rw [hvalue, Nat.toDigits_zero] at hwritten
          exact absurd hwritten.symm hne
        | succ n =>
          rw [hvalue] at hwritten
          exact congrArg ('-' :: ·) hwritten.symm

/-- The same for texts of 32-bit integers. -/
theorem eq_writeInt32_iff {text : String} {n : Int32} :
    text = writeInt32 n ↔ Numeral text.toList n.toInt ∧ Canonical text.toList := by
  rw [← eq_write_iff, writeInt32, ← String.toList_inj, String.toList_ofList]

end Federation.Text.Decimal
