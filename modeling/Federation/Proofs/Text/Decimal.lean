import Federation.Text.Decimal

/-!
# Federation.Proofs.Text.Decimal — decimal texts read back

The canonical text of an integer is read as that integer (`read?_write`), over the whole 32-bit
range (`readInt32?_writeInt32`), the most negative number included. It is made of digits and at
most one minus sign (`mem_write`).
-/

namespace Federation.Text.Decimal

/-! ## Digits -/

/-- A digit has its value. -/
theorem digit?_of_isDigit {c : Char} (h : c.isDigit = true) : digit? c = some (c.toNat - 48) := by
  have hrange : '0' ≤ c ∧ c ≤ '9' := Char.isDigit_iff_toNat.1 h
  rw [digit?, if_pos hrange]

/-- A sequence of digits is read by its place values. -/
theorem readDigits?_of_isDigit {l : List Char} (h : ∀ c ∈ l, c.isDigit = true) (acc : Nat) :
    readDigits? acc l = some (Nat.ofDigitChars 10 l acc) := by
  induction l generalizing acc with
  | nil => simp [readDigits?]
  | cons c rest ih =>
    have hc := h c List.mem_cons_self
    have hrest : ∀ c ∈ rest, c.isDigit = true := fun c hc => h c (List.mem_cons_of_mem _ hc)
    rw [readDigits?, digit?_of_isDigit hc, Nat.ofDigitChars_cons, Nat.mul_comm 10 acc]
    exact ih hrest _

/-- The digits that are written for a number are figures. -/
theorem isDigit_of_mem_toDigits {n : Nat} {c : Char} (h : c ∈ Nat.toDigits 10 n) :
    c.isDigit = true :=
  Nat.isDigit_of_mem_toDigits (by omega) (by omega) h

/-! ## Reading what was written -/

/-- A non-negative number is read back. -/
theorem readNat?_toDigits (n : Nat) : readNat? (Nat.toDigits 10 n) = some n := by
  have hread : readDigits? 0 (Nat.toDigits 10 n) = some n := by
    rw [readDigits?_of_isDigit fun c => isDigit_of_mem_toDigits, Nat.ofDigitChars_ten_toDigits]
  cases h : Nat.toDigits 10 n with
  | nil => exact absurd h Nat.toDigits_ne_nil
  | cons c rest => rw [readNat?, ← h, hread]

/-- A text that starts with a figure has no sign. -/
theorem read?_of_isDigit {text : List Char} (h : ∀ c ∈ text, c.isDigit = true) :
    read? text = (readNat? text).map Int.ofNat := by
  unfold read?
  split
  · exact absurd (h '+' List.mem_cons_self) (by decide)
  · exact absurd (h '-' List.mem_cons_self) (by decide)
  · rfl

/-- The canonical text of an integer is read as that integer. -/
theorem read?_write (n : Int) : read? (write n) = some n := by
  cases n with
  | ofNat n =>
    rw [write, read?_of_isDigit fun c => isDigit_of_mem_toDigits, readNat?_toDigits]
    rfl
  | negSucc n =>
    rw [write, read?, readNat?_toDigits]
    rfl

/-- A 32-bit number is in range. -/
theorem toInt32?_toInt (n : Int32) : toInt32? n.toInt = some n := by
  have hlow := Int32.le_toInt n
  have hhigh := Int32.toInt_lt n
  rw [toInt32?, if_pos (by omega), Int32.ofInt_toInt]

/-- An integer is taken exactly if it is one of 32 bits. -/
theorem toInt32?_eq_some_iff {z : Int} {n : Int32} : toInt32? z = some n ↔ z = n.toInt := by
  constructor
  · intro h
    unfold toInt32? at h
    split at h
    · rename_i hrange
      rw [← Option.some.inj h, Int32.toInt_ofInt_of_le hrange.1 (by omega)]
    · contradiction
  · rintro rfl
    exact toInt32?_toInt n

/-- The text of a 32-bit integer is read as that integer. -/
theorem readInt32?_writeInt32 (n : Int32) : readInt32? (writeInt32 n) = some n := by
  rw [readInt32?, writeInt32, String.toList_ofList, read?_write]
  exact toInt32?_toInt n

/-! ## What is written -/

/-- A canonical text is made of figures and the minus sign. -/
theorem mem_write {n : Int} {c : Char} (h : c ∈ write n) : c = '-' ∨ c.isDigit = true := by
  cases n with
  | ofNat n => exact Or.inr (isDigit_of_mem_toDigits h)
  | negSucc n =>
    rcases List.mem_cons.1 h with h | h
    · exact Or.inl h
    · exact Or.inr (isDigit_of_mem_toDigits h)

end Federation.Text.Decimal
