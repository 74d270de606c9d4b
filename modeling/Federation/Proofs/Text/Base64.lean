import Federation.Text.Base64

/-!
# Federation.Proofs.Text.Base64 — each byte string has one base64 text

Writing and reading base64 are inverse to each other in both directions. Reading undoes writing
(`decode?_encode`), so no two byte strings share a text; and a text that can be read at all is the
one that is written for its bytes (`eq_encode_of_decode?`), so no two texts stand for the same
bytes. The second half rests on the strictness of the reader: padding of any other length, unused
bits that are set and foreign characters all have to be refused.
-/

namespace Federation.Text.Base64

/-! ## Digits -/

/-- The digit of a value has that value. -/
theorem value?_digit {n : Nat} (h : n < 64) : value? (digit n) = some n := by
  revert n
  decide

/-- A character with a value is the digit of that value, which has six bits. -/
theorem digit_of_value? {c : Char} {n : Nat} (h : value? c = some n) : n < 64 ∧ digit n = c := by
  unfold value? at h
  split at h
  · -- a capital letter
    rename_i hc
    obtain ⟨hA, hZ⟩ := hc
    have hA' : 65 ≤ c.toNat := hA
    have hZ' : c.toNat ≤ 90 := hZ
    have hn : c.toNat = n + 65 := by
      injection h
      omega
    refine ⟨by omega, ?_⟩
    rw [digit, if_pos (by omega), ← hn, Char.ofNat_toNat]
  · split at h
    · -- a small letter
      rename_i hc
      obtain ⟨ha, hz⟩ := hc
      have ha' : 97 ≤ c.toNat := ha
      have hz' : c.toNat ≤ 122 := hz
      have hn : c.toNat = n + 71 := by
        injection h
        omega
      refine ⟨by omega, ?_⟩
      rw [digit, if_neg (by omega), if_pos (by omega), ← hn, Char.ofNat_toNat]
    · split at h
      · -- a figure
        rename_i hc
        obtain ⟨h0, h9⟩ := hc
        have h0' : 48 ≤ c.toNat := h0
        have h9' : c.toNat ≤ 57 := h9
        have hn : c.toNat = n - 4 := by
          injection h
          omega
        have hlt : 52 ≤ n ∧ n < 62 := by
          injection h
          omega
        refine ⟨by omega, ?_⟩
        rw [digit, if_neg (by omega), if_neg (by omega), if_pos (by omega), ← hn, Char.ofNat_toNat]
      · split at h
        · rename_i hc
          injection h with hn
          subst hn hc
          decide
        · split at h
          · rename_i hc
            injection h with hn
            subst hn hc
            decide
          · contradiction

/-- Padding is no digit. -/
theorem digit_ne_pad {n : Nat} (h : n < 64) : digit n ≠ '=' := by
  revert n
  decide

/-! ## Reading what was written -/

/-- A group of two digits is read as one byte, provided that the unused bits are zero. -/
theorem decode?_two {x y : Nat} (hx : x < 64) (hy : y < 64) :
    decode? [digit x, digit y, '=', '='] =
      if y % 16 = 0 then some [UInt8.ofNat (x * 4 + y / 16)] else none := by
  simp [decode?, value?_digit hx, value?_digit hy]

/-- A group of three digits is read as two bytes, provided that the unused bits are zero. -/
theorem decode?_three {x y z : Nat} (hx : x < 64) (hy : y < 64) (hz : z < 64) :
    decode? [digit x, digit y, digit z, '='] =
      if z % 4 = 0 then some [UInt8.ofNat (x * 4 + y / 16), UInt8.ofNat (y % 16 * 16 + z / 4)]
      else none := by
  rw [decode?]
  · simp [value?_digit hx, value?_digit hy, value?_digit hz]
  · exact digit_ne_pad hz

/-- A full group is read as three bytes, whatever follows it. -/
theorem decode?_four {x y z w : Nat} (hx : x < 64) (hy : y < 64) (hz : z < 64) (hw : w < 64)
    (rest : List Char) :
    decode? (digit x :: digit y :: digit z :: digit w :: rest) = (decode? rest).map fun bytes =>
      UInt8.ofNat (x * 4 + y / 16) :: UInt8.ofNat (y % 16 * 16 + z / 4) ::
        UInt8.ofNat (z % 4 * 64 + w) :: bytes := by
  rw [decode?]
  · simp only [value?_digit hx, value?_digit hy, value?_digit hz, value?_digit hw]
    cases decode? rest <;> rfl
  -- padding in the third or fourth place would make it a last group
  · intro hpad _
    exact absurd hpad (digit_ne_pad hz)
  · intro hpad _
    exact absurd hpad (digit_ne_pad hw)

/-- Reading undoes writing. -/
theorem decode?_encode (bytes : List UInt8) : decode? (encode bytes) = some bytes := by
  fun_induction encode bytes with
  | case1 => rfl
  | case2 a =>
    have ha := a.toNat_lt
    have hsplit : a.toNat / 4 * 4 + a.toNat % 4 * 16 / 16 = a.toNat := by omega
    rw [decode?_two (by omega) (by omega), if_pos (by omega), hsplit, UInt8.ofNat_toNat]
  | case3 a b =>
    have ha := a.toNat_lt
    have hb := b.toNat_lt
    have hfirst : a.toNat / 4 * 4 + (a.toNat % 4 * 16 + b.toNat / 16) / 16 = a.toNat := by omega
    have hsecond : (a.toNat % 4 * 16 + b.toNat / 16) % 16 * 16 + b.toNat % 16 * 4 / 4 =
        b.toNat := by omega
    rw [decode?_three (by omega) (by omega) (by omega), if_pos (by omega), hfirst, hsecond,
      UInt8.ofNat_toNat, UInt8.ofNat_toNat]
  | case4 a b c rest ih =>
    have ha := a.toNat_lt
    have hb := b.toNat_lt
    have hc := c.toNat_lt
    have hfirst : a.toNat / 4 * 4 + (a.toNat % 4 * 16 + b.toNat / 16) / 16 = a.toNat := by omega
    have hsecond : (a.toNat % 4 * 16 + b.toNat / 16) % 16 * 16 +
        (b.toNat % 16 * 4 + c.toNat / 64) / 4 = b.toNat := by omega
    have hthird : (b.toNat % 16 * 4 + c.toNat / 64) % 4 * 64 + c.toNat % 64 = c.toNat := by omega
    rw [decode?_four (by omega) (by omega) (by omega) (by omega), ih, hfirst, hsecond, hthird,
      Option.map_some, UInt8.ofNat_toNat, UInt8.ofNat_toNat, UInt8.ofNat_toNat]

/-! ## Only what was written is read -/

/-- The first byte of a group, from its first two digits. -/
theorem toNat_firstByte {x y : Nat} (hx : x < 64) (hy : y < 64) :
    (UInt8.ofNat (x * 4 + y / 16)).toNat = x * 4 + y / 16 := by
  have hlt : x * 4 + y / 16 < 256 := by omega
  exact UInt8.toNat_ofNat_of_lt' hlt

/-- The second byte of a group, from its second and third digits. -/
theorem toNat_secondByte (y : Nat) {z : Nat} (hz : z < 64) :
    (UInt8.ofNat (y % 16 * 16 + z / 4)).toNat = y % 16 * 16 + z / 4 := by
  have hlt : y % 16 * 16 + z / 4 < 256 := by omega
  exact UInt8.toNat_ofNat_of_lt' hlt

/-- The third byte of a group, from its third and fourth digits. -/
theorem toNat_thirdByte (z : Nat) {w : Nat} (hw : w < 64) :
    (UInt8.ofNat (z % 4 * 64 + w)).toNat = z % 4 * 64 + w := by
  have hlt : z % 4 * 64 + w < 256 := by omega
  exact UInt8.toNat_ofNat_of_lt' hlt

/-- A text that can be read is the one that is written for its bytes. -/
theorem eq_encode_of_decode? {text : List Char} {bytes : List UInt8}
    (h : decode? text = some bytes) : text = encode bytes := by
  fun_induction decode? text generalizing bytes with
  | case1 =>
    injection h with h
    subst h
    rfl
  | case2 a b =>
    simp only [Option.bind_eq_bind, Option.bind_eq_some_iff] at h
    obtain ⟨x, ex, y, ey, h⟩ := h
    obtain ⟨hx, rfl⟩ := digit_of_value? ex
    obtain ⟨hy, rfl⟩ := digit_of_value? ey
    -- nothing is read unless the unused bits are zero, and that fixes the last digit
    split at h
    · injection h with h
      have h₁ : (x * 4 + y / 16) / 4 = x := by omega
      have h₂ : (x * 4 + y / 16) % 4 * 16 = y := by omega
      rw [← h, encode, toNat_firstByte hx hy, h₁, h₂]
    · contradiction
  | case3 a b c _ =>
    simp only [Option.bind_eq_bind, Option.bind_eq_some_iff] at h
    obtain ⟨x, ex, y, ey, z, ez, h⟩ := h
    obtain ⟨hx, rfl⟩ := digit_of_value? ex
    obtain ⟨hy, rfl⟩ := digit_of_value? ey
    obtain ⟨hz, rfl⟩ := digit_of_value? ez
    split at h
    · injection h with h
      have h₁ : (x * 4 + y / 16) / 4 = x := by omega
      have h₂ : (x * 4 + y / 16) % 4 * 16 + (y % 16 * 16 + z / 4) / 16 = y := by omega
      have h₃ : (y % 16 * 16 + z / 4) % 16 * 4 = z := by omega
      rw [← h, encode, toNat_firstByte hx hy, toNat_secondByte y hz, h₁, h₂, h₃]
    · contradiction
  | case4 a b c d rest _ _ ih =>
    simp only [Option.bind_eq_bind, Option.bind_eq_some_iff] at h
    obtain ⟨x, ex, y, ey, z, ez, w, ew, tail, htail, h⟩ := h
    obtain ⟨hx, rfl⟩ := digit_of_value? ex
    obtain ⟨hy, rfl⟩ := digit_of_value? ey
    obtain ⟨hz, rfl⟩ := digit_of_value? ez
    obtain ⟨hw, rfl⟩ := digit_of_value? ew
    injection h with h
    have h₁ : (x * 4 + y / 16) / 4 = x := by omega
    have h₂ : (x * 4 + y / 16) % 4 * 16 + (y % 16 * 16 + z / 4) / 16 = y := by omega
    have h₃ : (y % 16 * 16 + z / 4) % 16 * 4 + (z % 4 * 64 + w) / 64 = z := by omega
    have h₄ : (z % 4 * 64 + w) % 64 = w := by omega
    rw [← h, encode, toNat_firstByte hx hy, toNat_secondByte y hz, toNat_thirdByte z hw, h₁, h₂, h₃,
      h₄, ih htail]
  | case5 => contradiction

/-- Reading accepts exactly what writing produces. -/
theorem decode?_eq_some_iff {text : List Char} {bytes : List UInt8} :
    decode? text = some bytes ↔ text = encode bytes := by
  constructor
  · exact eq_encode_of_decode?
  · intro h
    rw [h, decode?_encode]

end Federation.Text.Base64
