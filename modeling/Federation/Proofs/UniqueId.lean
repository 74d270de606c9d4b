import Federation.Proofs.Registry
import Federation.Proofs.Text.Base64
import Federation.Proofs.Text.Decimal

/-!
# Federation.Proofs.UniqueId — one unique id for each entity

Unique ids are read in exactly the form in which they are written. Reading goes through base64,
UTF-8, the first dot and a decimal number, and none of these layers takes a second spelling: an
accepted id is the id of the entity that it is read as (`decode?_eq_some_iff`). The registry adds
that the backend is one of its own.
-/

namespace Federation

/-! ## UTF-8 -/

/-- Bytes are read as a text exactly if they are the bytes of that text. -/
theorem fromUTF8?_eq_some_iff {bytes : ByteArray} {text : String} :
    String.fromUTF8? bytes = some text ↔ bytes = text.toUTF8 := by
  constructor
  · intro h
    unfold String.fromUTF8? at h
    split at h
    · injection h with h
      rw [← h]
      rfl
    · contradiction
  · intro h
    have hvalid : bytes.IsValidUTF8 := h ▸ text.isValidUTF8
    rw [String.fromUTF8?, dif_pos hvalid]
    subst h
    rfl

namespace EntityId

/-! ## Plain form -/

/-- The plain form, character by character. -/
theorem toList_plain (e : EntityId) :
    e.plain.toList = Text.Decimal.write e.backend.toInt ++ '.' :: e.localId.toList := by
  simp [plain, Text.Decimal.writeInt32]

/-- A written number has no dot in it. -/
theorem ne_dot_of_mem_write {n : Int} {c : Char} (h : c ∈ Text.Decimal.write n) : c ≠ '.' := by
  rintro rfl
  rcases Text.Decimal.mem_write h with h | h
  · exact absurd h (by decide)
  · exact absurd h (by decide)

/-- The first dot of a plain form ends the backend id, whatever the local id holds. -/
theorem takeWhile_plain (e : EntityId) :
    e.plain.toList.takeWhile (· ≠ '.') = Text.Decimal.write e.backend.toInt := by
  rw [toList_plain, List.takeWhile_append_of_pos]
  · simp
  · intro c hc
    simpa using ne_dot_of_mem_write hc

/-- What is left from the first dot of a plain form on is the local id. -/
theorem dropWhile_plain (e : EntityId) :
    e.plain.toList.dropWhile (· ≠ '.') = '.' :: e.localId.toList := by
  rw [toList_plain, List.dropWhile_append_of_pos]
  · simp
  · intro c hc
    simpa using ne_dot_of_mem_write hc

/-- The plain form of an entity is read as that entity, unless its local id is empty. -/
theorem ofPlain?_plain {e : EntityId} (h : e.localId ≠ "") : ofPlain? e.plain = some e := by
  obtain ⟨c, rest, hlocal⟩ : ∃ c rest, e.localId.toList = c :: rest :=
    List.exists_cons_of_ne_nil fun hnil => h (String.toList_eq_nil_iff.1 hnil)
  have hnumber : String.ofList (Text.Decimal.write e.backend.toInt) =
      Text.Decimal.writeInt32 e.backend := rfl
  have hback : String.ofList (c :: rest) = e.localId := by
    rw [← hlocal, String.ofList_toList]
  simp only [ofPlain?, dropWhile_plain, hlocal, takeWhile_plain, hnumber,
    Text.Decimal.readInt32?_writeInt32, hback, Option.bind_eq_bind, Option.bind_some, if_true]

/-- The plain form of an entity without a local id is not read. -/
theorem ofPlain?_plain_of_empty {e : EntityId} (h : e.localId = "") : ofPlain? e.plain = none := by
  have hlocal : e.localId.toList = [] := String.toList_eq_nil_iff.2 h
  simp only [ofPlain?, dropWhile_plain, hlocal]

/-- A plain text that can be read is the plain form of what it is read as. -/
theorem eq_plain_of_ofPlain? {text : String} {e : EntityId} (h : ofPlain? text = some e) :
    text = e.plain ∧ e.localId ≠ "" := by
  unfold ofPlain? at h
  split at h
  · rename_i c rest hrest
    simp only [Option.bind_eq_bind, Option.bind_eq_some_iff] at h
    rcases h with ⟨n, -, h⟩
    split at h
    · rename_i hcanonical
      injection h with h
      subst h
      have hnumber : Text.Decimal.write n.toInt = text.toList.takeWhile (· ≠ '.') := by
        rw [← String.toList_ofList (l := text.toList.takeWhile (· ≠ '.')), ← hcanonical,
          Text.Decimal.writeInt32, String.toList_ofList]
      refine ⟨?_, ?_⟩
      · -- both sides of the first dot are those of the plain form
        rw [← String.toList_inj, toList_plain, String.toList_ofList, hnumber, ← hrest,
          List.takeWhile_append_dropWhile]
      · intro hempty
        have hnil := congrArg String.toList hempty
        rw [String.toList_ofList] at hnil
        contradiction
    · contradiction
  · contradiction

/-! ## Opaque form -/

/-- What is written is read back as far as the plain form. -/
theorem decode?_encode (e : EntityId) : decode? e.encode = ofPlain? e.plain := by
  have hbytes : Text.Base64.decode? e.encode.toList = some e.plain.toUTF8.data.toList := by
    rw [encode, String.toList_ofList, Text.Base64.decode?_encode]
  have htext : String.fromUTF8? ⟨e.plain.toUTF8.data.toList.toArray⟩ = some e.plain :=
    fromUTF8?_eq_some_iff.2 rfl
  simp only [decode?, hbytes, htext, Option.bind_eq_bind, Option.bind_some]

/-- No two entities have the same unique id, be it that a local id is empty. -/
theorem encode_injective {e e' : EntityId} (h : e.encode = e'.encode) : e = e' := by
  have hplain : e.plain = e'.plain := by
    have hbytes : e.plain.toUTF8.data.toList = e'.plain.toUTF8.data.toList := by
      have hraw := String.ofList_injective h
      have hread := congrArg Text.Base64.decode? hraw
      rw [Text.Base64.decode?_encode, Text.Base64.decode?_encode] at hread
      exact Option.some.inj hread
    apply String.toByteArray_inj.1
    exact ByteArray.ext (Array.toList_inj.1 hbytes)
  have hchars := congrArg String.toList hplain
  -- both sides of the first dot are the same
  have hbackend := congrArg (List.takeWhile (· ≠ '.')) hchars
  have hlocal := congrArg (List.dropWhile (· ≠ '.')) hchars
  rw [takeWhile_plain, takeWhile_plain] at hbackend
  rw [dropWhile_plain, dropWhile_plain] at hlocal
  have hnumber := congrArg Text.Decimal.read? hbackend
  rw [Text.Decimal.read?_write, Text.Decimal.read?_write] at hnumber
  have hid : e.backend = e'.backend := Int32.toInt_inj.1 (Option.some.inj hnumber)
  have hrest : e.localId = e'.localId := String.toList_inj.1 (List.cons.inj hlocal).2
  cases e
  cases e'
  rw [EntityId.mk.injEq]
  exact ⟨hid, hrest⟩

/-- Unique ids are equal exactly if the backend ids and the local ids are. -/
theorem encode_eq_iff {b b' : Int32} {l l' : String} :
    encode ⟨b, l⟩ = encode ⟨b', l'⟩ ↔ b = b' ∧ l = l' := by
  constructor
  · intro h
    injection encode_injective h with hb hl
    exact ⟨hb, hl⟩
  · rintro ⟨rfl, rfl⟩
    rfl

/-- A text is read as an entity exactly if it is the unique id of that entity, and the entity has
a local id at all. -/
theorem decode?_eq_some_iff {raw : String} {e : EntityId} :
    decode? raw = some e ↔ raw = e.encode ∧ e.localId ≠ "" := by
  constructor
  · intro h
    simp only [decode?, Option.bind_eq_bind, Option.bind_eq_some_iff] at h
    rcases h with ⟨bytes, hbytes, text, htext, hplain⟩
    -- each layer gives back what was written, from the outside in
    have hraw := Text.Base64.eq_encode_of_decode? hbytes
    have hutf := fromUTF8?_eq_some_iff.1 htext
    rcases eq_plain_of_ofPlain? hplain with ⟨hplain, hlocal⟩
    refine ⟨?_, hlocal⟩
    rw [encode, ← hplain, ← hutf, ← String.toList_inj, String.toList_ofList, hraw]
  · rintro ⟨hraw, hlocal⟩
    rw [hraw, decode?_encode, ofPlain?_plain hlocal]

example : encode ⟨1, "42"⟩ = "MS40Mg==" := by decide

end EntityId

/-! ## Ids of a registry -/

namespace Registry

/-- The registry reads a text as an entity exactly if it is the unique id of that entity, and the
entity has a local id at a registered backend. -/
theorem decode_eq_ok_iff {r : Registry} {raw : String} {e : EntityId} :
    r.decode raw = .ok e ↔ r.Registered e.backend ∧ e.localId ≠ "" ∧ raw = e.encode := by
  rw [← containsId_iff]
  unfold decode
  constructor
  · intro h
    split at h
    · rename_i e' hread
      split at h
      · rename_i hknown
        injection h with h
        subst h
        rcases EntityId.decode?_eq_some_iff.1 hread with ⟨hraw, hlocal⟩
        exact ⟨hknown, hlocal, hraw⟩
      · contradiction
    · contradiction
  · rintro ⟨hknown, hlocal, hraw⟩
    rw [EntityId.decode?_eq_some_iff.2 ⟨hraw, hlocal⟩]
    simp only [hknown, if_true]

/-- There is only one way in which the registry refuses a text. -/
theorem decode_eq_error {r : Registry} {raw : String} {err : StoreError}
    (h : r.decode raw = .error err) : err = .invalidInput .uniqueId := by
  unfold decode at h
  split at h
  · split at h
    · contradiction
    · injection h with h
      exact h.symm
  · injection h with h
    exact h.symm

/-- The id of an entity without a local id is refused. -/
theorem decode_encode_of_empty (r : Registry) {e : EntityId} (h : e.localId = "") :
    r.decode e.encode = .error (.invalidInput .uniqueId) := by
  rw [decode, EntityId.decode?_encode, EntityId.ofPlain?_plain_of_empty h]

/-- Unique ids are read in exactly the form in which they are written. A text is read as an entity
if and only if the entity has a non-empty local id at a registered backend and the text is its
unique id; any other text is refused as an invalid input. So reading undoes writing, what is read
is written back as it was, and no entity has two unique ids. -/
theorem decode_exact (r : Registry) (raw : String) :
    (∀ e, r.decode raw = .ok e ↔ r.Registered e.backend ∧ e.localId ≠ "" ∧ raw = e.encode) ∧
    ((¬ ∃ e : EntityId, r.Registered e.backend ∧ e.localId ≠ "" ∧ raw = e.encode) →
      r.decode raw = .error (.invalidInput .uniqueId)) ∧
    (∀ e : EntityId, r.Registered e.backend → e.localId ≠ "" → r.decode e.encode = .ok e) ∧
    (∀ e, r.decode raw = .ok e → e.encode = raw) ∧
    (∀ raw' e, r.decode raw = .ok e → r.decode raw' = .ok e → raw = raw') := by
  refine ⟨fun e => decode_eq_ok_iff, ?_, ?_, ?_, ?_⟩
  · intro hnone
    cases hread : r.decode raw with
    | ok e => exact absurd ⟨e, decode_eq_ok_iff.1 hread⟩ hnone
    | error err => rw [decode_eq_error hread]
  · intro e hknown hlocal
    exact decode_eq_ok_iff.2 ⟨hknown, hlocal, rfl⟩
  · intro e hread
    rcases decode_eq_ok_iff.1 hread with ⟨-, -, hraw⟩
    exact hraw.symm
  · intro raw' e hread hread'
    rcases decode_eq_ok_iff.1 hread with ⟨-, -, hraw⟩
    rcases decode_eq_ok_iff.1 hread' with ⟨-, -, hraw'⟩
    rw [hraw, hraw']

/-- A local id with dots is read back at the least backend id, and a text without its padding is
nobody's id. -/
theorem decode_exact_poles :
    poles.decode (EntityId.encode ⟨-2147483648, ".ü.7"⟩) = .ok ⟨-2147483648, ".ü.7"⟩ ∧
      poles.decode "MS40Mg" = .error (.invalidInput .uniqueId) := by
  have hread := (decode_exact poles (EntityId.encode ⟨-2147483648, ".ü.7"⟩)).2.2.1
  have hrefuse := (decode_exact poles "MS40Mg").2.1
  constructor
  · exact hread ⟨-2147483648, ".ü.7"⟩ ⟨_, List.mem_cons_self, rfl⟩ (by decide)
  · apply hrefuse
    rintro ⟨e, -, hlocal, hraw⟩
    have hnone : EntityId.decode? "MS40Mg" = none := by decide
    have hsome := EntityId.decode?_eq_some_iff.2 ⟨hraw, hlocal⟩
    rw [hnone] at hsome
    contradiction

end Registry

end Federation
