import SecretProjection.Proofs.TextOrder

/-!
# Bytes of characters

An ASCII character is one byte with its own number, and no byte of another character is below 128.
So an ASCII character can be looked for among the bytes of a text as well as among its characters.

The bytes of a text are read as that text, and no other bytes are.
-/

namespace SecretProjection

namespace Text

namespace Utf8

/-!
# Single characters
-/

/-- The byte of an ASCII character. -/
def byte (c : Char) : UInt8 := UInt8.ofNat c.toNat

theorem utf8EncodeChar_of_lt {c : Char} (h : c.toNat < 128) :
    String.utf8EncodeChar c = [byte c] := by
  have hle : c.val.toNat ≤ 0x7f := Nat.le_of_lt_succ h
  rw [utf8EncodeChar_eq, lead, following, if_pos hle, if_pos hle]
  rfl

theorem utf8Size_of_lt {c : Char} (h : c.toNat < 128) : c.utf8Size = 1 := by
  rw [← String.length_utf8EncodeChar, utf8EncodeChar_of_lt h]
  rfl

theorem le_of_mem_lastBytes {n count : Nat} {b : UInt8} (h : b ∈ lastBytes n count) :
    128 ≤ b.toNat := by
  induction count with
  | zero => cases h
  | succ count ih =>
      rw [lastBytes] at h
      cases h with
      | head =>
          rw [UInt8.toNat_ofNat']
          omega
      | tail _ hrest => exact ih hrest

/-- All bytes of a wide character are above those of the ASCII characters. -/
theorem le_of_mem_utf8EncodeChar {c : Char} (h : 128 ≤ c.toNat) {b : UInt8}
    (hb : b ∈ String.utf8EncodeChar c) : 128 ≤ b.toNat := by
  have hlt := toNat_lt c
  have hwide : 128 ≤ c.val.toNat := h
  rw [utf8EncodeChar_eq] at hb
  cases hb with
  | head =>
      have hlead := lead_lt hlt
      rw [UInt8.toNat_ofNat', Nat.mod_eq_of_lt hlead]
      unfold lead
      split_ifs <;> omega
  | tail _ hrest => exact le_of_mem_lastBytes hrest

theorem toNat_byte {c : Char} (h : c.toNat < 128) : (byte c).toNat = c.toNat :=
  UInt8.toNat_ofNat_of_lt' (Nat.lt_trans h (by decide))

/-- A byte of a character that is the byte of an ASCII character is that very character. -/
theorem eq_of_byte_mem {c d : Char} (hd : d.toNat < 128)
    (h : byte d ∈ String.utf8EncodeChar c) : c = d := by
  by_cases hc : c.toNat < 128
  · rw [utf8EncodeChar_of_lt hc, List.mem_singleton] at h
    apply Char.toNat_inj.mp
    rw [← toNat_byte hc, ← h, toNat_byte hd]
  · have hwide := le_of_mem_utf8EncodeChar (Nat.le_of_not_lt hc) h
    rw [toNat_byte hd] at hwide
    omega

/-!
# Texts
-/

theorem encode_ofList (chars : List Char) :
    encode (String.ofList chars) = chars.flatMap String.utf8EncodeChar := by
  rw [encode_eq_flatMap, String.toList_ofList]

theorem flatMap_utf8EncodeChar_of_lt {chars : List Char}
    (h : forall c, c ∈ chars -> c.toNat < 128) :
    chars.flatMap String.utf8EncodeChar = chars.map byte := by
  induction chars with
  | nil => rfl
  | cons c chars ih =>
      have hrest := ih fun d hd => h d (List.mem_cons_of_mem c hd)
      rw [List.flatMap_cons, utf8EncodeChar_of_lt (h c List.mem_cons_self), hrest]
      rfl

theorem encode_eq_data (text : String) : encode text = text.toByteArray.data.toList := by
  rw [encode, ByteArray.toList, toList_loop, String.toUTF8_eq_toByteArray]
  rfl

/-- Bytes are read as the one text that has them. -/
theorem decode_eq_ok_iff {bytes : Bytes} {text : String} :
    decode bytes = .ok text <-> encode text = bytes := by
  unfold decode String.fromUTF8?
  constructor
  · intro h
    split at h
    · rename_i found hfound
      split_ifs at hfound
      cases hfound
      cases h
      rw [encode_eq_data]
      rfl
    · cases h
  · intro h
    have hbytes : (⟨bytes.toArray⟩ : ByteArray) = text.toByteArray := by
      apply ByteArray.ext
      rw [← h, encode_eq_data, Array.toArray_toList]
    have hvalid : (⟨bytes.toArray⟩ : ByteArray).IsValidUTF8 := hbytes ▸ text.isValidUTF8
    rw [dif_pos hvalid]
    simp only [Except.ok.injEq]
    apply String.toByteArray_inj.mp
    exact hbytes

end Utf8

end Text

end SecretProjection
