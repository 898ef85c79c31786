import Mathlib.Algebra.Group.Nat.Defs
import Mathlib.Tactic.SplitIfs
import SecretProjection.Text.Utf8

/-!
# The order of texts

Texts are told apart by their UTF-8 bytes, and the order of texts by their code points is the order
of these bytes.  The first byte of a character grows with its number, and where it stays the same
the bytes that follow are as many and grow.
-/

namespace SecretProjection

namespace Text

namespace Utf8

/-!
# Bytes of a text
-/

/-- The bytes are collected in reverse, from a position on. -/
theorem toList_loop (bytes : ByteArray) (index : Nat) (done : List UInt8) :
    ByteArray.toList.loop bytes index done = done.reverse ++ bytes.data.toList.drop index := by
  fun_induction ByteArray.toList.loop bytes index done with
  | case1 index done hlt ih =>
      have hlength : index < bytes.data.toList.length := hlt
      have hbyte : bytes.get! index = bytes.data.toList[index] := by
        change bytes.data[index]! = bytes.data.toList[index]
        rw [getElem!_pos bytes.data index hlt, Array.getElem_toList]
      rw [ih, List.drop_eq_getElem_cons hlength, hbyte, List.reverse_cons, List.append_assoc]
      rfl
  | case2 index done hge =>
      have hlength : bytes.data.toList.length ≤ index := Nat.le_of_not_lt hge
      rw [List.drop_eq_nil_of_le hlength, List.append_nil]

theorem encode_eq_flatMap (text : String) :
    encode text = text.toList.flatMap String.utf8EncodeChar := by
  have hbytes : text.toByteArray = text.toList.utf8Encode := by
    rw [← String.toByteArray_ofList, String.ofList_toList]
  rw [encode, ByteArray.toList, toList_loop, String.toUTF8_eq_toByteArray, hbytes, List.utf8Encode,
    List.data_toByteArray]
  rfl

/-!
# Bytes of a character
-/

/-- The number of bytes that follow the first byte of a character. -/
def following (n : Nat) : Nat :=
  if n ≤ 0x7f then 0 else if n ≤ 0x7ff then 1 else if n ≤ 0xffff then 2 else 3

/-- The first byte of a character. -/
def lead (n : Nat) : Nat :=
  if n ≤ 0x7f then n
  else if n ≤ 0x7ff then n / 64 + 0xc0
  else if n ≤ 0xffff then n / 4096 + 0xe0
  else n / 262144 + 0xf0

/-- The last bytes of a character, of which each holds six bits. -/
def lastBytes (n : Nat) : Nat -> Bytes
  | 0 => []
  | count + 1 => UInt8.ofNat (n / 64 ^ count % 64 + 0x80) :: lastBytes n count

theorem toNat_lt (c : Char) : c.val.toNat < 0x110000 := by
  rcases c.valid with hlow | hhigh
  · exact Nat.lt_trans hlow (by decide)
  · exact hhigh.2

theorem utf8EncodeChar_eq (c : Char) :
    String.utf8EncodeChar c =
      UInt8.ofNat (lead c.val.toNat) :: lastBytes c.val.toNat (following c.val.toNat) := by
  have hlt := toNat_lt c
  simp only [String.utf8EncodeChar, lead, following]
  generalize c.val.toNat = n at hlt
  split_ifs with hone htwo hthree
  · rfl
  · have hfirst : n / 64 % 32 = n / 64 := Nat.mod_eq_of_lt (by omega)
    simp [lastBytes, hfirst]
  · have hfirst : n / 4096 % 16 = n / 4096 := Nat.mod_eq_of_lt (by omega)
    simp [lastBytes, hfirst]
  · have hfirst : n / 262144 % 8 = n / 262144 := Nat.mod_eq_of_lt (by omega)
    simp [lastBytes, hfirst]

theorem cons_lt_cons_of_le {n m : Nat} {s t : Bytes} (hm : m < 256) (hle : n ≤ m)
    (h : n = m -> s < t) : UInt8.ofNat n :: s < UInt8.ofNat m :: t := by
  rcases Nat.lt_or_eq_of_le hle with hlt | heq
  · apply List.cons_lt_cons_iff.mpr
    left
    rw [UInt8.lt_iff_toNat_lt, UInt8.toNat_ofNat', UInt8.toNat_ofNat', Nat.mod_eq_of_lt (by omega),
      Nat.mod_eq_of_lt hm]
    exact hlt
  · exact List.cons_lt_cons_iff.mpr (.inr ⟨congrArg UInt8.ofNat heq, h heq⟩)

/-- Among numbers that agree in their higher bits, the last bytes grow. -/
theorem lastBytes_append_lt {n m count : Nat} (hlt : n < m)
    (h : n / 64 ^ count = m / 64 ^ count) (s t : Bytes) :
    lastBytes n count ++ s < lastBytes m count ++ t := by
  induction count with
  | zero =>
      rw [Nat.pow_zero, Nat.div_one, Nat.div_one] at h
      omega
  | succ count ih =>
      have hle : n / 64 ^ count ≤ m / 64 ^ count := Nat.div_le_div_right (Nat.le_of_lt hlt)
      rw [Nat.pow_succ, ← Nat.div_div_eq_div_mul, ← Nat.div_div_eq_div_mul] at h
      apply cons_lt_cons_of_le
      · omega
      · omega
      · intro heq
        apply ih
        omega

theorem lead_lt_or_eq {n m : Nat} (h : n < m) (hm : m < 0x110000) :
    lead n < lead m ∨ lead n = lead m ∧ following n = following m ∧
      n / 64 ^ following n = m / 64 ^ following n := by
  simp only [lead, following]
  split_ifs <;> simp <;> omega

theorem lead_lt {n : Nat} (h : n < 0x110000) : lead n < 256 := by
  unfold lead
  split_ifs <;> omega

theorem utf8EncodeChar_append_lt {c d : Char} (h : c < d) (s t : Bytes) :
    String.utf8EncodeChar c ++ s < String.utf8EncodeChar d ++ t := by
  have hlt : c.val.toNat < d.val.toNat := h
  have hd := toNat_lt d
  rw [utf8EncodeChar_eq, utf8EncodeChar_eq, List.cons_append, List.cons_append]
  rcases lead_lt_or_eq hlt hd with hlead | ⟨hlead, hfollowing, hhigh⟩
  · apply cons_lt_cons_of_le (lead_lt hd) (Nat.le_of_lt hlead)
    intro heq
    omega
  · rw [hlead, ← hfollowing]
    exact cons_lt_cons_of_le (lead_lt hd) (Nat.le_refl _) fun _ =>
      lastBytes_append_lt hlt hhigh s t

/-!
# Order
-/

theorem flatMap_utf8EncodeChar_lt {chars others : List Char} (h : chars < others) :
    chars.flatMap String.utf8EncodeChar < others.flatMap String.utf8EncodeChar := by
  induction chars generalizing others with
  | nil =>
      cases others with
      | nil => exact absurd h (List.lt_irrefl [])
      | cons d others =>
          rw [List.flatMap_cons, utf8EncodeChar_eq]
          exact List.nil_lt_cons _ _
  | cons c chars ih =>
      cases others with
      | nil => exact absurd h (List.not_lt_nil _)
      | cons d others =>
          rw [List.flatMap_cons, List.flatMap_cons]
          rcases List.cons_lt_cons_iff.mp h with hlt | ⟨rfl, hrest⟩
          · exact utf8EncodeChar_append_lt hlt _ _
          · exact List.append_left_lt (ih hrest)

theorem encode_lt_encode {first second : String} (h : first < second) :
    encode first < encode second := by
  have hchars : first.toList < second.toList := h
  rw [encode_eq_flatMap, encode_eq_flatMap]
  exact flatMap_utf8EncodeChar_lt hchars

/-- The order of texts is the order of their bytes. -/
theorem encode_le_encode_iff {first second : String} :
    encode first ≤ encode second <-> first ≤ second := by
  constructor
  · intro h
    apply String.not_lt.mp
    intro hlt
    exact List.not_lt.mpr h (encode_lt_encode hlt)
  · intro h
    apply List.not_lt.mp
    intro hbytes
    by_cases heq : first = second
    · rw [heq] at hbytes
      exact List.lt_irrefl _ hbytes
    · have hlt : first < second := by
        apply Decidable.byContradiction
        intro hnot
        exact heq (String.le_antisymm h (String.not_lt.mp hnot))
      exact List.lt_asymm hbytes (encode_lt_encode hlt)

theorem encode_injective {first second : String} (h : encode first = encode second) :
    first = second := by
  apply String.le_antisymm
  · exact encode_le_encode_iff.mp (h ▸ List.le_refl _)
  · exact encode_le_encode_iff.mp (h ▸ List.le_refl _)

end Utf8

end Text

end SecretProjection
