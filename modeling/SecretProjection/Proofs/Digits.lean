import Mathlib.Data.Nat.Digits.Defs
import SecretProjection.Text.Blank
import SecretProjection.Text.Digits

/-!
# Written numbers

The decimal digits of a number are digits, at least one, and their value is the number.  Zeros in
front do not change it.

A reader takes digits as long as there are any, so that a run of them is cut off exactly where
something else stands behind it.  This holds for items of any kind.
-/

namespace SecretProjection

namespace Text

/-! ## Runs -/

section Runs

variable {α : Type} {p : α -> Bool} {run rest : List α}

theorem takeWhile_run (hrun : forall c, c ∈ run -> p c = true)
    (hrest : forall c, rest.head? = some c -> p c = false) : (run ++ rest).takeWhile p = run := by
  have hstop : rest.takeWhile p = [] := by
    cases rest with
    | nil => rfl
    | cons c rest => exact List.takeWhile_cons_of_neg (by simp [hrest c rfl])
  rw [List.takeWhile_append_of_pos hrun, hstop, List.append_nil]

theorem dropWhile_run (hrun : forall c, c ∈ run -> p c = true)
    (hrest : forall c, rest.head? = some c -> p c = false) : (run ++ rest).dropWhile p = rest := by
  rw [List.dropWhile_append_of_pos hrun]
  cases rest with
  | nil => rfl
  | cons c rest => exact List.dropWhile_cons_of_neg (by simp [hrest c rfl])

end Runs

/-! ## Digits -/

theorem isDigit_eq (c : Char) : isDigit c = c.isDigit := by
  unfold isDigit Char.isDigit
  rfl

theorem toNat_of_isDigit {c : Char} (h : isDigit c = true) : 48 ≤ c.toNat ∧ c.toNat ≤ 57 := by
  simp only [isDigit, Bool.and_eq_true, decide_eq_true_eq, Char.le_def, UInt32.le_iff_toNat_le] at h
  exact h

theorem not_isBlank_of_isDigit {c : Char} (h : isDigit c = true) : isBlank c = false := by
  rcases toNat_of_isDigit h with ⟨hlow, hhigh⟩
  simp only [isBlank, Bool.or_eq_false_iff, Bool.and_eq_false_iff, decide_eq_false_iff_not,
    beq_eq_false_iff_ne]
  omega

/-! ## Numbers -/

theorem digitsValue_eq (digits : List Char) :
    digitsValue digits = Nat.ofDigitChars 10 digits 0 := by
  unfold digitsValue
  rw [Nat.ofDigitChars_eq_foldl]
  rfl

theorem digitsValue_paddedDigits (width n : Nat) : digitsValue (paddedDigits width n) = n := by
  unfold paddedDigits
  rw [digitsValue_eq, Nat.ofDigitChars_append, Nat.ofDigitChars_replicate_zero, Nat.mul_zero,
    Nat.ofDigitChars_ten_toDigits]

theorem isDigit_of_mem_paddedDigits {width n : Nat} {c : Char} (h : c ∈ paddedDigits width n) :
    isDigit c = true := by
  unfold paddedDigits at h
  rcases List.mem_append.mp h with hzero | hdigit
  · rw [List.eq_of_mem_replicate hzero]
    rfl
  · rw [isDigit_eq]
    exact Nat.isDigit_of_mem_toDigits (by decide) (by decide) hdigit

/-- What is written of a number starts with a digit. -/
theorem paddedDigits_eq_cons (width n : Nat) :
    exists c digits, paddedDigits width n = c :: digits ∧ isDigit c = true := by
  have hne : paddedDigits width n ≠ [] := by
    unfold paddedDigits
    simp [Nat.toDigits_ne_nil]
  rcases List.exists_cons_of_ne_nil hne with ⟨c, digits, hdigits⟩
  have hmem : c ∈ paddedDigits width n := by
    rw [hdigits]
    exact List.mem_cons_self
  exact ⟨c, digits, hdigits, isDigit_of_mem_paddedDigits hmem⟩

theorem length_paddedDigits {width n : Nat} (hwidth : 0 < width) (hn : n < 10 ^ width) :
    (paddedDigits width n).length = width := by
  have hlength : (Nat.toDigits 10 n).length ≤ width :=
    (Nat.length_toDigits_le_iff (by decide) hwidth).mpr hn
  unfold paddedDigits
  rw [List.length_append, List.length_replicate]
  omega

theorem trimStart_paddedDigits_append (width n : Nat) (rest : List Char) :
    trimStart (paddedDigits width n ++ rest) = paddedDigits width n ++ rest := by
  rcases paddedDigits_eq_cons width n with ⟨c, digits, hdigits, hc⟩
  rw [hdigits]
  exact trimStart_cons_of_not_blank (not_isBlank_of_isDigit hc) (digits ++ rest)

theorem natural?_paddedDigits (width n : Nat) : natural? (paddedDigits width n) = some n := by
  have hne : paddedDigits width n ≠ [] := by
    rcases paddedDigits_eq_cons width n with ⟨c, digits, hdigits, _⟩
    rw [hdigits]
    exact List.cons_ne_nil c digits
  have hall : (paddedDigits width n).all isDigit = true :=
    List.all_eq_true.mpr fun _ hc => isDigit_of_mem_paddedDigits hc
  rw [natural?, if_pos ⟨hne, hall⟩, digitsValue_paddedDigits]

/-- The digits of a number without zeros in front. -/
theorem paddedDigits_zero (n : Nat) : paddedDigits 0 n = Nat.toDigits 10 n := by
  simp [paddedDigits]

theorem isDigit_of_mem_toDigits {n : Nat} {c : Char} (h : c ∈ Nat.toDigits 10 n) :
    isDigit c = true := by
  rw [← paddedDigits_zero] at h
  exact isDigit_of_mem_paddedDigits h

theorem natural?_toDigits (n : Nat) : natural? (Nat.toDigits 10 n) = some n := by
  rw [← paddedDigits_zero, natural?_paddedDigits]

end Text

end SecretProjection
