import Mathlib.Algebra.Group.Nat.Defs
import SecretProjection.Binary64

/-!
# Whole numbers

Every natural below `2 ^ 53` is a number of the format.  A quotient with such a value is rounded to
that very number, in whatever terms it is written, so that sums and products of naturals are exact
as long as they stay below the bound.
-/

namespace SecretProjection

namespace Binary64

/-- The exact value of the number is a natural. -/
def IsWhole (x : Binary64) (n : Nat) : Prop :=
  exists shift, x.toQuotient = (n * 2 ^ shift, 2 ^ shift)

/-!
# Quotients
-/

theorem log2_mul_pow {n : Nat} (h : n ≠ 0) (shift : Nat) :
    (n * 2 ^ shift).log2 = n.log2 + shift := by
  induction shift with
  | zero => simp
  | succ shift ih =>
      have hne : n * 2 ^ shift ≠ 0 := Nat.mul_ne_zero h (Nat.ne_of_gt (Nat.two_pow_pos shift))
      have hdouble : n * 2 ^ (shift + 1) = 2 * (n * 2 ^ shift) := by
        rw [Nat.pow_succ]
        ac_rfl
      rw [hdouble, Nat.log2_two_mul hne, ih]
      rfl

theorem divideEven_mul (n : Nat) {den : Nat} (h : 0 < den) : divideEven (n * den) den = n := by
  simp only [divideEven, Nat.mul_mod_left, Nat.mul_zero, h, if_true, Nat.mul_div_cancel n h]

theorem scale_neg (num den shift : Nat) :
    scale num den (-(shift : Int)) = (num * 2 ^ shift, den) := by
  cases shift with
  | zero => simp [scale]
  | succ shift =>
      have hneg : ¬ (0 : Int) ≤ -((shift + 1 : Nat) : Int) := by omega
      rw [scale, if_neg hneg, Int.neg_neg, Int.toNat_natCast]
      rfl

theorem toQuotient_neg (mantissa shift : Nat) :
    toQuotient ⟨mantissa, -(shift : Int)⟩ = (mantissa, 2 ^ shift) := by
  cases shift with
  | zero => simp [toQuotient]
  | succ shift =>
      have hneg : ¬ (0 : Int) ≤ -((shift + 1 : Nat) : Int) := by omega
      simp only [toQuotient, if_neg hneg, Int.neg_neg, Int.toNat_natCast]
      rfl

/-- A natural with fewer than 53 bits is shifted up until it has that many. -/
theorem exponentOf_mul_pow {n : Nat} (hne : n ≠ 0) (h : n < 2 ^ 53) (shift : Nat) :
    exponentOf (n * 2 ^ shift) (2 ^ shift) = -((52 - n.log2 : Nat) : Int) := by
  have hlog : n.log2 < 53 := (Nat.log2_lt hne).mpr h
  have hguess : ((n * 2 ^ shift).log2 : Int) - ((2 ^ shift).log2 : Nat) - 52 =
      -((52 - n.log2 : Nat) : Int) := by
    rw [log2_mul_pow hne, Nat.log2_two_pow]
    omega
  have hfull : 2 ^ shift * 2 ^ 52 ≤ n * 2 ^ shift * 2 ^ (52 - n.log2) := by
    have hbits : 2 ^ 52 ≤ n * 2 ^ (52 - n.log2) := by
      calc 2 ^ 52 = 2 ^ n.log2 * 2 ^ (52 - n.log2) := by
            rw [← Nat.pow_add, Nat.add_sub_cancel' (Nat.le_of_lt_succ hlog)]
        _ ≤ n * 2 ^ (52 - n.log2) := Nat.mul_le_mul_right _ (Nat.log2_self_le hne)
    calc 2 ^ shift * 2 ^ 52 ≤ 2 ^ shift * (n * 2 ^ (52 - n.log2)) :=
          Nat.mul_le_mul_left _ hbits
      _ = n * 2 ^ shift * 2 ^ (52 - n.log2) := by ac_rfl
  simp only [exponentOf, hguess, scale_neg, Nat.pow_eq, if_neg (Nat.not_lt.mpr hfull)]
  simp only [minExponent]
  omega

theorem isWhole_zero : zero.IsWhole 0 := by
  have hexponent : exists shift : Nat, minExponent = -(shift : Int) := ⟨1074, rfl⟩
  rcases hexponent with ⟨shift, hshift⟩
  refine ⟨shift, ?_⟩
  rw [zero, hshift, Nat.zero_mul, toQuotient_neg]

/-- Shifted up, a natural with fewer than 53 bits does not get more than that. -/
theorem mul_pow_lt {n : Nat} (hne : n ≠ 0) (h : n < 2 ^ 53) : n * 2 ^ (52 - n.log2) < 2 ^ 53 := by
  have hlog : n.log2 < 53 := (Nat.log2_lt hne).mpr h
  have hbits : n.log2 + 1 + (52 - n.log2) = 53 := by omega
  calc n * 2 ^ (52 - n.log2) < 2 ^ (n.log2 + 1) * 2 ^ (52 - n.log2) :=
        Nat.mul_lt_mul_of_pos_right Nat.lt_log2_self (Nat.two_pow_pos _)
    _ = 2 ^ 53 := by rw [← Nat.pow_add, hbits]

theorem ofQuotient_mul_pow {n : Nat} (hne : n ≠ 0) (h : n < 2 ^ 53) (shift : Nat) :
    ofQuotient (n * 2 ^ shift) (2 ^ shift) =
      some ⟨n * 2 ^ (52 - n.log2), -((52 - n.log2 : Nat) : Int)⟩ := by
  have hpos : n * 2 ^ shift ≠ 0 := Nat.mul_ne_zero hne (Nat.ne_of_gt (Nat.two_pow_pos shift))
  have hswap : n * 2 ^ shift * 2 ^ (52 - n.log2) = n * 2 ^ (52 - n.log2) * 2 ^ shift := by ac_rfl
  -- The division leaves no remainder, so rounding cannot carry into a further bit.
  have hsmall : n * 2 ^ (52 - n.log2) ≠ Nat.pow 2 53 := Nat.ne_of_lt (mul_pow_lt hne h)
  have hexponent : ¬ maxExponent < -((52 - n.log2 : Nat) : Int) := by
    rw [maxExponent]
    omega
  rw [ofQuotient, if_neg hpos, exponentOf_mul_pow hne h]
  dsimp only
  rw [scale_neg]
  dsimp only
  rw [hswap, divideEven_mul _ (Nat.two_pow_pos shift), if_neg hsmall, if_neg hexponent]

theorem exists_ofQuotient {n : Nat} (h : n < 2 ^ 53) (shift : Nat) :
    exists x, ofQuotient (n * 2 ^ shift) (2 ^ shift) = some x ∧ x.IsWhole n := by
  by_cases hne : n = 0
  · subst hne
    refine ⟨zero, ?_, isWhole_zero⟩
    rw [ofQuotient, if_pos (Nat.zero_mul _)]
  · exact ⟨_, ofQuotient_mul_pow hne h shift, _, toQuotient_neg _ _⟩

/-!
# Arithmetic
-/

theorem IsWhole.round_eq {x : Binary64} {n : Nat} (h : x.IsWhole n) : x.round = n := by
  rcases h with ⟨shift, hquotient⟩
  have hdouble : 2 * (n * 2 ^ shift) + 2 ^ shift = (2 * n + 1) * 2 ^ shift := by
    rw [Nat.add_mul, Nat.one_mul, Nat.mul_assoc]
  simp only [round, hquotient, divideUp]
  rw [hdouble, Nat.mul_div_mul_right _ _ (Nat.two_pow_pos shift)]
  omega

theorem IsWhole.exists_scaleBy {x : Binary64} {n m : Nat} (hx : x.IsWhole n)
    (h : n * m < 2 ^ 53) : exists y, x.scaleBy m = some y ∧ y.IsWhole (n * m) := by
  rcases hx with ⟨shift, hquotient⟩
  have hproduct : n * 2 ^ shift * m = n * m * 2 ^ shift := by ac_rfl
  simp only [scaleBy, hquotient, hproduct]
  exact exists_ofQuotient h shift

theorem exists_ofNat {n : Nat} (h : n < 2 ^ 53) :
    exists x, ofNat n = some x ∧ x.IsWhole n := by
  have hquotient := exists_ofQuotient h 0
  rwa [Nat.pow_zero, Nat.mul_one] at hquotient

/-- Sums below the bound are not rounded. -/
theorem addWhole_eq {a b : Nat} (h : a + b < 2 ^ 53) : addWhole a b = some (a + b) := by
  rcases exists_ofNat h with ⟨x, hx, hwhole⟩
  rw [addWhole, hx, Option.map_some, hwhole.round_eq]

/-!
# Decimal text
-/

theorem exists_ofDecimal {n : Nat} (h : n < 2 ^ 53) :
    exists x, ofDecimal n 0 = some x ∧ x.IsWhole n := by
  by_cases hzero : n = 0
  · refine ⟨zero, ?_, hzero ▸ isWhole_zero⟩
    rw [ofDecimal, if_pos hzero]
  · have hsize : (Nat.toDigits 10 n).length ≤ 16 :=
      (Nat.length_toDigits_le_iff (by decide) (by decide)).mpr (Nat.lt_trans h (by decide))
    have hlarge : ¬ (310 : Int) < (Nat.toDigits 10 n).length + 0 := by omega
    have hsmall : ¬ ((Nat.toDigits 10 n).length : Int) + 0 < -330 := by omega
    have hdigits : n * Nat.pow 10 (0 : Int).toNat = n := Nat.mul_one n
    simp only [ofDecimal, if_neg hzero, if_neg hlarge, if_neg hsmall, if_pos (Int.le_refl 0),
      hdigits]
    exact exists_ofNat h

end Binary64

end SecretProjection
