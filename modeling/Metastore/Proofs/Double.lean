import Mathlib
import Metastore.Double

/-!
# Doubles that are integers

A double is determined by its sign, exponent and significand, and significands are as large as they can be.
So no two doubles have the same integer as their value, the two zeros apart
(`Double.eq_or_isZero_of_toInt?`).
-/

namespace Metastore.Double

variable {x y : Double} {n : Int}

/-- The sign, the exponent and the fraction are all there is to a number. -/
lemma eq_of_fields (hsign : x.negative = y.negative) (hbiased : x.biased = y.biased)
    (hfraction : x.fraction = y.fraction) : x = y := by
  obtain ⟨⟨a⟩⟩ := x
  obtain ⟨⟨b⟩⟩ := y
  have ha := a.isLt
  have hb := b.isLt
  have hbits : a.toNat = b.toNat := by
    simp only [negative, biased, fraction, twoTo, UInt64.toNat, Nat.pow_eq] at hsign hbiased hfraction
    rw [Bool.eq_iff_iff, beq_iff_eq, beq_iff_eq] at hsign
    norm_num only at hsign hbiased hfraction ha hb
    omega
  rw [BitVec.eq_of_toNat_eq hbits]

lemma fraction_lt (x : Double) : x.fraction < 2 ^ 52 := Nat.mod_lt _ (by decide)

lemma mantissa_lt (x : Double) : x.mantissa < 2 ^ 53 := by
  have hfraction := x.fraction_lt
  simp only [mantissa, twoTo, Nat.pow_eq]
  split <;> omega

/-- The significand of a number with a larger exponent than the least one fills its bits. -/
lemma le_mantissa (h : x.biased ≠ 0) : 2 ^ 52 ≤ x.mantissa := by
  simp only [mantissa, if_neg h, twoTo, Nat.pow_eq]
  omega

/-- The exponent over the least one, which counts as one. -/
def scale (x : Double) : Nat := max x.biased 1

/-- The scale of a number whose significand is its value. -/
def unitScale : Nat := 1075

/-- A number that is an integer has the magnitude and the sign of the integer. -/
lemma toInt?_eq_some (h : x.toInt? = some n) :
    n.natAbs * x.ratio.2 = x.ratio.1 ∧ (n ≠ 0 → x.negative = decide (n < 0)) := by
  have hcases : (if x.isFinite then
      if x.ratio.1 % x.ratio.2 = 0 then
        some (if x.negative then -((x.ratio.1 / x.ratio.2 : Nat) : Int) else (x.ratio.1 / x.ratio.2 : Nat))
      else none
    else none) = some n := h
  split_ifs at hcases with hfinite hwhole hnegative
  · have hmagnitude := Nat.div_mul_cancel (Nat.dvd_of_mod_eq_zero hwhole)
    generalize x.ratio.1 / x.ratio.2 = quotient at hcases hmagnitude
    obtain rfl := Option.some.inj hcases
    refine ⟨by rwa [Int.natAbs_neg, Int.natAbs_natCast], fun hne => ?_⟩
    rw [hnegative, eq_comm, decide_eq_true_eq]
    omega
  · have hmagnitude := Nat.div_mul_cancel (Nat.dvd_of_mod_eq_zero hwhole)
    generalize x.ratio.1 / x.ratio.2 = quotient at hcases hmagnitude
    obtain rfl := Option.some.inj hcases
    refine ⟨by rwa [Int.natAbs_natCast], fun hne => ?_⟩
    rw [Bool.eq_false_iff.mpr hnegative, eq_comm, decide_eq_false_iff_not]
    omega

/-- An integer over the least power of two is the significand over the exponent. -/
lemma natAbs_mul_of_toInt? (h : x.toInt? = some n) :
    n.natAbs * 2 ^ unitScale = x.mantissa * 2 ^ x.scale := by
  have hratio := (toInt?_eq_some h).1
  simp only [ratio, twoTo, Nat.pow_eq] at hratio
  have hexponents : (-x.exponent).toNat + x.scale = unitScale + x.exponent.toNat := by
    simp only [exponent, scale, unitScale]
    omega
  -- one of the two exponents in the quotient is zero, and multiplying by the other one removes it
  apply Nat.eq_of_mul_eq_mul_right (Nat.two_pow_pos x.exponent.toNat)
  calc n.natAbs * 2 ^ unitScale * 2 ^ x.exponent.toNat
      = n.natAbs * 2 ^ (-x.exponent).toNat * 2 ^ x.scale := by
        rw [mul_assoc, ← pow_add, ← hexponents, pow_add, ← mul_assoc]
    _ = x.mantissa * 2 ^ x.scale * 2 ^ x.exponent.toNat := by rw [hratio, mul_right_comm]

/-- The larger of two exponents belongs to a significand that fills its bits, so that the other one would
have to be too large. -/
lemma scale_le_of_eq (h : x.mantissa * 2 ^ x.scale = y.mantissa * 2 ^ y.scale) : y.scale ≤ x.scale := by
  by_contra hlt
  rw [not_le] at hlt
  obtain ⟨d, hd⟩ := Nat.exists_eq_add_of_lt hlt
  have hbiased : y.biased ≠ 0 := by
    intro hzero
    simp only [scale, hzero] at hlt
    omega
  have hfull := le_mantissa hbiased
  have hbound := x.mantissa_lt
  have hmantissa : x.mantissa = y.mantissa * 2 ^ (d + 1) := by
    apply Nat.eq_of_mul_eq_mul_right (Nat.two_pow_pos x.scale)
    rw [h, hd, mul_assoc, ← pow_add]
    congr 2
    omega
  have hmore : y.mantissa * 2 ≤ x.mantissa := by
    rw [hmantissa, pow_succ, ← mul_assoc]
    exact Nat.mul_le_mul_right 2 (Nat.le_mul_of_pos_right _ (Nat.two_pow_pos d))
  omega

/-- The sign, the scale and the significand are all there is to a number. -/
lemma eq_of_mantissa (hsign : x.negative = y.negative) (hscale : x.scale = y.scale)
    (hmantissa : x.mantissa = y.mantissa) : x = y := by
  have hx := x.fraction_lt
  have hy := y.fraction_lt
  simp only [scale, mantissa, twoTo, Nat.pow_eq] at hscale hmantissa
  have hbiased : x.biased = y.biased := by
    split_ifs at hmantissa <;> omega
  rw [hbiased] at hmantissa
  apply eq_of_fields hsign hbiased
  split_ifs at hmantissa <;> omega

/-! ### Zero -/

lemma isZero_iff : x.isZero = true ↔ x.isFinite = true ∧ x.mantissa = 0 := by
  rw [isZero, Bool.and_eq_true, beq_iff_eq]

lemma isFinite_of_toInt? (h : x.toInt? = some n) : x.isFinite = true := by
  rw [toInt?] at h
  split at h
  · assumption
  · cases h

lemma isZero_of_toInt? (h : x.toInt? = some 0) : x.isZero = true := by
  have hproduct := natAbs_mul_of_toInt? h
  rw [Int.natAbs_zero, Nat.zero_mul (2 ^ unitScale)] at hproduct
  have hmantissa := (Nat.mul_eq_zero.mp hproduct.symm).resolve_right (Nat.two_pow_pos x.scale).ne'
  exact isZero_iff.mpr ⟨isFinite_of_toInt? h, hmantissa⟩

lemma toInt?_of_isZero (h : x.isZero = true) : x.toInt? = some 0 := by
  obtain ⟨hfinite, hmantissa⟩ := isZero_iff.mp h
  simp only [toInt?, ratio, hfinite, hmantissa, Nat.zero_mul, Nat.zero_mod, Nat.zero_div, if_true]
  cases x.negative <;> rfl

/-! ### Integers -/

/-- Two numbers that are the same integer are the same number, or both are zero. -/
lemma eq_or_isZero_of_toInt? (hx : x.toInt? = some n) (hy : y.toInt? = some n) :
    x = y ∨ x.isZero = true ∧ y.isZero = true := by
  by_cases hn : n = 0
  · subst hn
    exact .inr ⟨isZero_of_toInt? hx, isZero_of_toInt? hy⟩
  · have heq := (natAbs_mul_of_toInt? hx).symm.trans (natAbs_mul_of_toInt? hy)
    have hscale : x.scale = y.scale := le_antisymm (scale_le_of_eq heq.symm) (scale_le_of_eq heq)
    rw [hscale] at heq
    have hmantissa := Nat.eq_of_mul_eq_mul_right (Nat.two_pow_pos y.scale) heq
    have hsign := ((toInt?_eq_some hx).2 hn).trans ((toInt?_eq_some hy).2 hn).symm
    exact .inl (eq_of_mantissa hsign hscale hmantissa)

end Metastore.Double
