import KernelSweep.Number.Binary64
import Mathlib.Algebra.Order.Field.Power
import Mathlib.Data.Int.Log
import Mathlib.Data.Nat.Log
import Mathlib.Data.Rat.Cast.Order
import Mathlib.Data.Rat.Floor
import Mathlib.Tactic.FieldSimp
import Mathlib.Tactic.NormNum
import Mathlib.Tactic.Positivity

set_option autoImplicit false

namespace KernelSweep.Number.Binary64

section Nearest

variable {num den k : Nat}

theorem roundHalfEven_mul_right (num den : Nat) (positive : 0 < k) :
    roundHalfEven (num * k) (den * k) = roundHalfEven num den := by
  have above : den * k < 2 * (num % den * k) ↔ den < 2 * (num % den) := by
    rw [← Nat.mul_assoc, Nat.mul_lt_mul_right positive]
  have tie : 2 * (num % den * k) = den * k ↔ 2 * (num % den) = den := by
    rw [← Nat.mul_assoc, Nat.mul_left_inj (Nat.ne_of_gt positive)]
  simp only [roundHalfEven, Nat.mul_div_mul_right _ _ positive, Nat.mul_mod_mul_right, above, tie]

theorem roundHalfEven_mul_self (n : Nat) (positive : 0 < den) :
    roundHalfEven (n * den) den = n := by
  have below : ¬ (den < 2 * 0 ∨ 2 * 0 = den ∧ n % 2 = 1) := by omega
  simp only [roundHalfEven, Nat.mul_div_cancel _ positive, Nat.mul_mod_left, below, ↓reduceIte]

theorem roundHalfEven_of_small (small : 2 * num < den) : roundHalfEven num den = 0 := by
  have below : ¬ (den < 2 * num ∨ 2 * num = den ∧ 0 % 2 = 1) := by omega
  simp only [roundHalfEven, Nat.div_eq_of_lt (by omega : num < den),
    Nat.mod_eq_of_lt (by omega : num < den), below, ↓reduceIte]

theorem div_le_roundHalfEven (num den : Nat) : num / den ≤ roundHalfEven num den := by
  simp only [roundHalfEven]
  split <;> omega

end Nearest

section Scale

variable {num den : Nat}

theorem scale_den_pos (positive : 0 < den) (shift : Int) : 0 < (scale num den shift).2 := by
  unfold scale
  split
  · exact positive
  · exact Nat.mul_pos positive (Nat.two_pow_pos _)

theorem scale_natCast (num den k : Nat) : scale num den (k : Int) = (num * 2 ^ k, den) := by
  rw [scale, if_pos (Int.natCast_nonneg k), Int.toNat_natCast]
  rfl

/-- Scaling multiplies the quotient by a power of two. -/
theorem scale_div (num den : Nat) (shift : Int) :
    ((scale num den shift).1 : ℚ) / (scale num den shift).2 = (num : ℚ) / den * 2 ^ shift := by
  by_cases nonneg : 0 ≤ shift
  · obtain ⟨k, rfl⟩ := Int.eq_ofNat_of_zero_le nonneg
    rw [scale_natCast, Nat.cast_mul, Nat.cast_pow, Nat.cast_ofNat, zpow_natCast, mul_div_right_comm]
  · obtain ⟨k, rfl⟩ : ∃ k : Nat, shift = -(k : Int) := ⟨shift.natAbs, by omega⟩
    rw [scale, if_neg nonneg, Int.neg_neg, Int.toNat_natCast]
    show (num : ℚ) / ((den * 2 ^ k : Nat) : ℚ) = _
    rw [Nat.cast_mul, Nat.cast_pow, Nat.cast_ofNat, zpow_neg, zpow_natCast, div_mul_eq_div_div,
      div_eq_mul_inv (_ / _)]

theorem scale_mul_right (num den : Nat) (shift : Int) (k : Nat) :
    scale (num * k) (den * k) shift =
      ((scale num den shift).1 * k, (scale num den shift).2 * k) := by
  unfold scale
  split <;> simp only [Nat.mul_right_comm]

end Scale

section Exponent

variable {num den : Nat}

/-- The quotient of two positive numbers lies within a factor of two of the quotient of the powers
of two below them. -/
theorem div_between (nonzero : num ≠ 0) (positive : den ≠ 0) :
    (2 : ℚ) ^ ((num.log2 : Int) - den.log2 - 1) ≤ (num : ℚ) / den ∧
      (num : ℚ) / den < 2 ^ ((num.log2 : Int) - den.log2 + 1) := by
  have numLow : (2 : ℚ) ^ num.log2 ≤ num := by exact_mod_cast Nat.log2_self_le nonzero
  have numHigh : (num : ℚ) < 2 ^ (num.log2 + 1) := by exact_mod_cast Nat.lt_log2_self
  have denLow : (2 : ℚ) ^ den.log2 ≤ den := by exact_mod_cast Nat.log2_self_le positive
  have denHigh : (den : ℚ) < 2 ^ (den.log2 + 1) := by exact_mod_cast Nat.lt_log2_self
  have den_pos : (0 : ℚ) < den := by positivity
  constructor
  · rw [le_div_iff₀ den_pos]
    calc (2 : ℚ) ^ ((num.log2 : Int) - den.log2 - 1) * den
        ≤ 2 ^ ((num.log2 : Int) - den.log2 - 1) * 2 ^ (den.log2 + 1) := by
          gcongr
      _ = 2 ^ num.log2 := by
          rw [← zpow_natCast, ← zpow_natCast, ← zpow_add₀ two_ne_zero]
          congr 1
          push_cast
          omega
      _ ≤ num := numLow
  · rw [div_lt_iff₀ den_pos]
    calc (num : ℚ) < 2 ^ (num.log2 + 1) := numHigh
      _ = 2 ^ ((num.log2 : Int) - den.log2 + 1) * 2 ^ den.log2 := by
          rw [← zpow_natCast, ← zpow_natCast, ← zpow_add₀ two_ne_zero]
          congr 1
          push_cast
          omega
      _ ≤ 2 ^ ((num.log2 : Int) - den.log2 + 1) * den := by
          gcongr

theorem le_log_iff {q : ℚ} (positive : 0 < q) {e : Int} : e ≤ Int.log 2 q ↔ (2 : ℚ) ^ e ≤ q :=
  (Int.zpow_le_iff_le_log one_lt_two positive).symm

theorem log_lt_iff {q : ℚ} (positive : 0 < q) {e : Int} : Int.log 2 q < e ↔ q < (2 : ℚ) ^ e :=
  (Int.lt_zpow_iff_log_lt one_lt_two positive).symm

/-- The exponent is the one that leaves 53 bits before the point, as long as there is room for
it. -/
theorem exponentOf_eq (nonzero : num ≠ 0) (positive : den ≠ 0) :
    exponentOf num den = max (Int.log 2 ((num : ℚ) / den) - 52) (-1074) := by
  have value : (0 : ℚ) < (num : ℚ) / den := by positivity
  obtain ⟨low, high⟩ := div_between nonzero positive
  rw [← le_log_iff value] at low
  rw [← log_lt_iff value] at high
  have scaled := scale_div num den (-((num.log2 : Int) - den.log2))
  have den_pos : (0 : ℚ) < ((scale num den (-((num.log2 : Int) - den.log2))).2 : ℚ) := by
    exact_mod_cast scale_den_pos (Nat.pos_of_ne_zero positive) _
  -- The comparison asks whether the quotient reaches the power of two that was guessed.
  have reached : (scale num den (-((num.log2 : Int) - den.log2))).2 ≤
      (scale num den (-((num.log2 : Int) - den.log2))).1 ↔
      (num.log2 : Int) - den.log2 ≤ Int.log 2 ((num : ℚ) / den) := by
    rw [le_log_iff value, ← Nat.cast_le (α := ℚ), ← one_le_div den_pos, scaled, zpow_neg,
      ← div_eq_mul_inv, one_le_div (by positivity)]
  unfold exponentOf
  simp only [reached]
  split <;> omega

/-- The pair that stands for a quotient does not matter. -/
theorem magnitudeOf_mul_right (num : Nat) (positive : 0 < den) {k : Nat} (factor : 0 < k) :
    magnitudeOf (num * k) (den * k) = magnitudeOf num den := by
  by_cases zero : num = 0
  · simp only [magnitudeOf, zero, Nat.zero_mul, ↓reduceIte]
  · have same : exponentOf (num * k) (den * k) = exponentOf num den := by
      rw [exponentOf_eq (Nat.mul_ne_zero zero (by omega)) (Nat.mul_ne_zero (by omega) (by omega)),
        exponentOf_eq zero (by omega), Nat.cast_mul, Nat.cast_mul,
        mul_div_mul_right _ _ (by positivity)]
    have nonzero : num * k ≠ 0 := Nat.mul_ne_zero zero (by omega)
    simp only [magnitudeOf, zero, nonzero, same, scale_mul_right,
      roundHalfEven_mul_right _ _ factor, ↓reduceIte]

theorem ofRatio_of_cross {num den num' den' : Nat} (positive : 0 < den) (positive' : 0 < den')
    (same : num * den' = num' * den) (negative : Bool) :
    ofRatio negative num den = ofRatio negative num' den' := by
  unfold ofRatio
  rw [← magnitudeOf_mul_right num positive positive', same, Nat.mul_comm den,
    magnitudeOf_mul_right num' positive' positive]

end Exponent

section Exact

variable (x : Binary64)

theorem fraction_lt : x.fraction < fractionSize := Nat.mod_lt _ (by decide)

theorem mantissa_lt : x.mantissa < 2 * fractionSize := by
  have small := x.fraction_lt
  unfold mantissa
  split <;> omega

/-- The leading bit is there, or the exponent is the smallest one. -/
theorem mantissa_cases : fractionSize ≤ x.mantissa ∨ x.exponent = -1074 := by
  unfold mantissa exponent
  split
  · exact .inr rfl
  · exact .inl (Nat.le_add_right _ _)

theorem exponent_ge : -1074 ≤ x.exponent := by
  unfold exponent
  split <;> omega

theorem ratio_den_pos : 0 < x.ratio.2 := by
  unfold ratio
  split
  · exact Nat.one_pos
  · exact Nat.two_pow_pos _

theorem ratio_num_eq_zero_iff : x.ratio.1 = 0 ↔ x.mantissa = 0 := by
  unfold ratio
  split
  · exact Nat.mul_eq_zero.trans (or_iff_left (Nat.two_pow_pos _).ne')
  · rfl

/-- Taking the exponent away again leaves the mantissa. -/
theorem scale_ratio :
    ∃ d, 0 < d ∧ scale x.ratio.1 x.ratio.2 (-x.exponent) = (x.mantissa * d, d) := by
  unfold ratio scale
  by_cases nonneg : 0 ≤ x.exponent
  · rw [if_pos nonneg]
    by_cases zero : x.exponent = 0
    · refine ⟨1, Nat.one_pos, ?_⟩
      simp [zero]
    · refine ⟨2 ^ x.exponent.toNat, Nat.two_pow_pos _, ?_⟩
      rw [if_neg (by omega), Int.neg_neg, Nat.one_mul]
      rfl
  · refine ⟨2 ^ (-x.exponent).toNat, Nat.two_pow_pos _, ?_⟩
    rw [if_neg nonneg, if_pos (by omega)]
    rfl

theorem ratio_div : (x.ratio.1 : ℚ) / x.ratio.2 = x.mantissa * 2 ^ x.exponent := by
  obtain ⟨d, positive, scaled⟩ := x.scale_ratio
  have value := scale_div x.ratio.1 x.ratio.2 (-x.exponent)
  have den : (0 : ℚ) < d := by exact_mod_cast positive
  rw [scaled, Nat.cast_mul, mul_div_cancel_right₀ _ den.ne', zpow_neg, ← div_eq_mul_inv,
    eq_div_iff (by positivity)] at value
  exact value.symm

variable {x}

theorem exponentOf_ratio (nonzero : x.mantissa ≠ 0) :
    exponentOf x.ratio.1 x.ratio.2 = x.exponent := by
  have value : (0 : ℚ) < x.mantissa * 2 ^ x.exponent := by positivity
  have least := x.exponent_ge
  have small : (x.mantissa : ℚ) < 2 ^ (53 : Int) := by
    have bound := x.mantissa_lt
    rw [show 2 * fractionSize = 2 ^ 53 from rfl] at bound
    exact_mod_cast bound
  have high : Int.log 2 ((x.mantissa : ℚ) * 2 ^ x.exponent) < 53 + x.exponent := by
    rw [log_lt_iff value, zpow_add₀ two_ne_zero]
    gcongr
  rw [exponentOf_eq (mt x.ratio_num_eq_zero_iff.mp nonzero) x.ratio_den_pos.ne', x.ratio_div]
  rcases x.mantissa_cases with normal | smallest
  · have large : (2 : ℚ) ^ (52 : Int) ≤ x.mantissa := by
      rw [show fractionSize = 2 ^ 52 from rfl] at normal
      exact_mod_cast normal
    have low : 52 + x.exponent ≤ Int.log 2 ((x.mantissa : ℚ) * 2 ^ x.exponent) := by
      rw [le_log_iff value, zpow_add₀ two_ne_zero]
      gcongr
    omega
  · omega

/-- The bits of a finite number, its sign aside, are those of its absolute value. -/
theorem magnitudeOf_ratio (finite : x.isFinite = true) :
    magnitudeOf x.ratio.1 x.ratio.2 = x.exponentField * fractionSize + x.fraction := by
  have field : x.exponentField < 2047 := by
    have small : x.exponentField < 2048 := Nat.mod_lt _ (by decide)
    have other : x.exponentField ≠ 2047 := by simpa [isFinite] using finite
    omega
  have small := x.fraction_lt
  have parts : (x.exponent + 1074).toNat * fractionSize + x.mantissa =
      x.exponentField * fractionSize + x.fraction := by
    unfold exponent mantissa
    split
    · rename_i zero
      simp [zero]
    · rename_i nonzero
      have place : ((x.exponentField : Int) - 1075 + 1074).toNat + 1 = x.exponentField := by omega
      rw [← Nat.add_assoc, ← Nat.succ_mul, Nat.succ_eq_add_one, place]
  by_cases zero : x.mantissa = 0
  · rw [magnitudeOf, if_pos (x.ratio_num_eq_zero_iff.mpr zero), ← parts, zero]
    have smallest := x.mantissa_cases.resolve_left (by rw [zero]; decide)
    rw [smallest]
    rfl
  · obtain ⟨d, positive, scaled⟩ := x.scale_ratio
    simp only [magnitudeOf, mt x.ratio_num_eq_zero_iff.mp zero, ↓reduceIte, exponentOf_ratio zero,
      scaled, roundHalfEven_mul_self _ positive, parts]
    apply Nat.min_eq_left
    unfold infinityBits
    unfold fractionSize at small ⊢
    omega

theorem ofMagnitude_bits :
    ofMagnitude x.isNegative (x.exponentField * fractionSize + x.fraction) = x := by
  have size := x.bits.toNat_lt
  have bits : (if x.isNegative then signWeight else 0) +
      (x.exponentField * fractionSize + x.fraction) = x.bits.toNat := by
    unfold isNegative exponentField fraction signWeight fractionSize
    simp only [beq_iff_eq]
    split <;> omega
  rw [ofMagnitude, bits, UInt64.ofNat_toNat]

theorem ofRatio_ratio (finite : x.isFinite = true) :
    ofRatio x.isNegative x.ratio.1 x.ratio.2 = x := by
  rw [ofRatio, magnitudeOf_ratio finite, ofMagnitude_bits]

end Exact

section Range

variable {num den : Nat}

/-- Half the smallest number and less is rounded to zero. -/
theorem magnitudeOf_of_small (small : 2 * (num * 2 ^ 1074) < den) : magnitudeOf num den = 0 := by
  by_cases zero : num = 0
  · simp only [magnitudeOf, zero, ↓reduceIte]
  · have positive : den ≠ 0 := by omega
    have value : (0 : ℚ) < (num : ℚ) / den := by positivity
    have low : Int.log 2 ((num : ℚ) / den) < -1074 := by
      have cast : (num : ℚ) * 2 ^ 1074 < den := by exact_mod_cast (by omega : num * 2 ^ 1074 < den)
      rw [log_lt_iff value, zpow_neg, div_lt_iff₀ (by positivity), inv_mul_eq_div,
        lt_div_iff₀ (by positivity)]
      exact_mod_cast cast
    have exponent : exponentOf num den = -1074 := by
      rw [exponentOf_eq zero positive]
      omega
    have scaled : scale num den (-(-1074)) = (num * 2 ^ 1074, den) := scale_natCast num den 1074
    simp only [magnitudeOf, zero, exponent, scaled, roundHalfEven_of_small small, ↓reduceIte]
    rfl

/-- From the power of two past the largest number on, the answer is infinite. -/
theorem magnitudeOf_of_large (positive : 0 < den) (large : den * 2 ^ 1024 ≤ num) :
    magnitudeOf num den = infinityBits := by
  have nonzero : num ≠ 0 := by
    have := Nat.mul_pos positive (Nat.two_pow_pos 1024)
    omega
  have value : (0 : ℚ) < (num : ℚ) / den := by positivity
  have high : 1024 ≤ Int.log 2 ((num : ℚ) / den) := by
    have cast : (den : ℚ) * 2 ^ 1024 ≤ num := by exact_mod_cast large
    rw [le_log_iff value, le_div_iff₀ (by positivity), mul_comm]
    exact_mod_cast cast
  have exponent : exponentOf num den = Int.log 2 ((num : ℚ) / den) - 52 := by
    rw [exponentOf_eq nonzero positive.ne']
    omega
  have den_pos : 0 < (scale num den (-exponentOf num den)).2 := scale_den_pos positive _
  have bits : 2 ^ 52 ≤ roundHalfEven (scale num den (-exponentOf num den)).1
      (scale num den (-exponentOf num den)).2 := by
    apply le_trans _ (div_le_roundHalfEven _ _)
    have reached : (2 : ℚ) ^ Int.log 2 ((num : ℚ) / den) ≤ (num : ℚ) / den :=
      (le_log_iff value).mp le_rfl
    have cast : (0 : ℚ) < ((scale num den (-exponentOf num den)).2 : ℚ) := by
      exact_mod_cast den_pos
    rw [Nat.le_div_iff_mul_le den_pos, ← Nat.cast_le (α := ℚ), Nat.cast_mul,
      ← le_div_iff₀ cast, scale_div, exponent]
    calc ((2 ^ 52 : Nat) : ℚ) =
        2 ^ Int.log 2 ((num : ℚ) / den) * 2 ^ (-(Int.log 2 ((num : ℚ) / den) - 52)) := by
          rw [← zpow_add₀ two_ne_zero, show Int.log 2 ((num : ℚ) / den) +
            -(Int.log 2 ((num : ℚ) / den) - 52) = ((52 : Nat) : Int) by push_cast; ring,
            zpow_natCast]
          norm_num
      _ ≤ (num : ℚ) / den * 2 ^ (-(Int.log 2 ((num : ℚ) / den) - 52)) := by
          gcongr
  have place : 2046 ≤ (exponentOf num den + 1074).toNat := by omega
  have weight := Nat.mul_le_mul_right fractionSize place
  simp only [magnitudeOf, nonzero, ↓reduceIte]
  apply Nat.min_eq_right
  unfold infinityBits
  unfold fractionSize at weight ⊢
  omega

/-- What is rounded to a finite number other than zero is neither too small nor too large. -/
theorem moderate_of_ofRatio (positive : 0 < den) {negative : Bool}
    (finite : (ofRatio negative num den).isFinite = true)
    (other : (ofRatio negative num den).isZero = false) :
    den ≤ 2 * (num * 2 ^ 1074) ∧ num < den * 2 ^ 1024 := by
  constructor
  · by_contra small
    rw [ofRatio, magnitudeOf_of_small (by omega)] at other
    cases negative <;> exact absurd other (by decide)
  · by_contra large
    rw [ofRatio, magnitudeOf_of_large positive (by omega)] at finite
    cases negative <;> exact absurd finite (by decide)

end Range

end KernelSweep.Number.Binary64
