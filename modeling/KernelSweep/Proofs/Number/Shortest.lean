import KernelSweep.Number.Shortest
import KernelSweep.Proofs.Number.Rounding

set_option autoImplicit false

namespace KernelSweep.Number

section Digits

variable {n : Nat}

theorem digitCount_pos (n : Nat) : 1 ≤ digitCount n := Nat.length_toDigits_pos

theorem digitCount_le_iff {k : Nat} (positive : 0 < k) : digitCount n ≤ k ↔ n < 10 ^ k :=
  Nat.length_toDigits_le_iff (by decide) positive

theorem lt_pow_digitCount (n : Nat) : n < 10 ^ digitCount n :=
  (digitCount_le_iff (digitCount_pos n)).mp le_rfl

theorem pow_digitCount_le (nonzero : n ≠ 0) : 10 ^ (digitCount n - 1) ≤ n := by
  by_contra small
  rcases Nat.eq_or_lt_of_le (digitCount_pos n) with one | more
  · rw [← one] at small
    simp at small
    omega
  · have fewer := (digitCount_le_iff (by omega)).mpr (Nat.lt_of_not_le small)
    omega

end Digits

namespace Decimal

/-- The number a decimal stands for. -/
def toRat (d : Decimal) : ℚ := d.digits * 10 ^ d.exponent

theorem ratio_den_pos (d : Decimal) : 0 < d.ratio.2 := by
  unfold ratio
  split
  · exact Nat.one_pos
  · exact Nat.pow_pos (by decide)

theorem ratio_div (d : Decimal) : (d.ratio.1 : ℚ) / d.ratio.2 = d.toRat := by
  obtain ⟨digits, exponent⟩ := d
  unfold ratio toRat
  by_cases nonneg : 0 ≤ exponent
  · obtain ⟨k, rfl⟩ := Int.eq_ofNat_of_zero_le nonneg
    rw [if_pos nonneg, Int.toNat_natCast, zpow_natCast]
    show ((digits * 10 ^ k : Nat) : ℚ) / (1 : Nat) = _
    rw [Nat.cast_one, div_one, Nat.cast_mul, Nat.cast_pow, Nat.cast_ofNat]
  · obtain ⟨k, rfl⟩ : ∃ k : Nat, exponent = -(k : Int) := ⟨exponent.natAbs, by omega⟩
    rw [if_neg nonneg, Int.neg_neg, Int.toNat_natCast, zpow_neg, zpow_natCast]
    show (digits : ℚ) / ((10 ^ k : Nat) : ℚ) = _
    rw [Nat.cast_pow, Nat.cast_ofNat, div_eq_mul_inv]

/-- Decimals of one value are read as one number. -/
theorem ofRatio_of_toRat {d : Decimal} {num den : Nat} (positive : 0 < den)
    (same : d.toRat = (num : ℚ) / den) (negative : Bool) :
    d.toBinary64 negative = Binary64.ofRatio negative num den := by
  have den_pos : (d.ratio.2 : ℚ) ≠ 0 := by exact_mod_cast d.ratio_den_pos.ne'
  have den_pos' : (den : ℚ) ≠ 0 := by exact_mod_cast positive.ne'
  rw [← ratio_div, div_eq_div_iff den_pos den_pos'] at same
  exact Binary64.ofRatio_of_cross d.ratio_den_pos positive (by exact_mod_cast same) negative

theorem toBinary64_of_toRat {d other : Decimal} (same : d.toRat = other.toRat) (negative : Bool) :
    d.toBinary64 negative = other.toBinary64 negative :=
  ofRatio_of_toRat other.ratio_den_pos (same.trans other.ratio_div.symm) negative

theorem toRat_strip (fuel : Nat) (d : Decimal) : (strip fuel d).toRat = d.toRat := by
  induction fuel generalizing d with
  | zero => rfl
  | succ fuel ih =>
    unfold strip
    split
    · rename_i ends
      obtain ⟨tens, whole⟩ := Nat.dvd_of_mod_eq_zero ends.2
      rw [ih]
      unfold toRat
      rw [whole, Nat.mul_div_cancel_left _ (by decide), Nat.cast_mul, zpow_add_one₀ (by norm_num)]
      push_cast
      ring
    · rfl

theorem exponent_le_strip (fuel : Nat) (d : Decimal) : d.exponent ≤ (strip fuel d).exponent := by
  induction fuel generalizing d with
  | zero => exact le_rfl
  | succ fuel ih =>
    unfold strip
    split
    · have later := ih ⟨d.digits / 10, d.exponent + 1⟩
      simp only at later
      omega
    · exact le_rfl

section Size

variable {d : Decimal} {negative : Bool} (finite : (d.toBinary64 negative).isFinite = true)
  (other : (d.toBinary64 negative).isZero = false)

-- The bounds below are for any exponent that is large enough: the powers themselves are too large
-- to be worked out.
theorem two_pow_le_ten_pow {m k : Nat} (enough : m ≤ 2 * k) : (2 : ℚ) ^ m ≤ 10 ^ k :=
  calc (2 : ℚ) ^ m ≤ 2 ^ (2 * k) := pow_le_pow_right₀ one_le_two enough
    _ = 4 ^ k := by rw [pow_mul]; norm_num
    _ ≤ 10 ^ k := pow_le_pow_left₀ (by norm_num) (by norm_num) k

include finite other

theorem toRat_lt : d.toRat < 2 ^ 1024 := by
  have moderate := (Binary64.moderate_of_ofRatio d.ratio_den_pos finite other).2
  have den : (0 : ℚ) < d.ratio.2 := by exact_mod_cast d.ratio_den_pos
  rw [← ratio_div, div_lt_iff₀ den, mul_comm]
  exact_mod_cast moderate

theorem le_toRat : 1 ≤ 2 * (d.toRat * 2 ^ 1074) := by
  have moderate := (Binary64.moderate_of_ofRatio d.ratio_den_pos finite other).1
  have den : (0 : ℚ) < d.ratio.2 := by exact_mod_cast d.ratio_den_pos
  rw [← ratio_div, div_mul_eq_mul_div, ← mul_div_assoc, one_le_div den]
  exact_mod_cast moderate

theorem digits_ne_zero : d.digits ≠ 0 := by
  intro zero
  have least := le_toRat finite other
  rw [toRat, zero, Nat.cast_zero, zero_mul, zero_mul, mul_zero] at least
  exact absurd least (by norm_num)

/-- The decimal point is not far to the left of the digits. -/
theorem lt_point {k : Nat} (enough : 1074 ≤ 2 * k) :
    -((k : Int) + 1) < d.exponent + digitCount d.digits := by
  have value : 0 ≤ d.toRat := by unfold toRat; positivity
  have small : d.toRat < (10 : ℚ) ^ (d.exponent + digitCount d.digits) := by
    rw [toRat, zpow_add₀ (by norm_num), mul_comm, zpow_natCast]
    gcongr
    exact_mod_cast lt_pow_digitCount d.digits
  have large : 1 ≤ d.toRat * 10 ^ ((k : Int) + 1) :=
    calc 1 ≤ 2 * (d.toRat * 2 ^ 1074) := le_toRat finite other
      _ ≤ 10 * (d.toRat * 10 ^ k) := by
        gcongr
        · norm_num
        · exact two_pow_le_ten_pow enough
      _ = d.toRat * 10 ^ ((k : Int) + 1) := by
        rw [zpow_add_one₀ (by norm_num), zpow_natCast]
        ring
  have reached : (10 : ℚ) ^ (-((k : Int) + 1)) < 10 ^ (d.exponent + digitCount d.digits) := by
    refine lt_of_le_of_lt ?_ small
    rw [zpow_neg]
    exact (inv_le_iff_one_le_mul₀ (by positivity)).mpr large
  exact (zpow_lt_zpow_iff_right₀ (by norm_num)).mp reached

/-- Nor is it far to the right. -/
theorem point_le {k : Nat} (enough : 1024 ≤ 2 * k) :
    d.exponent + digitCount d.digits ≤ k := by
  have count := digitCount_pos d.digits
  have digits : (10 : ℚ) ^ (digitCount d.digits - 1) ≤ d.digits := by
    exact_mod_cast pow_digitCount_le (digits_ne_zero finite other)
  have reached : (10 : ℚ) ^ (d.exponent + digitCount d.digits - 1) < 10 ^ (k : Int) :=
    calc (10 : ℚ) ^ (d.exponent + digitCount d.digits - 1)
        = 10 ^ (digitCount d.digits - 1) * 10 ^ d.exponent := by
          rw [← zpow_natCast, ← zpow_add₀ (by norm_num)]
          congr 1
          omega
      _ ≤ d.toRat := by
          unfold toRat
          gcongr
      _ < 2 ^ 1024 := toRat_lt finite other
      _ ≤ 10 ^ (k : Int) := by
          rw [zpow_natCast]
          exact two_pow_le_ten_pow enough
  have below := (zpow_lt_zpow_iff_right₀ (by norm_num)).mp reached
  omega

theorem natAbs_point_le : (d.exponent + digitCount d.digits).natAbs ≤ 537 := by
  have low := lt_point finite other (show 1074 ≤ 2 * 537 by decide)
  have high := point_le finite other (show 1024 ≤ 2 * 512 by decide)
  omega

end Size

end Decimal

section Choice

variable {x : Binary64}

theorem toRat_exactDecimal (x : Binary64) :
    (exactDecimal x).toRat = (x.ratio.1 : ℚ) / x.ratio.2 := by
  rw [x.ratio_div]
  unfold exactDecimal Decimal.toRat
  by_cases nonneg : 0 ≤ x.exponent
  · obtain ⟨k, place⟩ := Int.eq_ofNat_of_zero_le nonneg
    rw [if_pos nonneg, place, Int.toNat_natCast, zpow_natCast]
    show ((x.mantissa * 2 ^ k : Nat) : ℚ) * 10 ^ (0 : Int) = _
    rw [zpow_zero, mul_one, Nat.cast_mul, Nat.cast_pow, Nat.cast_ofNat]
  · obtain ⟨k, place⟩ : ∃ k : Nat, x.exponent = -(k : Int) := ⟨x.exponent.natAbs, by omega⟩
    rw [if_neg nonneg, place, Int.neg_neg, Int.toNat_natCast]
    show ((x.mantissa * 5 ^ k : Nat) : ℚ) * 10 ^ (-(k : Int)) = _
    rw [Nat.cast_mul, Nat.cast_pow, Nat.cast_ofNat, zpow_neg, zpow_neg, zpow_natCast, zpow_natCast,
      mul_assoc, show (10 : ℚ) = 5 * 2 by norm_num, mul_pow, mul_inv,
      mul_inv_cancel_left₀ (by positivity)]

theorem exponent_of_mem_neighbours {num den places : Nat} {point : Int} {d : Decimal}
    (member : d ∈ neighbours num den point places) : d.exponent = point - places := by
  simp only [neighbours] at member
  generalize (if 0 ≤ point - (places : Int) then _ else _ : Nat × Nat) = scaled at member
  split at member <;>
  · rcases List.mem_pair.mp member with rfl | rfl <;> rfl

theorem le_decimalPoint (num den : Nat) :
    (digitCount num : Int) - digitCount den ≤ decimalPoint num den := by
  unfold decimalPoint
  simp only
  split <;> omega

theorem digitCount_two_pow_le (k : Nat) : digitCount (2 ^ k) ≤ k + 1 := by
  rw [digitCount_le_iff (by omega)]
  calc 2 ^ k ≤ 10 ^ k := Nat.pow_le_pow_left (by decide) k
    _ < 10 ^ (k + 1) := Nat.pow_lt_pow_right (by decide) (by omega)

theorem digitCount_ratio_le (x : Binary64) : digitCount x.ratio.2 ≤ 1075 := by
  have least := x.exponent_ge
  unfold Binary64.ratio
  split
  · show digitCount 1 ≤ 1075
    decide
  · have count := digitCount_two_pow_le (-x.exponent).toNat
    exact count.trans (by omega)

/-- What was found among the candidates, or else the exact decimal. -/
theorem shortest_cases (x : Binary64) :
    ∃ d, shortest x = d.strip 800 ∧ (d = exactDecimal x ∨
      d.toBinary64 x.isNegative = x ∧
        ∃ k < 17,
          d ∈ neighbours x.ratio.1 x.ratio.2 (decimalPoint x.ratio.1 x.ratio.2) (k + 1)) := by
  cases found : (List.range 17).findSome? fun k =>
      (neighbours x.ratio.1 x.ratio.2 (decimalPoint x.ratio.1 x.ratio.2) (k + 1)).find?
        fun d => d.toBinary64 x.isNegative == x with
  | none =>
    refine ⟨exactDecimal x, ?_, .inl rfl⟩
    simp only [shortest, found, Option.getD_none]
  | some d =>
    obtain ⟨k, member, hit⟩ := List.exists_of_findSome?_eq_some found
    refine ⟨d, ?_, .inr ⟨by simpa using List.find?_some hit, k, List.mem_range.mp member, ?_⟩⟩
    · simp only [shortest, found, Option.getD_some]
    · exact List.mem_of_find?_eq_some hit

theorem toBinary64_shortest (finite : x.isFinite = true) :
    (shortest x).toBinary64 x.isNegative = x := by
  obtain ⟨d, chosen, rfl | ⟨back, -⟩⟩ := shortest_cases x
  · rw [chosen, Decimal.toBinary64_of_toRat (Decimal.toRat_strip _ _),
      Decimal.ofRatio_of_toRat x.ratio_den_pos (toRat_exactDecimal x),
      Binary64.ofRatio_ratio finite]
  · rw [chosen, Decimal.toBinary64_of_toRat (Decimal.toRat_strip _ _), back]

theorem natAbs_point_shortest_le (finite : x.isFinite = true) (other : x.isZero = false) :
    ((shortest x).exponent + digitCount (shortest x).digits).natAbs ≤ 537 := by
  have same := toBinary64_shortest finite
  rw [← same] at finite other
  exact Decimal.natAbs_point_le finite other

theorem exponent_shortest_ge (x : Binary64) : -1100 ≤ (shortest x).exponent := by
  obtain ⟨d, chosen, origin⟩ := shortest_cases x
  have stripped := d.exponent_le_strip 800
  rw [chosen]
  refine le_trans ?_ stripped
  rcases origin with rfl | ⟨-, k, few, member⟩
  · have least := x.exponent_ge
    unfold exactDecimal
    split <;> simp only <;> omega
  · have point := le_decimalPoint x.ratio.1 x.ratio.2
    have one := digitCount_pos x.ratio.1
    have most := digitCount_ratio_le x
    rw [exponent_of_mem_neighbours member]
    omega

end Choice

end KernelSweep.Number
