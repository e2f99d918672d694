import KernelSweep.Report.ByteCount
import Mathlib.Algebra.GroupWithZero.Nat
import Mathlib.Data.Nat.Log

set_option autoImplicit false

namespace KernelSweep.ByteCount

open KernelSweep.Number

/-- What the choice of a unit passes through: the scale so far and the quotient left. -/
inductive Reaches (n : UInt64) : Scale → UInt64 → Prop
  | start : Reaches n ⟨base, 0⟩ (n / base)
  | next {s : Scale} {quotient : UInt64} (before : Reaches n s quotient)
      (large : base ≤ quotient) : Reaches n ⟨s.divisor * base, s.unit + 1⟩ (quotient / base)

/-- Divisor, unit and quotient are in step, as numbers and not only as words. -/
structure InStep (n : UInt64) (s : Scale) (quotient : UInt64) : Prop where
  divisor : s.divisor.toNat = 1024 ^ (s.unit + 1)
  quotient : quotient.toNat = n.toNat / 1024 ^ (s.unit + 1)
  least : 1024 ^ (s.unit + 1) ≤ n.toNat

theorem toNat_base : base.toNat = 1024 := rfl

theorem base_le_iff (n : UInt64) : base ≤ n ↔ 1024 ≤ n.toNat := by
  rw [UInt64.le_iff_toNat_le, toNat_base]

theorem lt_base_iff (n : UInt64) : n < base ↔ n.toNat < 1024 := by
  rw [UInt64.lt_iff_toNat_lt, toNat_base]

theorem inStep_start {n : UInt64} (large : base ≤ n) : InStep n ⟨base, 0⟩ (n / base) := by
  rw [base_le_iff] at large
  refine ⟨?_, ?_, ?_⟩
  · rw [toNat_base, Nat.zero_add, Nat.pow_one]
  · rw [UInt64.toNat_div, toNat_base, Nat.zero_add, Nat.pow_one]
  · rw [Nat.zero_add, Nat.pow_one]
    exact large

section Step

variable {n quotient : UInt64} {s : Scale}

/-- With the quotient at the base or above, a further power still divides the count. -/
theorem InStep.room (before : InStep n s quotient) (large : base ≤ quotient) :
    1024 ^ (s.unit + 2) ≤ n.toNat := by
  rw [base_le_iff, before.quotient, Nat.le_div_iff_mul_le (Nat.pow_pos (by decide))] at large
  rw [Nat.pow_succ, Nat.mul_comm]
  exact large

theorem InStep.toNat_mul (before : InStep n s quotient) (large : base ≤ quotient) :
    (s.divisor * base).toNat = s.divisor.toNat * base.toNat := by
  have room := before.room large
  have limit := n.toNat_lt
  rw [UInt64.toNat_mul, before.divisor, toNat_base, ← Nat.pow_succ]
  exact Nat.mod_eq_of_lt (Nat.lt_of_le_of_lt room limit)

theorem InStep.next (before : InStep n s quotient) (large : base ≤ quotient) :
    InStep n ⟨s.divisor * base, s.unit + 1⟩ (quotient / base) := by
  refine ⟨?_, ?_, before.room large⟩
  · rw [before.toNat_mul large, before.divisor, toNat_base, ← Nat.pow_succ]
  · rw [UInt64.toNat_div, before.quotient, toNat_base, Nat.div_div_eq_div_mul, ← Nat.pow_succ]

/-- Seven steps of the base are more than a word holds. -/
theorem InStep.unit_lt (before : InStep n s quotient) : s.unit < units.length := by
  have limit : 1024 ^ (s.unit + 1) < 1024 ^ 7 := Nat.lt_of_le_of_lt before.least (by
    have word := n.toNat_lt
    omega)
  have fewer := (Nat.pow_lt_pow_iff_right (by decide)).mp limit
  rw [show units.length = 6 from rfl]
  omega

end Step

theorem inStep_of_reaches {n : UInt64} (large : base ≤ n) {s : Scale} {quotient : UInt64}
    (reached : Reaches n s quotient) : InStep n s quotient := by
  induction reached with
  | start => exact inStep_start large
  | next _ more ih => exact ih.next more

/-- The choice ends with what it has reached when the quotient is below the base. -/
theorem reaches_scaleFrom {n : UInt64} {s : Scale} {quotient : UInt64}
    (reached : Reaches n s quotient) :
    ∃ last, Reaches n (scaleFrom s quotient) last ∧ last < base := by
  fun_induction scaleFrom s quotient with
  | case1 s quotient large ih => exact ih (.next reached large)
  | case2 s quotient small => exact ⟨quotient, reached, UInt64.not_le.mp small⟩

/-- The unit of a count, bytes being the lowest. -/
def rank (n : UInt64) : Nat := if n < base then 0 else (scale n).unit + 1

/-- The scale of a count: exact, the largest that leaves one at least, and with a name. -/
structure Fits (n : UInt64) (s : Scale) : Prop where
  exact : s.divisor.toNat = 1024 ^ (s.unit + 1)
  least : s.divisor.toNat ≤ n.toNat
  most : n.toNat < 1024 * s.divisor.toNat
  named : s.unit < units.length

theorem fits_scale {n : UInt64} (large : base ≤ n) : Fits n (scale n) := by
  obtain ⟨quotient, reached, small⟩ := reaches_scaleFrom (.start : Reaches n _ _)
  have ends := inStep_of_reaches large reached
  refine ⟨ends.divisor, ?_, ?_, ends.unit_lt⟩
  · rw [scale, ends.divisor]
    exact ends.least
  · rw [lt_base_iff, ends.quotient, Nat.div_lt_iff_lt_mul (Nat.pow_pos (by decide))] at small
    rw [scale, ends.divisor]
    exact small

theorem rank_eq_log (n : UInt64) : rank n = Nat.log 1024 n.toNat := by
  unfold rank
  split
  · rename_i small
    rw [Nat.log_of_lt ((lt_base_iff n).mp small)]
  · rename_i large
    have fits := fits_scale (UInt64.not_lt.mp large)
    have least := fits.least
    have most := fits.most
    rw [fits.exact] at least most
    symm
    apply Nat.log_eq_of_pow_le_of_lt_pow least
    rw [Nat.pow_succ, Nat.mul_comm]
    exact most

theorem text_of_large {n : UInt64} (large : base ≤ n) (named : (scale n).unit < units.length) :
    text n = oneDecimal ((Binary64.ofInt n.toNat).div (.ofInt (scale n).divisor.toNat)) ++ " " ++
      units[(scale n).unit] ++ "iB" := by
  rw [text, if_neg (UInt64.not_lt.mpr large)]
  simp only [List.getElem?_eq_getElem named, Option.getD_some]

/-- Below the base a count is printed as it is. From there on every divisor on the way is an exact
power of the base, the last one fits the count, and its unit has a name. A larger count never has a
smaller unit. -/
theorem units_follow_counts :
    (∀ n, n < base → text n = toString n.toNat ++ " B") ∧
    (∀ n, base ≤ n →
      (∀ s quotient, Reaches n s quotient → base ≤ quotient →
        (s.divisor * base).toNat = s.divisor.toNat * base.toNat) ∧
      (∃ quotient, Reaches n (scale n) quotient ∧ quotient < base) ∧
      Fits n (scale n) ∧
      ∃ named : (scale n).unit < units.length,
        text n = oneDecimal ((Binary64.ofInt n.toNat).div (.ofInt (scale n).divisor.toNat)) ++
          " " ++ units[(scale n).unit] ++ "iB") ∧
    ∀ m n, m ≤ n → rank m ≤ rank n := by
  refine ⟨?_, ?_, ?_⟩
  · intro n small
    rw [text, if_pos small]
  · intro n large
    have fits := fits_scale large
    refine ⟨?_, reaches_scaleFrom .start, fits, fits.named, text_of_large large fits.named⟩
    intro s quotient reached more
    exact (inStep_of_reaches large reached).toNat_mul more
  · intro m n less
    rw [rank_eq_log, rank_eq_log]
    exact Nat.log_mono_right (UInt64.le_iff_toNat_le.mp less)

/-- The largest count a word holds. -/
def largest : UInt64 := 18446744073709551615

theorem scale_largest : scale largest = ⟨1152921504606846976, 5⟩ := by
  cbv

/-- The step into the last unit for it. -/
theorem reaches_largest : Reaches largest ⟨1125899906842624, 4⟩ 16383 :=
  .next (.next (.next (.next .start (by decide)) (by decide)) (by decide)) (by decide)

/-- The largest count takes the last unit, whose divisor is the largest exact one. -/
theorem largest_follows :
    (1023 < base ∧ text 1023 = "1023 B") ∧
    (base ≤ largest ∧ base ≤ 16383 ∧
      ((1125899906842624 : UInt64) * base).toNat = (1125899906842624 : UInt64).toNat * base.toNat ∧
      Fits largest (scale largest) ∧ text largest = "16.0 EiB") ∧
    (base ≤ largest ∧ rank base ≤ rank largest) := by
  obtain ⟨small, large, rises⟩ := units_follow_counts
  obtain ⟨exact, -, fits, named, written⟩ := large largest (by decide)
  have whole := exact ⟨1125899906842624, 4⟩ 16383 reaches_largest (by decide)
  refine ⟨⟨by decide, ?_⟩, ⟨by decide, by decide, whole, fits, ?_⟩, by decide,
    rises base largest (by decide)⟩
  · rw [small 1023 (by decide)]
    rfl
  · have quotient : oneDecimal ((Binary64.ofInt largest.toNat).div
        (.ofInt (1152921504606846976 : UInt64).toNat)) = "16.0" := rfl
    simp only [scale_largest, quotient] at written
    exact written

end KernelSweep.ByteCount
