import KernelSweep.Number.Integer

set_option autoImplicit false

namespace KernelSweep.Number

/-- A number that some word holds. -/
def IsWord (n : Int) : Prop := Int64.minValue.toInt ≤ n ∧ n ≤ Int64.maxValue.toInt

instance (n : Int) : Decidable (IsWord n) := inferInstanceAs (Decidable (_ ∧ _))

theorem isWord_iff (n : Int) :
    IsWord n ↔ -9223372036854775808 ≤ n ∧ n < 9223372036854775808 := by
  have low : Int64.minValue.toInt = -9223372036854775808 := rfl
  have high : Int64.maxValue.toInt = 9223372036854775807 := rfl
  rw [IsWord, low, high]
  omega

theorem isWord_toInt (w : Int64) : IsWord w.toInt := by
  have low := w.le_toInt
  have high := w.toInt_lt
  rw [isWord_iff]
  omega

theorem bmod_of_isWord {n : Int} (fits : IsWord n) : n.bmod 18446744073709551616 = n := by
  rw [isWord_iff] at fits
  apply Int.bmod_eq_of_le <;> omega

/-- A number too large for a word comes back a whole turn lower. -/
theorem bmod_of_too_large {n : Int} (large : 9223372036854775808 ≤ n)
    (once : n < 27670116110564327424) :
    n.bmod 18446744073709551616 = n - 18446744073709551616 := by
  have lower : IsWord (n - 18446744073709551616) := by
    rw [isWord_iff]
    omega
  rw [← bmod_of_isWord lower]
  exact (Int.sub_bmod_right n 18446744073709551616).symm

theorem bmod_le {n : Int} (low : -9223372036854775808 ≤ n) : n.bmod 18446744073709551616 ≤ n := by
  by_cases fits : IsWord n
  · exact Int.le_of_eq (bmod_of_isWord fits)
  · have small := Int.bmod_lt (x := n) (m := 18446744073709551616) (by omega)
    rw [isWord_iff] at fits
    omega

/-- The quotient of a word and a positive one is a word. -/
theorem isWord_ediv (a b : Int64) (positive : 0 < b.toInt) : IsWord (a.toInt / b.toInt) := by
  have low := a.le_toInt
  have high := a.toInt_lt
  rw [isWord_iff]
  constructor
  · rw [Int.le_ediv_iff_mul_le positive]
    omega
  · rw [Int.ediv_lt_iff_lt_mul positive]
    omega

theorem toInt_floorDiv (a b : Int64) (positive : 0 < b.toInt) :
    (floorDiv a b).toInt = a.toInt / b.toInt := by
  have ordinary : b ≠ -1 := by
    rintro rfl
    exact absurd positive (by decide)
  have quotient := Int64.toInt_div_of_ne_right a b ordinary
  have notBelow : ¬ b < 0 := by
    rw [Int64.lt_iff_toInt_lt, Int64.toInt_zero]
    omega
  have remains : a % b ≠ 0 ↔ ¬ b.toInt ∣ a.toInt := by
    rw [Ne, ← Int64.toInt_inj, Int64.toInt_mod, Int64.toInt_zero, ← Int.dvd_iff_tmod_eq_zero]
  have below : a < 0 ↔ a.toInt < 0 := by rw [Int64.lt_iff_toInt_lt, Int64.toInt_zero]
  -- Dividing words cuts toward zero, which is one too many exactly below zero with a remainder.
  rw [Int.tdiv_eq_ediv, Int.sign_eq_one_of_pos positive] at quotient
  simp only [floorDiv, remains, below, notBelow, decide_false]
  by_cases lower : ¬ b.toInt ∣ a.toInt ∧ a.toInt < 0
  · obtain ⟨uneven, negative⟩ := lower
    rw [if_neg (by rintro (up | even) <;> omega)] at quotient
    rw [if_pos ⟨uneven, by simp [negative]⟩, Int64.toInt_sub, quotient, Int64.toInt_one,
      Int.add_sub_cancel, bmod_of_isWord (isWord_ediv a b positive)]
  · have exact : 0 ≤ a.toInt ∨ b.toInt ∣ a.toInt := by
      by_cases even : b.toInt ∣ a.toInt
      · exact .inr even
      · exact .inl (by omega)
    rw [if_pos exact] at quotient
    rw [if_neg (by simpa using lower), quotient, Int.add_zero]

end KernelSweep.Number
