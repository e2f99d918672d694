import KernelSweep.Duration
import KernelSweep.Proofs.Number.Word

set_option autoImplicit false

namespace KernelSweep.Duration

open Number

theorem toInt_ofSeconds (seconds : Int64) :
    (ofSeconds seconds).nanoseconds.toInt =
      (seconds.toInt * 1000000000).bmod 18446744073709551616 := by
  have unit : nanosecondsPerSecond.toInt = 1000000000 := rfl
  rw [ofSeconds, Int64.toInt_mul, unit]

/-- Seconds become a span of that length exactly when their nanoseconds fit. -/
theorem toInt_ofSeconds_eq_iff {seconds : Int64} :
    (ofSeconds seconds).nanoseconds.toInt = seconds.toInt * 1000000000 ↔
      IsWord (seconds.toInt * 1000000000) := by
  constructor
  · intro same
    rw [← same]
    exact isWord_toInt _
  · intro fits
    rw [toInt_ofSeconds, bmod_of_isWord fits]

/-- Above zero, and far enough below the longest span that a second less a nanosecond more is one
too. -/
def CanRoundUp (d : Duration) : Prop :=
  0 < d.nanoseconds.toInt ∧ d.nanoseconds.toInt ≤ Int64.maxValue.toInt - 999999999

instance (d : Duration) : Decidable d.CanRoundUp := inferInstanceAs (Decidable (_ ∧ _))

variable {d : Duration}

theorem canRoundUp_iff :
    d.CanRoundUp ↔ 0 < d.nanoseconds.toInt ∧ d.nanoseconds.toInt ≤ 9223372035854775808 := by
  have largest : Int64.maxValue.toInt = 9223372036854775807 := rfl
  rw [CanRoundUp, largest]
  omega

theorem toInt_wholeSeconds (d : Duration) :
    d.wholeSeconds.toInt =
      ((d.nanoseconds.toInt + 999999999).bmod 18446744073709551616).tdiv 1000000000 := by
  have unit : nanosecondsPerSecond.toInt = 1000000000 := rfl
  have almost : (999999999 : Int64).toInt = 999999999 := rfl
  rw [wholeSeconds, Int64.toInt_div_of_ne_right _ _ (by decide), Int64.toInt_add, unit, almost]

theorem toInt_wholeSeconds_of_canRoundUp (up : d.CanRoundUp) :
    d.wholeSeconds.toInt = (d.nanoseconds.toInt + 999999999) / 1000000000 := by
  rw [canRoundUp_iff] at up
  have fits : IsWord (d.nanoseconds.toInt + 999999999) := by
    rw [isWord_iff]
    omega
  rw [toInt_wholeSeconds, bmod_of_isWord fits, Int.tdiv_eq_ediv_of_nonneg (by omega)]

/-- Less than a second is no whole second. -/
theorem tdiv_second_nonpos {n : Int} (short : n < 1000000000) : n.tdiv 1000000000 ≤ 0 := by
  rw [Int.tdiv_eq_ediv, Int.sign_eq_one_of_pos (by omega)]
  split <;> omega

/-- Zero and what is below it round to no second at all, and the spans at the other end come out
below zero. -/
theorem wholeSeconds_nonpos (beyond : ¬ d.CanRoundUp) : d.wholeSeconds.toInt ≤ 0 := by
  have low := d.nanoseconds.le_toInt
  have high := d.nanoseconds.toInt_lt
  rw [canRoundUp_iff] at beyond
  rw [toInt_wholeSeconds]
  apply tdiv_second_nonpos
  by_cases wraps : 9223372036854775808 ≤ d.nanoseconds.toInt + 999999999
  · rw [bmod_of_too_large wraps (by omega)]
    omega
  · have fits : IsWord (d.nanoseconds.toInt + 999999999) := by
      rw [isWord_iff]
      omega
    rw [bmod_of_isWord fits]
    omega

theorem wholeSeconds_pos_iff : 0 < d.wholeSeconds ↔ d.CanRoundUp := by
  rw [Int64.lt_iff_toInt_lt, Int64.toInt_zero]
  constructor
  · intro positive
    by_cases up : d.CanRoundUp
    · exact up
    · have nonpos := wholeSeconds_nonpos up
      omega
  · intro up
    have value := toInt_wholeSeconds_of_canRoundUp up
    rw [canRoundUp_iff] at up
    omega

/-- Back in nanoseconds, the whole seconds are never shorter than the span and less than a second
longer. -/
theorem wholeSeconds_bounds (up : d.CanRoundUp) :
    d.nanoseconds.toInt ≤ d.wholeSeconds.toInt * 1000000000 ∧
      d.wholeSeconds.toInt * 1000000000 < d.nanoseconds.toInt + 1000000000 := by
  have value := toInt_wholeSeconds_of_canRoundUp up
  omega

end KernelSweep.Duration
