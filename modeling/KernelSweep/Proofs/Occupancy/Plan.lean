import KernelSweep.Occupancy.Search

set_option autoImplicit false

namespace KernelSweep.Occupancy

theorem toInt_pos {x : Int64} (positive : 0 < x) : 0 < x.toInt := by
  simpa only [Int64.lt_iff_toInt_lt, Int64.toInt_zero] using positive

/-- Blocks of the largest size that the shared memory of a unit holds. -/
theorem memorySplit_nonneg (p : Profile) (valid : p.IsValid) :
    0 ≤ (p.maxSharedMemory / p.maxBlockMemory).toInt := by
  have unit : 0 < p.maxSharedMemory.toInt := toInt_pos (valid .sharedMemory)
  have block : 0 < p.maxBlockMemory.toInt := toInt_pos (valid .blockMemory)
  have ordinary : p.maxSharedMemory ≠ Int64.minValue := by
    intro smallest
    rw [smallest] at unit
    exact absurd unit (by decide)
  rw [Int64.toInt_div_of_ne_left _ _ ordinary]
  exact Int.tdiv_nonneg (Int.le_of_lt unit) (Int.le_of_lt block)

theorem lowerBound_of_ne_zero (p : Profile) (resident : Int64) (block : p.maxBlockMemory ≠ 0) :
    lowerBound p resident =
      .ok (if resident ≤ p.maxSharedMemory / p.maxBlockMemory - 1 then 0
        else p.maxSharedMemory / p.maxBlockMemory - 1) := by
  simp only [lowerBound, block, ↓reduceIte]

/-- The bound may be minus one, when a block may take more memory than a unit has. -/
theorem lowerBound_of_valid (p : Profile) (valid : p.IsValid) (resident : Int64) :
    ∃ bound, lowerBound p resident = .ok bound ∧ -1 ≤ bound.toInt := by
  have block : p.maxBlockMemory ≠ 0 := by
    intro zero
    have positive : 0 < p.maxBlockMemory.toInt := toInt_pos (valid .blockMemory)
    rw [zero, Int64.toInt_zero] at positive
    omega
  refine ⟨_, lowerBound_of_ne_zero p resident block, ?_⟩
  split
  · rw [Int64.toInt_zero]
    omega
  · have enough := memorySplit_nonneg p valid
    have small := (p.maxSharedMemory / p.maxBlockMemory).toInt_lt
    rw [Int64.toInt_sub, Int64.toInt_one, Int.bmod_eq_of_le (by omega) (by omega)]
    omega

theorem plan_of_lowerBound {r : Record} {p : Profile} {bound : Int64}
    (bounded : lowerBound p (residentBlocks r p) = .ok bound) (atLeast : -1 ≤ bound.toInt) :
    plan r p = .ok ((descending (residentBlocks r p - 1)
      ((residentBlocks r p).toInt - 1 - bound.toInt).toNat).map (stepAt r p)) := by
  have enough : ¬ bound < -1 := by
    rw [Int64.lt_iff_toInt_lt, show (-1 : Int64).toInt = -1 from rfl]
    omega
  simp only [plan, bounded, enough, bind, Except.bind, ↓reduceIte]
  rfl

theorem plan_of_valid (r : Record) (p : Profile) (valid : p.IsValid) :
    ∃ steps, plan r p = .ok steps := by
  obtain ⟨bound, bounded, atLeast⟩ := lowerBound_of_valid p valid (residentBlocks r p)
  exact ⟨_, plan_of_lowerBound bounded atLeast⟩

end KernelSweep.Occupancy
