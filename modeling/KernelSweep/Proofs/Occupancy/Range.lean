import KernelSweep.Proofs.Number.Word
import KernelSweep.Proofs.Occupancy.Plan

set_option autoImplicit false

namespace KernelSweep

theorem Profile.validate_eq_ok_iff (p : Profile) : p.validate = .ok () ↔ p.IsValid := by
  rw [← fault?_eq_none_iff, validate]
  cases p.fault? <;> simp

namespace Occupancy

open Number

theorem residentBlocks_pos (r : Record) (p : Profile) : 1 ≤ (residentBlocks r p).toInt := by
  unfold residentBlocks
  split
  · decide
  · simp only
    split
    · decide
    · rename_i enough
      rw [Int64.lt_iff_toInt_lt, Int64.toInt_one] at enough
      omega

section Descending

variable {top : Int64} {count : Nat}

theorem toInt_sub_ofNat {i : Nat} (small : (i : Int) ≤ top.toInt) :
    (top - Int64.ofNat i).toInt = top.toInt - i := by
  have high := top.toInt_lt
  have less : IsWord (top.toInt - i) := by
    rw [isWord_iff]
    omega
  have word : (Int64.ofNat i).toInt = i := by
    rw [← Int64.ofInt_eq_ofNat, Int64.toInt_ofInt_of_le (by omega) (by omega)]
  rw [Int64.toInt_sub, word, bmod_of_isWord less]

/-- Counting down without going below zero meets every number on the way. -/
theorem mem_descending_iff (enough : (count : Int) ≤ top.toInt + 1) {n : Int} :
    n ∈ (descending top count).map Int64.toInt ↔ top.toInt - count < n ∧ n ≤ top.toInt := by
  simp only [descending, List.map_map, List.mem_map, List.mem_range, Function.comp_apply]
  constructor
  · rintro ⟨i, before, rfl⟩
    rw [toInt_sub_ofNat (by omega)]
    omega
  · rintro ⟨above, below⟩
    refine ⟨(top.toInt - n).toNat, by omega, ?_⟩
    rw [toInt_sub_ofNat (by omega)]
    omega

end Descending

variable {p : Profile}

theorem toInt_memorySplit (valid : p.IsValid) :
    (p.maxSharedMemory / p.maxBlockMemory - 1).toInt =
      p.maxSharedMemory.toInt / p.maxBlockMemory.toInt - 1 := by
  have unit : 0 < p.maxSharedMemory.toInt := toInt_pos (valid .sharedMemory)
  have block : 0 < p.maxBlockMemory.toInt := toInt_pos (valid .blockMemory)
  have ordinary : p.maxBlockMemory ≠ -1 := by
    intro minus
    rw [minus] at block
    exact absurd block (by decide)
  have split := isWord_ediv p.maxSharedMemory p.maxBlockMemory block
  have nonneg : 0 ≤ p.maxSharedMemory.toInt / p.maxBlockMemory.toInt :=
    Int.ediv_nonneg (by omega) (by omega)
  have less : IsWord (p.maxSharedMemory.toInt / p.maxBlockMemory.toInt - 1) := by
    rw [isWord_iff] at split ⊢
    omega
  rw [Int64.toInt_sub, Int64.toInt_div_of_ne_right _ _ ordinary, Int64.toInt_one,
    Int.tdiv_eq_ediv_of_nonneg (by omega), bmod_of_isWord less]

/-- A block may have no more than a whole unit exactly when the bound is not negative. -/
theorem lowerBound_nonneg_iff (valid : p.IsValid) {resident bound : Int64}
    (occupied : 1 ≤ resident.toInt) (bounded : lowerBound p resident = .ok bound) :
    0 ≤ bound.toInt ↔ p.maxBlockMemory ≤ p.maxSharedMemory := by
  have block : 0 < p.maxBlockMemory.toInt := toInt_pos (valid .blockMemory)
  have split := toInt_memorySplit valid
  have whole : p.maxBlockMemory ≤ p.maxSharedMemory ↔
      1 ≤ p.maxSharedMemory.toInt / p.maxBlockMemory.toInt := by
    rw [Int64.le_iff_toInt_le, Int.le_ediv_iff_mul_le block, Int.one_mul]
  rw [lowerBound_of_ne_zero p resident (by intro zero; simp [zero] at block)] at bounded
  cases bounded
  rw [whole]
  split
  · rename_i reached
    rw [Int64.le_iff_toInt_le] at reached
    rw [Int64.toInt_zero]
    omega
  · omega

/-- The plan has a step for each block count between the bound and the resident one. -/
theorem plan_blocks (r : Record) (valid : p.IsValid) :
    ∃ bound steps, lowerBound p (residentBlocks r p) = .ok bound ∧ plan r p = .ok steps ∧
      ∀ n : Int, n ∈ steps.map (·.blocks.toInt) ↔
        bound.toInt < n ∧ n < (residentBlocks r p).toInt := by
  obtain ⟨bound, bounded, atLeast⟩ := lowerBound_of_valid p valid (residentBlocks r p)
  have occupied := residentBlocks_pos r p
  have fits := isWord_toInt (residentBlocks r p)
  have top : (residentBlocks r p - 1).toInt = (residentBlocks r p).toInt - 1 := by
    rw [isWord_iff] at fits
    rw [Int64.toInt_sub, Int64.toInt_one, bmod_of_isWord]
    rw [isWord_iff]
    omega
  refine ⟨bound, _, bounded, plan_of_lowerBound bounded atLeast, ?_⟩
  intro n
  rw [List.map_map]
  show n ∈ (descending _ _).map Int64.toInt ↔ _
  rw [mem_descending_iff (by omega), top]
  omega

/-- What the search is to keep to: every step leaves a block on the unit and takes one away, and
where only one is resident there is nothing to try. -/
def StaysInRange (r : Record) (p : Profile) : Prop :=
  ∃ steps, plan r p = .ok steps ∧
    (∀ s ∈ steps, 1 ≤ s.blocks ∧ s.blocks < residentBlocks r p) ∧
    (residentBlocks r p = 1 → steps = [])

/-- Among the profiles that pass validation, the search keeps to its range for those that allow a
block no more memory than a unit has. For the others it ends with a step that leaves no block,
whatever the record says. -/
theorem staysInRange_iff (r : Record) (p : Profile) (accepted : p.validate = .ok ()) :
    StaysInRange r p ↔ p.maxBlockMemory ≤ p.maxSharedMemory := by
  have valid := p.validate_eq_ok_iff.mp accepted
  have occupied := residentBlocks_pos r p
  obtain ⟨bound, steps, bounded, planned, blocks⟩ := plan_blocks r valid
  rw [← lowerBound_nonneg_iff valid occupied bounded]
  constructor
  · rintro ⟨steps', planned', inside, -⟩
    cases planned.symm.trans planned'
    rcases Int.lt_or_le bound.toInt 0 with negative | nonneg
    · -- The count zero is above the bound, so the plan has a step that leaves no block.
      obtain ⟨s, member, zero⟩ := List.mem_map.mp ((blocks 0).mpr (by omega))
      have stays := (inside s member).1
      rw [Int64.le_iff_toInt_le, Int64.toInt_one] at stays
      omega
    · exact nonneg
  · intro nonneg
    have between : ∀ s ∈ steps, bound.toInt < s.blocks.toInt ∧
        s.blocks.toInt < (residentBlocks r p).toInt := fun s member =>
      (blocks _).mp (List.mem_map.mpr ⟨s, member, rfl⟩)
    refine ⟨steps, planned, ?_, ?_⟩
    · intro s member
      have inside := between s member
      rw [Int64.le_iff_toInt_le, Int64.lt_iff_toInt_lt, Int64.toInt_one]
      omega
    · intro single
      rw [List.eq_nil_iff_forall_not_mem]
      intro s member
      have inside := between s member
      rw [single, Int64.toInt_one] at inside
      omega

/-- A quarter of a unit's threads in blocks of 512. -/
def quarterRecord : Record := ⟨0, 512, .ofRatio false 1 4⟩

theorem kepler_staysInRange :
    Profile.kepler.validate = .ok () ∧ StaysInRange quarterRecord .kepler :=
  ⟨rfl, (staysInRange_iff quarterRecord .kepler rfl).mpr (by decide)⟩

/-- Half the shared memory of `kepler`, and as much as before for a block. -/
def narrowProfile : Profile := { Profile.kepler with name := "narrow", maxSharedMemory := 24576 }

/-- The profile passes validation and one block is resident, and yet there is a step: it leaves
none. -/
theorem narrow_not_staysInRange :
    narrowProfile.validate = .ok () ∧ 0 < quarterRecord.threads ∧
      residentBlocks quarterRecord narrowProfile = 1 ∧
      plan quarterRecord narrowProfile = .ok [⟨0, 1, 512, 24577⟩] ∧
      ¬ StaysInRange quarterRecord narrowProfile := by
  have planned : plan quarterRecord narrowProfile = .ok [⟨0, 1, 512, 24577⟩] := by rfl
  refine ⟨rfl, by decide, by decide, planned, ?_⟩
  rintro ⟨steps, planned', inside, -⟩
  cases planned.symm.trans planned'
  exact absurd (inside _ List.mem_cons_self).1 (by decide)

end Occupancy

end KernelSweep
