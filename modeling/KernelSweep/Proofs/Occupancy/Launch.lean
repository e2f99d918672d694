import KernelSweep.Proofs.Occupancy.Range
import KernelSweep.Proofs.Occupancy.Reservation

set_option autoImplicit false

namespace KernelSweep.Occupancy

open Number

/-- What is left of a unit once every slot has taken the memory it has without a reservation. -/
def leftOver (p : Profile) (existing blocks : Int64) : Int :=
  p.maxSharedMemory.toInt - (blocks.toInt + 1) * existing.toInt

section Step

variable {p : Profile} {existing blocks : Int64} (nonneg : 0 ≤ blocks.toInt)

include nonneg in
/-- With its reservation a block takes an even share of the memory and one byte. -/
theorem add_share (existing memory : Int) :
    existing + ((memory - (blocks.toInt + 1) * existing) / (blocks.toInt + 1) + 1) =
      memory / (blocks.toInt + 1) + 1 := by
  rw [Int.sub_mul_ediv_left _ _ (by omega)]
  omega

variable (slots : IsWord (blocks.toInt + 1))
  (product : IsWord ((blocks.toInt + 1) * existing.toInt))
include nonneg slots product

/-- The words divide what has become of the rest, and add one. -/
theorem toInt_reservationFor :
    (reservationFor p existing (blocks + 1)).toInt =
      ((leftOver p existing blocks).bmod 18446744073709551616 / (blocks.toInt + 1) + 1).bmod
        18446744073709551616 := by
  have next := toInt_slots slots
  rw [reservationFor, Int64.toInt_add, toInt_floorDiv _ _ (by omega), Int64.toInt_sub,
    Int64.toInt_mul, next, bmod_of_isWord product, Int64.toInt_one]
  rfl

theorem toInt_reservationFor_le :
    (reservationFor p existing (blocks + 1)).toInt ≤
      (leftOver p existing blocks).bmod 18446744073709551616 / (blocks.toInt + 1) + 1 := by
  have low := Int.le_bmod (x := leftOver p existing blocks) (m := 18446744073709551616) (by omega)
  have quotient : -9223372036854775808 ≤
      (leftOver p existing blocks).bmod 18446744073709551616 / (blocks.toInt + 1) := by
    rw [Int.le_ediv_iff_mul_le (by omega)]
    omega
  rw [toInt_reservationFor nonneg slots product]
  exact bmod_le (by omega)

/-- It takes exactly that when the rest is a word and there are two slots at least. -/
theorem add_reservationFor_of_isWord (two : 1 ≤ blocks.toInt)
    (fits : IsWord (leftOver p existing blocks)) :
    existing.toInt + (reservationFor p existing (blocks + 1)).toInt =
      p.maxSharedMemory.toInt / (blocks.toInt + 1) + 1 := by
  have small : leftOver p existing blocks / (blocks.toInt + 1) < 9223372036854775807 := by
    rw [isWord_iff] at fits
    rw [Int.ediv_lt_iff_lt_mul (by omega)]
    omega
  have large : -9223372036854775808 ≤ leftOver p existing blocks / (blocks.toInt + 1) := by
    rw [isWord_iff] at fits
    rw [Int.le_ediv_iff_mul_le (by omega)]
    omega
  have answer : IsWord (leftOver p existing blocks / (blocks.toInt + 1) + 1) := by
    rw [isWord_iff]
    omega
  rw [toInt_reservationFor nonneg slots product, bmod_of_isWord fits, bmod_of_isWord answer]
  exact add_share nonneg existing.toInt p.maxSharedMemory.toInt

variable (memory : 0 < p.maxSharedMemory.toInt)
include memory

/-- A block never takes more than an even share and one byte, whatever wraps. -/
theorem add_reservationFor_le :
    existing.toInt + (reservationFor p existing (blocks + 1)).toInt ≤
      p.maxSharedMemory.toInt / (blocks.toInt + 1) + 1 := by
  have most := toInt_reservationFor_le (p := p) nonneg slots product
  have share := add_share nonneg existing.toInt p.maxSharedMemory.toInt
  have wrapped : (leftOver p existing blocks).bmod 18446744073709551616 ≤
      leftOver p existing blocks := by
    rw [isWord_iff] at product
    exact bmod_le (by unfold leftOver; omega)
  have divided := Int.ediv_le_ediv (c := blocks.toInt + 1) (by omega) wrapped
  unfold leftOver at most divided
  omega

/-- When the rest is no word, the reservation is so far below zero that a block takes nothing. -/
theorem add_reservationFor_of_not_isWord (wraps : ¬ IsWord (leftOver p existing blocks)) :
    existing.toInt + (reservationFor p existing (blocks + 1)).toInt ≤ 0 := by
  have high := p.maxSharedMemory.toInt_lt
  have most := toInt_reservationFor_le (p := p) nonneg slots product
  have share := add_share nonneg existing.toInt
    (p.maxSharedMemory.toInt - 18446744073709551616)
  have negative : (p.maxSharedMemory.toInt - 18446744073709551616) / (blocks.toInt + 1) < 0 :=
    Int.ediv_neg_of_neg_of_pos (by omega) (by omega)
  have turned : (leftOver p existing blocks).bmod 18446744073709551616 =
      p.maxSharedMemory.toInt - 18446744073709551616 - (blocks.toInt + 1) * existing.toInt := by
    rw [isWord_iff] at product wraps
    unfold leftOver at wraps ⊢
    rw [bmod_of_too_large (by omega) (by omega)]
    omega
  rw [turned] at most
  omega

end Step

/-- The block of a step, with what it has and what is reserved for it, is within its limit. -/
def Step.Launchable (s : Step) (r : Record) (p : Profile) : Prop :=
  r.sharedMemory.toInt + s.reserved.toInt ≤ p.maxBlockMemory.toInt

instance (s : Step) (r : Record) (p : Profile) : Decidable (s.Launchable r p) :=
  inferInstanceAs (Decidable (_ ≤ _))

section Limit

variable {r : Record} {p : Profile} {blocks : Int64} (valid : p.IsValid)
  (slots : IsWord (blocks.toInt + 1))
  (product : IsWord ((blocks.toInt + 1) * r.sharedMemory.toInt))
include valid slots product

/-- From the split of the memory on, a step leaves so few blocks that each may have its share. -/
theorem launchable_stepAt (nonneg : 0 ≤ blocks.toInt)
    (few : p.maxSharedMemory.toInt / p.maxBlockMemory.toInt ≤ blocks.toInt) :
    (stepAt r p blocks).Launchable r p := by
  have limit : 0 < p.maxBlockMemory.toInt := toInt_pos (valid .blockMemory)
  have memory : 0 < p.maxSharedMemory.toInt := toInt_pos (valid .sharedMemory)
  have taken := add_reservationFor_le nonneg slots product memory
  have share : p.maxSharedMemory.toInt / (blocks.toInt + 1) < p.maxBlockMemory.toInt := by
    rw [Int.ediv_lt_iff_lt_mul (by omega), Int.mul_comm, ← Int.ediv_lt_iff_lt_mul limit]
    omega
  show r.sharedMemory.toInt + (reservationFor p r.sharedMemory (blocks + 1)).toInt ≤ _
  omega

/-- Above it the shares are too large, and the step can only be launched by an overflow. -/
theorem not_launchable_stepAt_iff (two : 1 ≤ blocks.toInt)
    (many : blocks.toInt < p.maxSharedMemory.toInt / p.maxBlockMemory.toInt) :
    ¬ (stepAt r p blocks).Launchable r p ↔ IsWord (leftOver p r.sharedMemory blocks) := by
  have limit : 0 < p.maxBlockMemory.toInt := toInt_pos (valid .blockMemory)
  have memory : 0 < p.maxSharedMemory.toInt := toInt_pos (valid .sharedMemory)
  have share : p.maxBlockMemory.toInt ≤ p.maxSharedMemory.toInt / (blocks.toInt + 1) := by
    rw [Int.le_ediv_iff_mul_le (by omega), Int.mul_comm, ← Int.le_ediv_iff_mul_le limit]
    omega
  show ¬ r.sharedMemory.toInt + (reservationFor p r.sharedMemory (blocks + 1)).toInt ≤ _ ↔ _
  by_cases fits : IsWord (leftOver p r.sharedMemory blocks)
  · have taken := add_reservationFor_of_isWord (by omega) slots product two fits
    exact iff_of_true (by omega) fits
  · have taken := add_reservationFor_of_not_isWord (by omega) slots product memory fits
    exact iff_of_false (by omega) fits

end Limit

/-- The lower bound is the split of the memory, less one block, while that is below the resident
count. -/
theorem toInt_lowerBound {p : Profile} (valid : p.IsValid) {resident bound : Int64}
    (bounded : lowerBound p resident = .ok bound) :
    bound.toInt =
      if resident.toInt ≤ p.maxSharedMemory.toInt / p.maxBlockMemory.toInt - 1 then 0
      else p.maxSharedMemory.toInt / p.maxBlockMemory.toInt - 1 := by
  have limit : 0 < p.maxBlockMemory.toInt := toInt_pos (valid .blockMemory)
  rw [lowerBound_of_ne_zero p resident (by intro zero; simp [zero] at limit)] at bounded
  cases bounded
  simp only [Int64.le_iff_toInt_le, toInt_memorySplit valid]
  split
  · rw [Int64.toInt_zero]
  · exact toInt_memorySplit valid

/-- Every step of a plan is the one for its block count. -/
theorem eq_stepAt_of_mem {r : Record} {p : Profile} (valid : p.IsValid) {steps : List Step}
    (planned : plan r p = .ok steps) {s : Step} (member : s ∈ steps) :
    s = stepAt r p s.blocks := by
  obtain ⟨bound, bounded, atLeast⟩ := lowerBound_of_valid p valid (residentBlocks r p)
  cases planned.symm.trans (plan_of_lowerBound bounded atLeast)
  obtain ⟨blocks, -, rfl⟩ := List.mem_map.mp member
  rfl

/-- Where the memory of no step's slots overflows: if the bound of the search is the split of the
memory, every step can be launched; if it has dropped to zero, a step cannot be launched exactly
when what its slots leave of the unit is a word as well. -/
theorem plan_launchable (r : Record) (p : Profile) (accepted : p.validate = .ok ()) :
    ∃ steps, plan r p = .ok steps ∧
      ((∀ s ∈ steps, IsWord ((s.blocks.toInt + 1) * r.sharedMemory.toInt)) →
        (p.maxSharedMemory.toInt / p.maxBlockMemory.toInt - 1 < (residentBlocks r p).toInt →
          ∀ s ∈ steps, s.Launchable r p) ∧
        ((residentBlocks r p).toInt ≤ p.maxSharedMemory.toInt / p.maxBlockMemory.toInt - 1 →
          ∀ s ∈ steps,
            (¬ s.Launchable r p ↔ IsWord (leftOver p r.sharedMemory s.blocks)))) := by
  have valid := p.validate_eq_ok_iff.mp accepted
  obtain ⟨bound, steps, bounded, planned, blocks⟩ := plan_blocks r valid
  have value := toInt_lowerBound valid bounded
  have split : 0 ≤ p.maxSharedMemory.toInt / p.maxBlockMemory.toInt :=
    Int.ediv_nonneg (Int.le_of_lt (toInt_pos (valid .sharedMemory)))
      (Int.le_of_lt (toInt_pos (valid .blockMemory)))
  have between : ∀ s ∈ steps, bound.toInt < s.blocks.toInt ∧
      s.blocks.toInt < (residentBlocks r p).toInt := fun s member =>
    (blocks _).mp (List.mem_map.mpr ⟨s, member, rfl⟩)
  have slots : ∀ s ∈ steps, IsWord (s.blocks.toInt + 1) := by
    intro s member
    have inside := between s member
    have low := s.blocks.le_toInt
    have high := (residentBlocks r p).toInt_lt
    rw [isWord_iff]
    omega
  refine ⟨steps, planned, fun products => ⟨?_, ?_⟩⟩
  · intro below s member
    have inside := between s member
    rw [value, if_neg (by omega)] at inside
    rw [eq_stepAt_of_mem valid planned member]
    exact launchable_stepAt valid (slots s member) (products s member) (by omega) (by omega)
  · -- The bound is zero here, so a step leaves one block at least and has two slots.
    intro reached s member
    have inside := between s member
    rw [value, if_pos reached] at inside
    rw [eq_stepAt_of_mem valid planned member]
    exact not_launchable_stepAt_iff valid (slots s member) (products s member) (by omega)
      (by omega)

/-- Blocks of 512 threads with 8 KiB each that fill a unit. -/
def fullRecord : Record := ⟨8192, 512, .ofInt 1⟩

/-- As `kepler`, but a block may have one KiB only. -/
def slicedProfile : Profile := { Profile.kepler with name := "sliced", maxBlockMemory := 1024 }

/-- Two steps that can be launched where the bound is the split, and three that cannot where it has
dropped to zero. -/
theorem full_launchable :
    Profile.pascal.validate = .ok () ∧ slicedProfile.validate = .ok () ∧
      (∃ steps, plan fullRecord .pascal = .ok steps ∧ steps.length = 2 ∧
        ∀ s ∈ steps, s.Launchable fullRecord .pascal) ∧
      ∃ steps, plan fullRecord slicedProfile = .ok steps ∧ steps.length = 3 ∧
        ∀ s ∈ steps, ¬ s.Launchable fullRecord slicedProfile := by
  refine ⟨rfl, rfl, ?_, ?_⟩
  · have two : plan fullRecord .pascal = .ok [⟨3, 4, 512, 16385⟩, ⟨2, 4, 512, 24577⟩] := by rfl
    obtain ⟨steps, planned, limits⟩ := plan_launchable fullRecord .pascal rfl
    cases two.symm.trans planned
    exact ⟨_, planned, rfl, (limits (by decide)).1 (by decide)⟩
  · have three : plan fullRecord slicedProfile =
        .ok [⟨3, 4, 512, 4097⟩, ⟨2, 4, 512, 8193⟩, ⟨1, 4, 512, 16385⟩] := by rfl
    obtain ⟨steps, planned, limits⟩ := plan_launchable fullRecord slicedProfile rfl
    cases three.symm.trans planned
    refine ⟨_, planned, rfl, fun s member => ?_⟩
    exact ((limits (by decide)).2 (by decide) s member).mpr (by revert s; decide)

/-- Shared memory so far below zero that two slots of it are the smallest word. -/
def negativeRecord : Record := ⟨-4611686018427387904, 1024, .ofInt 1⟩

/-- The memory of the two slots is a word and the bound has dropped to zero, but what the slots
leave of the unit is too large, and the step seems to take less than nothing. -/
theorem sliced_launchable_by_overflow :
    slicedProfile.validate = .ok () ∧
      plan negativeRecord slicedProfile = .ok [⟨1, 2, 1024, -4611686018427363327⟩] ∧
      IsWord ((1 + 1) * negativeRecord.sharedMemory.toInt) ∧
      (residentBlocks negativeRecord slicedProfile).toInt ≤
        slicedProfile.maxSharedMemory.toInt / slicedProfile.maxBlockMemory.toInt - 1 ∧
      Step.Launchable ⟨1, 2, 1024, -4611686018427363327⟩ negativeRecord slicedProfile :=
  ⟨rfl, rfl, by decide, by decide, by decide⟩

end KernelSweep.Occupancy
