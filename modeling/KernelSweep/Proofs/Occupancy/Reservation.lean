import KernelSweep.Occupancy.Search
import KernelSweep.Proofs.Number.Word

set_option autoImplicit false

namespace KernelSweep.Occupancy

open Number

section Division

variable {memory slots : Int}

/-- The slots no longer fit from one byte above an even share on. -/
theorem lt_mul_add_iff (positive : 0 < slots) (existing x : Int) :
    memory < slots * (existing + x) ↔ (memory - slots * existing) / slots + 1 ≤ x := by
  rw [Int.sub_mul_ediv_left _ _ (by omega), Int.mul_comm, ← Int.ediv_lt_iff_lt_mul positive]
  omega

/-- Parts one larger than an even share fit less often. -/
theorem ediv_ediv_add_one_lt (positive : 0 < slots) (nonneg : 0 ≤ memory) :
    memory / (memory / slots + 1) < slots := by
  have share : 0 ≤ memory / slots := Int.ediv_nonneg nonneg (by omega)
  rw [Int.ediv_lt_iff_lt_mul (by omega), Int.mul_comm, ← Int.ediv_lt_iff_lt_mul positive]
  omega

/-- They fit exactly one time less when what the division leaves makes up for the byte that each of
them has more. -/
theorem le_ediv_ediv_add_one_iff (positive : 0 < slots) (nonneg : 0 ≤ memory) :
    slots - 1 ≤ memory / (memory / slots + 1) ↔ slots - 1 ≤ memory / slots + memory % slots := by
  have share : 0 ≤ memory / slots := Int.ediv_nonneg nonneg (by omega)
  have whole := Int.mul_ediv_add_emod memory slots
  have expand : (slots - 1) * (memory / slots + 1) =
      slots * (memory / slots) - memory / slots + slots - 1 := by
    rw [Int.sub_mul, Int.mul_add]
    omega
  rw [Int.le_ediv_iff_mul_le (by omega), expand]
  omega

end Division

/-- What a reservation for `blocks` blocks is meant to bring about, all numbers being integers. -/
structure ForcesBlocks (p : Profile) (existing blocks reserved : Int64) : Prop where
  /-- It is the least amount that keeps one block more from fitting. -/
  least : ∀ x : Int, p.maxSharedMemory.toInt < (blocks.toInt + 1) * (existing.toInt + x) ↔
    reserved.toInt ≤ x
  taken : 1 ≤ existing.toInt + reserved.toInt
  /-- No more than `blocks` blocks fit. -/
  most : p.maxSharedMemory.toInt / (existing.toInt + reserved.toInt) ≤ blocks.toInt
  /-- So many do fit when the memory allows for it. -/
  exactly : p.maxSharedMemory.toInt / (existing.toInt + reserved.toInt) = blocks.toInt ↔
    blocks.toInt ≤ p.maxSharedMemory.toInt / (blocks.toInt + 1) +
      p.maxSharedMemory.toInt % (blocks.toInt + 1)
  enough : blocks.toInt * (blocks.toInt + 1) ≤ p.maxSharedMemory.toInt →
    p.maxSharedMemory.toInt / (existing.toInt + reserved.toInt) = blocks.toInt

/-- The search gets such a reservation for `blocks` blocks. -/
def ReservesLeast (p : Profile) (existing blocks : Int64) : Prop :=
  ∃ reserved, reservation p existing blocks = .ok reserved ∧
    ForcesBlocks p existing blocks reserved

/-- The reservation as the integers have it, without the limits of a word. -/
def exactReservation (p : Profile) (existing blocks : Int64) : Int :=
  (p.maxSharedMemory.toInt - (blocks.toInt + 1) * existing.toInt) / (blocks.toInt + 1) + 1

variable {p : Profile} {existing blocks : Int64}

/-- It takes a block just above an even share of the memory. -/
theorem forcesBlocks_of_toInt {reserved : Int64} (memory : 0 < p.maxSharedMemory.toInt)
    (nonneg : 0 ≤ blocks.toInt) (value : reserved.toInt = exactReservation p existing blocks) :
    ForcesBlocks p existing blocks reserved := by
  have positive : 0 < blocks.toInt + 1 := by omega
  have share : 0 ≤ p.maxSharedMemory.toInt / (blocks.toInt + 1) :=
    Int.ediv_nonneg (by omega) (by omega)
  have size : existing.toInt + reserved.toInt =
      p.maxSharedMemory.toInt / (blocks.toInt + 1) + 1 := by
    rw [value, exactReservation, Int.sub_mul_ediv_left _ _ (by omega)]
    omega
  have most := ediv_ediv_add_one_lt positive (Int.le_of_lt memory)
  have many := le_ediv_ediv_add_one_iff positive (Int.le_of_lt memory)
  have exactly : p.maxSharedMemory.toInt / (existing.toInt + reserved.toInt) = blocks.toInt ↔
      blocks.toInt ≤ p.maxSharedMemory.toInt / (blocks.toInt + 1) +
        p.maxSharedMemory.toInt % (blocks.toInt + 1) := by
    rw [size]
    omega
  refine ⟨?_, ?_, ?_, exactly, ?_⟩
  · intro x
    rw [lt_mul_add_iff positive, value, exactReservation]
  · omega
  · rw [size]
    omega
  · intro room
    have wide := (Int.le_ediv_iff_mul_le positive).mpr room
    have left := Int.emod_nonneg p.maxSharedMemory.toInt (Int.ne_of_gt positive)
    exact exactly.mpr (by omega)

/-- There is only one least reservation. -/
theorem ForcesBlocks.toInt_eq {reserved : Int64} (forces : ForcesBlocks p existing blocks reserved)
    (nonneg : 0 ≤ blocks.toInt) : reserved.toInt = exactReservation p existing blocks := by
  have atReserved := (forces.least reserved.toInt).mpr (Int.le_refl _)
  have below := mt (forces.least (reserved.toInt - 1)).mp (by omega)
  rw [lt_mul_add_iff (by omega)] at atReserved below
  rw [exactReservation]
  omega

theorem toInt_slots (slots : IsWord (blocks.toInt + 1)) :
    (blocks + 1).toInt = blocks.toInt + 1 := by
  rw [Int64.toInt_add, Int64.toInt_one, bmod_of_isWord slots]

/-- With slots that are a word nothing is divided by zero. -/
theorem reservation_of_slots (nonneg : 0 ≤ blocks.toInt) (slots : IsWord (blocks.toInt + 1)) :
    reservation p existing blocks = .ok (reservationFor p existing (blocks + 1)) := by
  have nonzero : blocks + 1 ≠ 0 := by
    rw [Ne, ← Int64.toInt_inj, toInt_slots slots, Int64.toInt_zero]
    omega
  rw [reservation, if_neg nonzero]

/-- Without an overflow the words compute the integers' answer. -/
theorem reservation_of_isWord (nonneg : 0 ≤ blocks.toInt)
    (product : IsWord ((blocks.toInt + 1) * existing.toInt))
    (rest : IsWord (p.maxSharedMemory.toInt - (blocks.toInt + 1) * existing.toInt))
    (slots : IsWord (blocks.toInt + 1)) (answer : IsWord (exactReservation p existing blocks)) :
    ∃ reserved, reservation p existing blocks = .ok reserved ∧
      reserved.toInt = exactReservation p existing blocks := by
  have next := toInt_slots slots
  have left : (p.maxSharedMemory - (blocks + 1) * existing).toInt =
      p.maxSharedMemory.toInt - (blocks.toInt + 1) * existing.toInt := by
    rw [Int64.toInt_sub, Int64.toInt_mul, next, bmod_of_isWord product, bmod_of_isWord rest]
  refine ⟨_, reservation_of_slots nonneg slots, ?_⟩
  rw [exactReservation] at answer
  rw [exactReservation, reservationFor, Int64.toInt_add, toInt_floorDiv _ _ (by omega), next, left,
    Int64.toInt_one, bmod_of_isWord answer]

/-- The quotient of a positive word and the smallest one lies between minus one and zero. -/
theorem floorDiv_minValue {a : Int64} (positive : 0 < a.toInt) :
    floorDiv a Int64.minValue = -1 := by
  have small := a.toInt_lt
  have low : Int64.minValue.toInt = -9223372036854775808 := rfl
  have quotient : a / Int64.minValue = 0 := by
    rw [← Int64.toInt_inj, Int64.toInt_div_of_ne_right _ _ (by decide), low, Int64.toInt_zero,
      Int.tdiv_neg, Int.tdiv_eq_zero_of_lt (by omega) (by omega), Int.neg_zero]
  have remainder : a % Int64.minValue ≠ 0 := by
    rw [Ne, ← Int64.toInt_inj, Int64.toInt_mod, low, Int64.toInt_zero, Int.tmod_neg,
      Int.tmod_eq_of_lt (by omega) (by omega)]
    omega
  have notBelow : ¬ a < 0 := by
    rw [Int64.lt_iff_toInt_lt, Int64.toInt_zero]
    omega
  have signs : decide (a < 0) ≠ decide (Int64.minValue < 0) := by
    rw [decide_eq_false notBelow]
    decide
  rw [floorDiv, if_pos ⟨remainder, signs⟩, quotient]
  rfl

/-- One slot more than the largest word counts as the smallest word, and then nothing is
reserved. -/
theorem reservation_maxValue (memory : 0 < p.maxSharedMemory.toInt) :
    reservation p 0 Int64.maxValue = .ok 0 := by
  have slots : Int64.maxValue + 1 = Int64.minValue := rfl
  rw [reservation, slots, if_neg (by decide), reservationFor, Int64.mul_zero, Int64.sub_zero,
    floorDiv_minValue memory]
  rfl

/-- Only a kernel without shared memory of its own has room for that many slots. -/
theorem existing_of_maxValue (memory : 0 < p.maxSharedMemory.toInt)
    (product : IsWord ((Int64.maxValue.toInt + 1) * existing.toInt))
    (rest : IsWord (p.maxSharedMemory.toInt - (Int64.maxValue.toInt + 1) * existing.toInt)) :
    existing = 0 := by
  have high : Int64.maxValue.toInt = 9223372036854775807 := rfl
  rw [high, isWord_iff] at product rest
  rw [← Int64.toInt_inj, Int64.toInt_zero]
  omega

/-- Where neither the memory of all slots nor what it leaves of a unit overflows, the reservation is
the least one and forces the block count, in all cases but two: the number of slots, or the
reservation itself, may be more than a word holds. -/
theorem reservesLeast_iff_fits (memory : 0 < p.maxSharedMemory.toInt) (nonneg : 0 ≤ blocks.toInt)
    (product : IsWord ((blocks.toInt + 1) * existing.toInt))
    (rest : IsWord (p.maxSharedMemory.toInt - (blocks.toInt + 1) * existing.toInt)) :
    ReservesLeast p existing blocks ↔
      IsWord (blocks.toInt + 1) ∧ IsWord (exactReservation p existing blocks) := by
  constructor
  · rintro ⟨reserved, answered, forces⟩
    constructor
    · by_cases largest : blocks = Int64.maxValue
      · subst largest
        obtain rfl := existing_of_maxValue memory product rest
        -- Nothing is reserved, and with that a block would take no memory at all.
        rw [reservation_maxValue memory] at answered
        cases answered
        have taken := forces.taken
        simp at taken
      · have below : blocks.toInt ≠ 9223372036854775807 := fun same =>
          largest (Int64.toInt_inj.mp same)
        have small := blocks.toInt_lt
        rw [isWord_iff]
        omega
    · rw [← forces.toInt_eq nonneg]
      exact isWord_toInt reserved
  · rintro ⟨slots, answer⟩
    obtain ⟨reserved, answered, value⟩ := reservation_of_isWord nonneg product rest slots answer
    exact ⟨reserved, answered, forcesBlocks_of_toInt memory nonneg value⟩

/-- A kernel that already takes more than a unit has: the reservation is negative. -/
theorem kepler_reservesLeast :
    IsWord ((1 + 1) * 65536) ∧ IsWord (49152 - (1 + 1) * 65536) ∧
      reservation .kepler 65536 1 = .ok (-40959) ∧ ReservesLeast .kepler 65536 1 := by
  refine ⟨by decide, by decide, rfl, ?_⟩
  exact (reservesLeast_iff_fits (by decide) (by decide) (by decide) (by decide)).mpr (by decide)

/-- Both ways out of a word: too many slots, and a reservation that is too large. -/
theorem kepler_not_reservesLeast :
    (IsWord ((Int64.maxValue.toInt + 1) * 0) ∧ IsWord (49152 - (Int64.maxValue.toInt + 1) * 0) ∧
      reservation .kepler 0 Int64.maxValue = .ok 0 ∧ ¬ ReservesLeast .kepler 0 Int64.maxValue) ∧
    (IsWord ((0 + 1) * (49152 - Int64.maxValue.toInt)) ∧
      IsWord (49152 - (0 + 1) * (49152 - Int64.maxValue.toInt)) ∧
      reservation .kepler (49152 - Int64.maxValue) 0 = .ok Int64.minValue ∧
      ¬ ReservesLeast .kepler (49152 - Int64.maxValue) 0) := by
  have wrapped : reservation .kepler 0 Int64.maxValue = .ok 0 := rfl
  have beyond : reservation .kepler (49152 - Int64.maxValue) 0 = .ok Int64.minValue := rfl
  refine ⟨⟨by decide, by decide, wrapped, ?_⟩, by decide, by decide, beyond, ?_⟩
  · rintro ⟨reserved, answered, forces⟩
    cases wrapped.symm.trans answered
    exact absurd forces.taken (by decide)
  · rintro ⟨reserved, answered, forces⟩
    cases beyond.symm.trans answered
    exact absurd forces.taken (by decide)

end KernelSweep.Occupancy
