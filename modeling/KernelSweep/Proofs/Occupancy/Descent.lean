import KernelSweep.Proofs.Occupancy.Launch

set_option autoImplicit false

namespace KernelSweep.Occupancy

open Number

/-- A count that starts at `k` and goes down by one, in words, for as long as it is above the
bound. -/
inductive CountsDown (bound : Int64) : Int64 → List Int64 → Prop
  | reached {k : Int64} (low : k ≤ bound) : CountsDown bound k []
  | step {k : Int64} {rest : List Int64} (above : bound < k)
      (later : CountsDown bound (k - 1) rest) : CountsDown bound k (k :: rest)

section Counting

variable {bound top : Int64} {count : Nat}

theorem toInt_sub_one (above : bound.toInt < top.toInt) : (top - 1).toInt = top.toInt - 1 := by
  have low := bound.le_toInt
  have high := top.toInt_lt
  have fits : IsWord (top.toInt - 1) := by
    rw [isWord_iff]
    omega
  rw [Int64.toInt_sub, Int64.toInt_one, bmod_of_isWord fits]

theorem descending_succ (top : Int64) (count : Nat) :
    descending top (count + 1) = top :: descending (top - 1) count := by
  have first : top - Int64.ofNat 0 = top := Int64.sub_zero top
  have next : ∀ i : Nat, top - Int64.ofNat (i + 1) = top - 1 - Int64.ofNat i := by
    intro i
    rw [Int64.ofNat_add, show Int64.ofNat 1 = 1 from rfl]
    grind
  simp only [descending, List.range_succ_eq_map, List.map_cons, List.map_map, first,
    Function.comp_def, next]

/-- The list of the plan is what the loop goes through. -/
theorem countsDown_descending (distance : top.toInt = bound.toInt + count) :
    CountsDown bound top (descending top count) := by
  induction count generalizing top with
  | zero =>
    apply CountsDown.reached
    rw [Int64.le_iff_toInt_le]
    omega
  | succ count ih =>
    have above : bound.toInt < top.toInt := by omega
    rw [descending_succ]
    apply CountsDown.step
    · exact Int64.lt_iff_toInt_lt.mpr above
    · apply ih
      rw [toInt_sub_one above]
      omega

theorem map_toInt_descending (enough : (count : Int) ≤ top.toInt + 1) :
    (descending top count).map Int64.toInt =
      (List.range count).map fun i : Nat => top.toInt - i := by
  rw [descending, List.map_map]
  apply List.map_congr_left
  intro i member
  rw [List.mem_range] at member
  exact toInt_sub_ofNat (by omega)

end Counting

section Reserved

variable {p : Profile} {existing blocks : Int64} (nonneg : 0 ≤ blocks.toInt)
include nonneg

/-- A divisor that is smaller makes no smaller share. -/
theorem share_le_share {memory : Int} {fewer : Int64} (shared : 0 ≤ memory)
    (zero : 0 ≤ fewer.toInt) (less : fewer.toInt ≤ blocks.toInt) :
    memory / (blocks.toInt + 1) ≤ memory / (fewer.toInt + 1) := by
  have share : 0 ≤ memory / (blocks.toInt + 1) := Int.ediv_nonneg shared (by omega)
  rw [Int.le_ediv_iff_mul_le (by omega)]
  calc memory / (blocks.toInt + 1) * (fewer.toInt + 1)
      ≤ memory / (blocks.toInt + 1) * (blocks.toInt + 1) :=
        Int.mul_le_mul_of_nonneg_left (by omega) share
    _ ≤ memory := Int.ediv_mul_le memory (by omega)

theorem exactReservation_eq :
    exactReservation p existing blocks =
      p.maxSharedMemory.toInt / (blocks.toInt + 1) + 1 - existing.toInt := by
  have share := add_share nonneg existing.toInt p.maxSharedMemory.toInt
  rw [exactReservation]
  omega

/-- Something is reserved exactly when the slots fit without it. -/
theorem one_le_exactReservation_iff :
    1 ≤ exactReservation p existing blocks ↔
      (blocks.toInt + 1) * existing.toInt ≤ p.maxSharedMemory.toInt := by
  have least : p.maxSharedMemory.toInt < (blocks.toInt + 1) * (existing.toInt + 0) ↔
      exactReservation p existing blocks ≤ 0 := lt_mul_add_iff (by omega) existing.toInt 0
  rw [Int.add_zero] at least
  omega

/-- The reservation is a word: with two slots the unit is halved, and for a single one there has to
be a byte left. -/
theorem toInt_reservationFor_of_own (slots : IsWord (blocks.toInt + 1))
    (own : 0 ≤ existing.toInt) (product : IsWord ((blocks.toInt + 1) * existing.toInt))
    (memory : 0 < p.maxSharedMemory.toInt)
    (room : 1 ≤ blocks.toInt ∨ p.maxSharedMemory.toInt < 9223372036854775807) :
    (reservationFor p existing (blocks + 1)).toInt = exactReservation p existing blocks := by
  have high := p.maxSharedMemory.toInt_lt
  have taken : 0 ≤ (blocks.toInt + 1) * existing.toInt := Int.mul_nonneg (by omega) own
  have rest : IsWord (p.maxSharedMemory.toInt - (blocks.toInt + 1) * existing.toInt) := by
    rw [isWord_iff] at product ⊢
    omega
  have answer : IsWord (exactReservation p existing blocks) := by
    have small : p.maxSharedMemory.toInt / (blocks.toInt + 1) < 9223372036854775807 := by
      rw [Int.ediv_lt_iff_lt_mul (by omega)]
      omega
    have share : 0 ≤ p.maxSharedMemory.toInt / (blocks.toInt + 1) :=
      Int.ediv_nonneg (by omega) (by omega)
    have limit := existing.toInt_lt
    rw [exactReservation_eq nonneg, isWord_iff]
    omega
  obtain ⟨reserved, answered, value⟩ := reservation_of_isWord nonneg product rest slots answer
  rw [reservation_of_slots nonneg slots] at answered
  cases answered
  exact value

end Reserved

/-- What a plan is, step by step, between its lower bound and the resident blocks. -/
structure Descends (r : Record) (p : Profile) (bound : Int64) (steps : List Step) : Prop where
  occupied : 1 ≤ residentBlocks r p
  atLeast : -1 ≤ bound
  below : bound < residentBlocks r p
  loop : CountsDown bound (residentBlocks r p - 1) (steps.map Step.blocks)
  /-- One block less each time, and no count left out or met twice. -/
  counts : (steps.map fun s => s.blocks.toInt) =
    (List.range ((residentBlocks r p).toInt - 1 - bound.toInt).toNat).map fun i : Nat =>
      (residentBlocks r p).toInt - 1 - i
  each : ∀ s ∈ steps, s.resident = residentBlocks r p ∧ s.threads = r.threads ∧
    reservation p r.sharedMemory s.blocks = .ok s.reserved
  /-- What is divided by, for the bound and for the reservations. -/
  divisors : 0 < p.maxBlockMemory ∧ ∀ s ∈ steps, 0 < s.blocks + 1
  rising : 0 ≤ r.sharedMemory →
    IsWord ((residentBlocks r p).toInt * r.sharedMemory.toInt) →
    steps.Pairwise fun s later => s.reserved ≤ later.reserved
  positive : 0 ≤ r.sharedMemory →
    IsWord ((residentBlocks r p).toInt * r.sharedMemory.toInt) →
    ((∀ s ∈ steps, 1 ≤ s.reserved) ↔
      steps = [] ∨ (residentBlocks r p).toInt * r.sharedMemory.toInt ≤ p.maxSharedMemory.toInt)

section Plan

variable {r : Record} {p : Profile} {bound : Int64} {steps : List Step}

theorem lowerBound_lt_resident (valid : p.IsValid)
    (bounded : lowerBound p (residentBlocks r p) = .ok bound) :
    bound.toInt < (residentBlocks r p).toInt := by
  have occupied := residentBlocks_pos r p
  rw [toInt_lowerBound valid bounded]
  split <;> omega

/-- A step that leaves no block has the bound below zero, and then a block may take more than the
unit has: the unit is not of the largest size. -/
theorem room_of_lowerBound (valid : p.IsValid)
    (bounded : lowerBound p (residentBlocks r p) = .ok bound) {blocks : Int64}
    (above : bound.toInt < blocks.toInt) :
    1 ≤ blocks.toInt ∨ p.maxSharedMemory.toInt < 9223372036854775807 := by
  have limit : 0 < p.maxBlockMemory.toInt := toInt_pos (valid .blockMemory)
  have high := p.maxBlockMemory.toInt_lt
  have split := Int.ediv_lt_iff_lt_mul (a := p.maxSharedMemory.toInt) (b := 1) limit
  rw [toInt_lowerBound valid bounded] at above
  split at above <;> omega

/-- The steps of a plan, with the count of each between the bound and the resident blocks. -/
theorem mem_plan (valid : p.IsValid) (bounded : lowerBound p (residentBlocks r p) = .ok bound)
    (planned : plan r p = .ok steps) :
    (∀ s ∈ steps, s = stepAt r p s.blocks ∧ bound.toInt < s.blocks.toInt ∧
      s.blocks.toInt < (residentBlocks r p).toInt) ∧
    (steps ≠ [] → ∃ s ∈ steps, s.blocks.toInt = (residentBlocks r p).toInt - 1) := by
  obtain ⟨bound', steps', bounded', planned', blocks⟩ := plan_blocks r valid
  cases bounded.symm.trans bounded'
  cases planned.symm.trans planned'
  have between : ∀ s ∈ steps, bound.toInt < s.blocks.toInt ∧
      s.blocks.toInt < (residentBlocks r p).toInt := fun s member =>
    (blocks _).mp (List.mem_map.mpr ⟨s, member, rfl⟩)
  refine ⟨fun s member => ⟨eq_stepAt_of_mem valid planned member, between s member⟩, ?_⟩
  intro filled
  obtain ⟨s, member⟩ := List.exists_mem_of_ne_nil steps filled
  have inside := between s member
  obtain ⟨first, known, count⟩ :=
    List.mem_map.mp ((blocks ((residentBlocks r p).toInt - 1)).mpr (by omega))
  exact ⟨first, known, count⟩

theorem map_blocks_plan (bounded : lowerBound p (residentBlocks r p) = .ok bound)
    (atLeast : -1 ≤ bound.toInt) (planned : plan r p = .ok steps) :
    steps.map Step.blocks = descending (residentBlocks r p - 1)
      ((residentBlocks r p).toInt - 1 - bound.toInt).toNat := by
  cases planned.symm.trans (plan_of_lowerBound bounded atLeast)
  rw [List.map_map]
  exact List.map_id _

section Found

variable (valid : p.IsValid) (bounded : lowerBound p (residentBlocks r p) = .ok bound)
  (planned : plan r p = .ok steps)
include valid bounded planned

theorem nonneg_of_mem_plan {s : Step} (member : s ∈ steps) : 0 ≤ s.blocks.toInt := by
  obtain ⟨bound', bounded', atLeast⟩ := lowerBound_of_valid p valid (residentBlocks r p)
  cases bounded.symm.trans bounded'
  obtain ⟨-, above, -⟩ := (mem_plan valid bounded planned).1 s member
  omega

theorem slots_of_mem_plan {s : Step} (member : s ∈ steps) : IsWord (s.blocks.toInt + 1) := by
  have nonneg := nonneg_of_mem_plan valid bounded planned member
  have high := (residentBlocks r p).toInt_lt
  obtain ⟨-, -, below⟩ := (mem_plan valid bounded planned).1 s member
  rw [isWord_iff]
  omega

/-- The slots of a step are no more than the resident blocks, so their memory does not overflow
either, and the words give the exact reservation. -/
theorem toInt_reserved_of_mem_plan (own : 0 ≤ r.sharedMemory.toInt)
    (fits : IsWord ((residentBlocks r p).toInt * r.sharedMemory.toInt)) {s : Step}
    (member : s ∈ steps) : s.reserved.toInt = exactReservation p r.sharedMemory s.blocks := by
  have nonneg := nonneg_of_mem_plan valid bounded planned member
  obtain ⟨shape, above, below⟩ := (mem_plan valid bounded planned).1 s member
  have taken : 0 ≤ (s.blocks.toInt + 1) * r.sharedMemory.toInt := Int.mul_nonneg (by omega) own
  have less : (s.blocks.toInt + 1) * r.sharedMemory.toInt ≤
      (residentBlocks r p).toInt * r.sharedMemory.toInt :=
    Int.mul_le_mul_of_nonneg_right (by omega) own
  have product : IsWord ((s.blocks.toInt + 1) * r.sharedMemory.toInt) := by
    rw [isWord_iff] at fits ⊢
    omega
  have reserved : s.reserved = reservationFor p r.sharedMemory (s.blocks + 1) :=
    congrArg Step.reserved shape
  rw [reserved]
  exact toInt_reservationFor_of_own nonneg (slots_of_mem_plan valid bounded planned member) own
    product (toInt_pos (valid .sharedMemory)) (room_of_lowerBound valid bounded above)

theorem counts_of_plan :
    (steps.map fun s => s.blocks.toInt) =
      (List.range ((residentBlocks r p).toInt - 1 - bound.toInt).toNat).map fun i : Nat =>
        (residentBlocks r p).toInt - 1 - i := by
  obtain ⟨bound', bounded', atLeast⟩ := lowerBound_of_valid p valid (residentBlocks r p)
  cases bounded.symm.trans bounded'
  have occupied := residentBlocks_pos r p
  have top := toInt_sub_one (lowerBound_lt_resident valid bounded)
  have words : (steps.map fun s => s.blocks.toInt) = (steps.map Step.blocks).map Int64.toInt := by
    rw [List.map_map]
    rfl
  rw [words, map_blocks_plan bounded atLeast planned, map_toInt_descending (by omega), top]

theorem plan_falls : steps.Pairwise fun s later => later.blocks.toInt < s.blocks.toInt := by
  have counts : (steps.map fun s => s.blocks.toInt).Pairwise (· > ·) := by
    rw [counts_of_plan valid bounded planned, List.pairwise_map]
    apply List.pairwise_lt_range.imp
    intro i j before
    omega
  exact List.pairwise_map.mp counts

/-- With fewer blocks the share of each is larger, and what it has already stays the same. -/
theorem plan_rises (own : 0 ≤ r.sharedMemory.toInt)
    (fits : IsWord ((residentBlocks r p).toInt * r.sharedMemory.toInt)) :
    steps.Pairwise fun s later => s.reserved ≤ later.reserved := by
  have memory : 0 < p.maxSharedMemory.toInt := toInt_pos (valid .sharedMemory)
  apply (plan_falls valid bounded planned).imp_of_mem
  intro s later member member' fewer
  have nonneg := nonneg_of_mem_plan valid bounded planned member
  have nonneg' := nonneg_of_mem_plan valid bounded planned member'
  have share := share_le_share nonneg (Int.le_of_lt memory) nonneg' (Int.le_of_lt fewer)
  rw [Int64.le_iff_toInt_le, toInt_reserved_of_mem_plan valid bounded planned own fits member,
    toInt_reserved_of_mem_plan valid bounded planned own fits member',
    exactReservation_eq nonneg, exactReservation_eq nonneg']
  omega

/-- The first step has as many slots as there are resident blocks, the later ones have fewer. -/
theorem plan_reserves_iff (own : 0 ≤ r.sharedMemory.toInt)
    (fits : IsWord ((residentBlocks r p).toInt * r.sharedMemory.toInt)) :
    (∀ s ∈ steps, 1 ≤ s.reserved) ↔
      steps = [] ∨
        (residentBlocks r p).toInt * r.sharedMemory.toInt ≤ p.maxSharedMemory.toInt := by
  have reserves : ∀ s ∈ steps, 1 ≤ s.reserved ↔
      (s.blocks.toInt + 1) * r.sharedMemory.toInt ≤ p.maxSharedMemory.toInt := by
    intro s member
    rw [Int64.le_iff_toInt_le, Int64.toInt_one,
      toInt_reserved_of_mem_plan valid bounded planned own fits member,
      one_le_exactReservation_iff (nonneg_of_mem_plan valid bounded planned member)]
  constructor
  · intro all
    by_cases filled : steps = []
    · exact .inl filled
    · obtain ⟨first, member, count⟩ := (mem_plan valid bounded planned).2 filled
      have room := (reserves first member).mp (all first member)
      rw [count, Int.sub_add_cancel] at room
      exact .inr room
  · rintro (rfl | room) s member
    · cases member
    · obtain ⟨-, -, below⟩ := (mem_plan valid bounded planned).1 s member
      have less : (s.blocks.toInt + 1) * r.sharedMemory.toInt ≤
          (residentBlocks r p).toInt * r.sharedMemory.toInt :=
        Int.mul_le_mul_of_nonneg_right (by omega) own
      exact (reserves s member).mpr (Int.le_trans less room)

theorem descends_of_plan : Descends r p bound steps := by
  obtain ⟨bound', bounded', atLeast⟩ := lowerBound_of_valid p valid (residentBlocks r p)
  cases bounded.symm.trans bounded'
  have occupied := residentBlocks_pos r p
  have below := lowerBound_lt_resident valid bounded
  have slots : ∀ s ∈ steps, 0 < s.blocks + 1 := by
    intro s member
    have nonneg := nonneg_of_mem_plan valid bounded planned member
    rw [Int64.lt_iff_toInt_lt, Int64.toInt_zero,
      toInt_slots (slots_of_mem_plan valid bounded planned member)]
    omega
  refine ⟨?_, ?_, Int64.lt_iff_toInt_lt.mpr below, ?_, counts_of_plan valid bounded planned, ?_,
    ⟨valid .blockMemory, slots⟩, ?_, ?_⟩
  · rw [Int64.le_iff_toInt_le, Int64.toInt_one]
    exact occupied
  · rw [Int64.le_iff_toInt_le]
    exact atLeast
  · rw [map_blocks_plan bounded atLeast planned]
    apply countsDown_descending
    rw [toInt_sub_one below]
    omega
  · intro s member
    obtain ⟨shape, -⟩ := (mem_plan valid bounded planned).1 s member
    refine ⟨congrArg Step.resident shape, congrArg Step.threads shape, ?_⟩
    rw [reservation_of_slots (nonneg_of_mem_plan valid bounded planned member)
      (slots_of_mem_plan valid bounded planned member)]
    exact congrArg Except.ok (congrArg Step.reserved shape).symm
  · intro own fits
    rw [Int64.le_iff_toInt_le, Int64.toInt_zero] at own
    exact plan_rises valid bounded planned own fits
  · intro own fits
    rw [Int64.le_iff_toInt_le, Int64.toInt_zero] at own
    exact plan_reserves_iff valid bounded planned own fits

end Found

end Plan

/-- Under every profile that passes validation and for every record there is a plan, and it goes
down from just below the resident blocks as described. That what the resident blocks leave of the
unit is a word follows from their memory being one. -/
theorem plan_descends (r : Record) (p : Profile) (accepted : p.validate = .ok ()) :
    ∃ bound steps, lowerBound p (residentBlocks r p) = .ok bound ∧ plan r p = .ok steps ∧
      Descends r p bound steps := by
  have valid := p.validate_eq_ok_iff.mp accepted
  obtain ⟨bound, bounded, -⟩ := lowerBound_of_valid p valid (residentBlocks r p)
  obtain ⟨steps, planned⟩ := plan_of_valid r p valid
  exact ⟨bound, steps, bounded, planned, descends_of_plan valid bounded planned⟩

/-- Four blocks of 512 threads that have more memory than a unit. -/
def heavyRecord : Record := ⟨30000, 512, .ofInt 1⟩

/-- The step to three blocks would have to give memory back, the one to two reserves some. -/
theorem heavy_descends :
    Profile.pascal.validate = .ok () ∧
      plan heavyRecord .pascal = .ok [⟨3, 4, 512, -5423⟩, ⟨2, 4, 512, 2769⟩] ∧
      Descends heavyRecord .pascal 1 [⟨3, 4, 512, -5423⟩, ⟨2, 4, 512, 2769⟩] := by
  have two : plan heavyRecord .pascal = .ok [⟨3, 4, 512, -5423⟩, ⟨2, 4, 512, 2769⟩] := by rfl
  have one : lowerBound .pascal (residentBlocks heavyRecord .pascal) = .ok 1 := by rfl
  obtain ⟨bound, steps, bounded, planned, descends⟩ := plan_descends heavyRecord .pascal rfl
  cases one.symm.trans bounded
  cases two.symm.trans planned
  exact ⟨rfl, two, descends⟩

end KernelSweep.Occupancy
