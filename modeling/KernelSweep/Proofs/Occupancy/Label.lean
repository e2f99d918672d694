import KernelSweep.Proofs.Number.IntegerText
import KernelSweep.Proofs.Occupancy.Descent
import KernelSweep.Proofs.Text.Cuts

set_option autoImplicit false

namespace KernelSweep.Occupancy

open Number

section Reading

variable (blocks resident threads : Int64)

theorem cut_label :
    Text.cut '/' (label blocks resident threads) =
      (decimal blocks, some (decimal resident ++ "@" ++ decimal threads)) := by
  have parts : label blocks resident threads =
      decimal blocks ++ String.singleton '/' ++ (decimal resident ++ "@" ++ decimal threads) := by
    simp only [label, String.append_assoc]
    rfl
  rw [parts, Text.cut_append (not_mem_decimal (by decide) (by decide) blocks)]

theorem cut_resident :
    Text.cut '@' (decimal resident ++ "@" ++ decimal threads) =
      (decimal resident, some (decimal threads)) :=
  Text.cut_append (not_mem_decimal (by decide) (by decide) resident) (decimal threads)

end Reading

/-- Both separators are found again, since no number holds one. -/
theorem label_inj {blocks resident threads blocks' resident' threads' : Int64} :
    label blocks resident threads = label blocks' resident' threads' ↔
      blocks = blocks' ∧ resident = resident' ∧ threads = threads' := by
  constructor
  · intro same
    have outer := cut_label blocks resident threads
    rw [same, cut_label, Prod.mk.injEq, Option.some.injEq, decimal_inj] at outer
    have inner := cut_resident resident threads
    rw [← outer.2, cut_resident, Prod.mk.injEq, Option.some.injEq, decimal_inj, decimal_inj]
      at inner
    exact ⟨outer.1.symm, inner.1.symm, inner.2.symm⟩
  · rintro ⟨rfl, rfl, rfl⟩
    rfl

theorem unmeasuredLabel_eq : unmeasuredLabel = label 0 0 0 := rfl

/-- Some block is always resident, and without a report none is said to be. -/
theorem label_ne_unmeasuredLabel (r : Record) (p : Profile) (blocks threads : Int64) :
    label blocks (residentBlocks r p) threads ≠ unmeasuredLabel := by
  rw [unmeasuredLabel_eq, Ne, label_inj]
  rintro ⟨-, unmeasured, -⟩
  have occupied := residentBlocks_pos r p
  rw [unmeasured, Int64.toInt_zero] at occupied
  omega

section Plan

variable {r : Record} {p : Profile} {steps : List Step}

theorem label_of_mem_plan (valid : p.IsValid) (planned : plan r p = .ok steps) {s : Step}
    (member : s ∈ steps) : s.label = label s.blocks (residentBlocks r p) r.threads := by
  have shape := eq_stepAt_of_mem valid planned member
  rw [Step.label, congrArg Step.resident shape, congrArg Step.threads shape]
  rfl

/-- The counts fall along a plan, and the labels show them. -/
theorem nodup_labels_plan (valid : p.IsValid) (planned : plan r p = .ok steps) :
    (steps.map Step.label).Nodup := by
  obtain ⟨bound, bounded, -⟩ := lowerBound_of_valid p valid (residentBlocks r p)
  rw [List.Nodup, List.pairwise_map]
  apply (plan_falls valid bounded planned).imp
  intro s later fewer same
  rw [Step.label, Step.label, label_inj] at same
  rw [same.1] at fewer
  exact absurd fewer (Int.lt_irrefl _)

/-- Every step has fewer blocks than were measured. -/
theorem measuredLabel_not_mem_plan (valid : p.IsValid) (planned : plan r p = .ok steps) :
    measuredLabel r p ∉ steps.map Step.label := by
  intro repeated
  obtain ⟨s, member, same⟩ := List.mem_map.mp repeated
  obtain ⟨bound, bounded, -⟩ := lowerBound_of_valid p valid (residentBlocks r p)
  obtain ⟨-, -, below⟩ := (mem_plan valid bounded planned).1 s member
  rw [label_of_mem_plan valid planned member, measuredLabel, label_inj] at same
  rw [same.1] at below
  exact absurd below (Int.lt_irrefl _)

theorem nodup_labels (valid : p.IsValid) (planned : plan r p = .ok steps) :
    (measuredLabel r p :: steps.map Step.label).Nodup :=
  List.nodup_cons.mpr
    ⟨measuredLabel_not_mem_plan valid planned, nodup_labels_plan valid planned⟩

theorem unmeasuredLabel_not_mem (valid : p.IsValid) (planned : plan r p = .ok steps) :
    unmeasuredLabel ∉ measuredLabel r p :: steps.map Step.label := by
  rw [List.mem_cons, List.mem_map]
  rintro (same | ⟨s, member, same⟩)
  · exact label_ne_unmeasuredLabel r p _ _ same.symm
  · rw [label_of_mem_plan valid planned member] at same
    exact label_ne_unmeasuredLabel r p _ _ same

end Plan

end KernelSweep.Occupancy
