import KernelSweep.CommandLine.Run
import KernelSweep.Proofs.Config.Accepted
import KernelSweep.Proofs.Enumeration
import KernelSweep.Proofs.Kernel
import KernelSweep.Proofs.Sweep.Lockstep
import Mathlib.Algebra.GroupWithZero.Nat

set_option autoImplicit false

namespace KernelSweep

open Success

/-- Kernel entries of all suites. -/
def Config.entryCount (c : Config) : Nat := (c.suites.map fun s => s.kernels.length).sum

/-- The factors of a mode. -/
def Config.factorsFor (c : Config) (applyModel : Bool) : List String :=
  if applyModel then c.modelFactors else c.factors

/-- The group of a suite has its path and one kernel for each entry. -/
theorem Suite.group_eq_ok {s : Suite} {g : KernelGroup} (read : s.group = .ok g) :
    g.path = s.path ∧ g.kernels.length = s.kernels.length ∧ ∀ k ∈ g.kernels, k.suite = g.path := by
  obtain ⟨kernels, parsed, rfl⟩ := map_eq_ok.mp read
  have each := mapM_eq_ok.mp parsed
  refine ⟨rfl, each.length_eq.symm, ?_⟩
  intro k member
  obtain ⟨entry, -, parsed⟩ := exists_left_of_mem each member
  exact Kernel.suite_of_parse parsed

theorem Suite.exists_groups {suites : List Suite}
    (entries : ∀ s ∈ suites, ∃ kernels, s.parsed = .ok kernels) :
    ∃ groups, suites.mapM Suite.group = .ok groups := by
  induction suites with
  | nil => exact ⟨[], rfl⟩
  | cons first rest ih =>
    obtain ⟨kernels, parsed⟩ := entries first (by simp)
    obtain ⟨groups, later⟩ := ih fun s member => entries s (by simp [member])
    refine ⟨⟨first.path, kernels⟩ :: groups, mapM_eq_ok.mpr (.cons ?_ (mapM_eq_ok.mp later))⟩
    rw [Suite.group, parsed]
    rfl

/-- Reading loses no entry and adds none. -/
theorem Suite.kernelCounts_of_groups {suites : List Suite} {groups : List KernelGroup}
    (read : List.Forall₂ (fun suite g => suite.group = .ok g) suites groups) :
    (groups.map fun g => g.kernels.length) = suites.map fun suite => suite.kernels.length := by
  induction read with
  | nil => rfl
  | cons here _ ih => rw [List.map_cons, List.map_cons, ih, (Suite.group_eq_ok here).2.1]

namespace CommandLine

/-- What the commands see of a sweep made from a configuration: its jobs and how they are run. -/
structure PreparedFrom (c : Config) (applyModel : Bool) (s : Sweep) : Prop where
  groups : List.Forall₂ (fun suite g => suite.group = .ok g) c.suites s.groups
  settings : s.settings = c.grid applyModel

variable {c : Config} {applyModel : Bool} {inherited : List Text.Bytes} {execute : Executor}
  {s : Sweep}

theorem prepare_eq_ok_iff :
    prepare c applyModel inherited execute = .ok s ↔
      ∃ spec binder groups, c.binderSpec applyModel inherited = .ok spec ∧
        spec.build = .ok binder ∧ c.suites.mapM Suite.group = .ok groups ∧
        s = { execute, binder, groups
              settings := c.grid applyModel
              binaries := c.paths.binaries
              reduction := c.occupancyReduction
              reports := c.paths.reports } := by
  simp only [prepare, bind_eq_ok, mapError_eq_ok, SweepSpec.build]
  constructor
  · rintro ⟨spec, found, binder, built, made⟩
    split at made
    · cases made
    · rename_i groups read
      exact ⟨spec, binder, groups, found, built, read, (Except.ok.inj made).symm⟩
  · rintro ⟨spec, binder, groups, found, built, read, rfl⟩
    exact ⟨spec, found, binder, built, by rw [read]⟩

theorem preparedFrom_of_prepare (prepared : prepare c applyModel inherited execute = .ok s) :
    PreparedFrom c applyModel s := by
  obtain ⟨spec, binder, groups, -, -, read, rfl⟩ := prepare_eq_ok_iff.mp prepared
  exact ⟨mapM_eq_ok.mp read, rfl⟩

theorem prepare_withExecutor (prepared : prepare c applyModel inherited execute = .ok s)
    (other : Executor) : prepare c applyModel inherited other = .ok (s.withExecutor other) := by
  obtain ⟨spec, binder, groups, found, built, read, rfl⟩ := prepare_eq_ok_iff.mp prepared
  exact prepare_eq_ok_iff.mpr ⟨spec, binder, groups, found, built, read, rfl⟩

theorem prepare_of_accepted (accepted : c.Accepted) (applyModel : Bool)
    (inherited : List Text.Bytes) (execute : Executor) :
    ∃ s, prepare c applyModel inherited execute = .ok s := by
  obtain ⟨spec, binder, found, built⟩ := accepted.binder applyModel inherited
  obtain ⟨groups, read⟩ := Suite.exists_groups accepted.entries
  exact ⟨_, prepare_eq_ok_iff.mpr ⟨spec, binder, groups, found, built, read, rfl⟩⟩

namespace PreparedFrom

variable (prepared : PreparedFrom c applyModel s)
include prepared

theorem jobs_length :
    s.jobs.length = c.entryCount * c.directions.length * (c.factorsFor applyModel).length *
      c.strides.length := by
  rw [s.jobs_length, Suite.kernelCounts_of_groups prepared.groups, prepared.settings, Config.grid,
    Setting.grid_length, Setting.gridSize, Config.entryCount, Config.factorsFor]
  simp only [Nat.mul_assoc]

theorem jobs_ne_nil (accepted : c.Accepted) : s.jobs ≠ [] := by
  have factors : c.factorsFor applyModel ≠ [] := by
    cases applyModel with
    | false => exact accepted.factors
    | true => exact accepted.modelFactors
  have entries : 0 < c.entryCount := by
    obtain ⟨first, rest, suites⟩ := List.exists_cons_of_ne_nil accepted.suites
    have filled := List.length_pos_iff.mpr (accepted.kernels first (by rw [suites]; simp))
    rw [Config.entryCount, suites, List.map_cons, List.sum_cons]
    omega
  have positive : 0 < s.jobs.length := by
    rw [prepared.jobs_length]
    have directions := List.length_pos_iff.mpr accepted.directions
    have strides := List.length_pos_iff.mpr accepted.strides
    exact Nat.mul_pos (Nat.mul_pos (Nat.mul_pos entries directions)
      (List.length_pos_iff.mpr factors)) strides
  exact List.length_pos_iff.mp positive

/-- The suite of a job is the one its kernel was read for. -/
theorem suite_of_mem {job : Job} (member : job ∈ s.jobs) : job.kernel.suite = job.suite := by
  simp only [Sweep.jobs, List.mem_flatMap, List.mem_map] at member
  obtain ⟨g, known, k, inGroup, setting, -, rfl⟩ := member
  obtain ⟨suite, -, read⟩ := exists_left_of_mem prepared.groups known
  exact (Suite.group_eq_ok read).2.2 k inGroup

end PreparedFrom

end CommandLine

end KernelSweep
