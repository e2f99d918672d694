import KernelSweep.Proofs.Config.Problems
import KernelSweep.Proofs.Kernel

set_option autoImplicit false

namespace KernelSweep.Config

open Success

structure Accepted (c : Config) : Prop where
  suites : c.suites ≠ []
  kernels : ∀ s ∈ c.suites, s.kernels ≠ []
  entries : ∀ s ∈ c.suites, ∃ kernels, s.parsed = .ok kernels
  directions : c.directions ≠ []
  factors : c.factors ≠ []
  strides : c.strides ≠ []
  modelFactors : c.modelFactors ≠ []
  binder : ∀ applyModel inherited, ∃ spec b,
    c.binderSpec applyModel inherited = .ok spec ∧ spec.build = .ok b

/-- The mode and the parent decide two parts of what the binder is built from. -/
theorem binderSpec_of_mode {c : Config} {spec : BinderSpec}
    (made : c.binderSpec false [] = .ok spec) (applyModel : Bool) (inherited : List Text.Bytes) :
    c.binderSpec applyModel inherited =
      .ok { spec with
        maxFactor := if applyModel then Number.decimal c.maxCoarseningFactor else ""
        inherited } := by
  simp only [binderSpec, bind_eq_ok, pure_eq_ok] at made
  obtain ⟨profile, found, rfl⟩ := made
  simp only [binderSpec, bind_eq_ok, pure_eq_ok]
  exact ⟨profile, found, rfl⟩

/-- The binder that was tried, for either mode and below any parent. -/
theorem binderProblems_eq_nil {c : Config} (quiet : binderProblems c = []) (applyModel : Bool)
    (inherited : List Text.Bytes) :
    ∃ spec b, c.binderSpec applyModel inherited = .ok spec ∧ spec.build = .ok b := by
  unfold binderProblems at quiet
  cases tried : c.binderSpec false [] with
  | error e => simp [tried] at quiet
  | ok spec =>
    cases built : spec.build with
    | error e => simp [tried, built] at quiet
    | ok b =>
      -- The profile and the templates are those of the binder that was tried.
      obtain ⟨b', built'⟩ := BinderSpec.build_of_same built
        { spec with
          maxFactor := if applyModel then Number.decimal c.maxCoarseningFactor else ""
          inherited } rfl rfl
      exact ⟨_, b', binderSpec_of_mode tried applyModel inherited, built'⟩

theorem accepted_of_problems {c : Config} (quiet : c.problems = []) : c.Accepted := by
  rw [problems_eq, ← suitesProblems_eq] at quiet
  simp only [List.append_eq_nil_iff, suitesProblems_eq_nil_iff, List.flatten_eq_nil_iff,
    List.forall_mem_map, dimensionProblems_eq_nil_iff] at quiet
  obtain ⟨⟨⟨⟨listed, suites⟩, dimensions⟩, -⟩, binder⟩ := quiet
  have filled : ∀ d ∈ c.dimensions, d.values ≠ [] := fun d member => (dimensions d member).1
  simp only [Config.dimensions, List.forall_mem_cons] at filled
  obtain ⟨directions, factors, strides, modelFactors, -⟩ := filled
  exact ⟨by simpa using listed, fun s member => (suites s member).2.1,
    fun s member => Kernel.exists_parseAll_iff.mpr (suites s member).2.2, directions, factors,
    strides, modelFactors, binderProblems_eq_nil binder⟩

/-- No value of a dimension is listed twice. -/
theorem dimensions_nodup_of_problems {c : Config} (quiet : c.problems = []) :
    ∀ d ∈ c.dimensions, d.values.Nodup := by
  rw [problems_eq] at quiet
  simp only [List.append_eq_nil_iff, List.flatten_eq_nil_iff, List.forall_mem_map,
    dimensionProblems_eq_nil_iff] at quiet
  obtain ⟨⟨⟨-, dimensions⟩, -⟩, -⟩ := quiet
  exact fun d member => (dimensions d member).2.1

/-- Of the numbers, that they are above zero is all that is checked. -/
theorem scalars_pos_of_problems {c : Config} (quiet : c.problems = []) :
    ∀ s ∈ c.scalars, 0 < s.2 := by
  rw [problems_eq] at quiet
  simp only [List.append_eq_nil_iff, List.flatMap_eq_nil_iff] at quiet
  obtain ⟨⟨-, scalars⟩, -⟩ := quiet
  intro s member
  simpa using scalars s member

end KernelSweep.Config
