import KernelSweep.Sweep.Basic
import Mathlib.Algebra.BigOperators.Ring.List
import Mathlib.Algebra.Ring.Nat
import Mathlib.Data.List.Nodup

set_option autoImplicit false

namespace KernelSweep

namespace Rows

variable {α β : Type} {row : α → List β} {xs : List α} {n : Nat} {y : β}

/-- How many elements stand before a row, when the rows are put one behind the other. -/
def before (row : α → List β) (xs : List α) (i : Nat) : Nat :=
  ((xs.take i).map fun x => (row x).length).sum

theorem before_zero : before row xs 0 = 0 := by
  rw [before, List.take_zero, List.map_nil, List.sum_nil]

theorem before_succ (x : α) (i : Nat) :
    before row (x :: xs) (i + 1) = (row x).length + before row xs i := by
  rw [before, List.take_succ_cons, List.map_cons, List.sum_cons, before]

theorem getElem?_flatMap_iff :
    (xs.flatMap row)[n]? = some y ↔
      ∃ i x j, xs[i]? = some x ∧ (row x)[j]? = some y ∧ n = before row xs i + j := by
  induction xs generalizing n with
  | nil => simp
  | cons x rest ih =>
    rw [List.flatMap_cons]
    constructor
    · intro found
      by_cases first : n < (row x).length
      · rw [List.getElem?_append_left first] at found
        exact ⟨0, x, n, rfl, found, by rw [before_zero, Nat.zero_add]⟩
      · rw [List.getElem?_append_right (Nat.le_of_not_lt first)] at found
        obtain ⟨i, x', j, known, here, place⟩ := ih.mp found
        refine ⟨i + 1, x', j, known, here, ?_⟩
        rw [before_succ]
        omega
    · rintro ⟨i, x', j, known, here, rfl⟩
      cases i with
      | zero =>
        obtain rfl : x = x' := Option.some.inj known
        have within : j < (row x).length := (List.getElem?_eq_some_iff.mp here).1
        rw [before_zero, Nat.zero_add, List.getElem?_append_left within]
        exact here
      | succ i =>
        rw [before_succ, Nat.add_assoc, List.getElem?_append_right (Nat.le_add_right ..),
          Nat.add_sub_cancel_left]
        exact ih.mpr ⟨i, x', j, known, here, rfl⟩

theorem before_of_width {width : Nat} (same : ∀ x, (row x).length = width) {i : Nat}
    (within : i ≤ xs.length) : before row xs i = i * width := by
  simp only [before, same, List.map_const', List.sum_replicate_nat, List.length_take,
    Nat.min_eq_left within]

/-- Rows of one length: the place in the list is read off like a number of two digits. -/
theorem getElem?_flatMap_of_width {width : Nat} (same : ∀ x, (row x).length = width) :
    (xs.flatMap row)[n]? = some y ↔
      ∃ i x j, xs[i]? = some x ∧ (row x)[j]? = some y ∧ n = i * width + j := by
  have place : ∀ {i : Nat} {x : α}, xs[i]? = some x → before row xs i = i * width := by
    intro i x known
    exact before_of_width same (Nat.le_of_lt (List.getElem?_eq_some_iff.mp known).1)
  rw [getElem?_flatMap_iff]
  constructor
  · rintro ⟨i, x, j, known, here, rfl⟩
    exact ⟨i, x, j, known, here, by rw [place known]⟩
  · rintro ⟨i, x, j, known, here, rfl⟩
    exact ⟨i, x, j, known, here, by rw [place known]⟩

/-- Rows whose elements tell which row they are in, none of them empty: nothing is repeated in the
list exactly when nothing is repeated among the rows and in each of them. -/
theorem nodup_flatMap_iff_of_label {label : β → α} (told : ∀ x, ∀ y ∈ row x, label y = x)
    (filled : ∀ x, row x ≠ []) :
    (xs.flatMap row).Nodup ↔ xs.Nodup ∧ ∀ x ∈ xs, (row x).Nodup := by
  have apart : ∀ x x', List.Disjoint (row x) (row x') ↔ x ≠ x' := by
    intro x x'
    constructor
    · rintro disjoint rfl
      obtain ⟨y, member⟩ := List.exists_mem_of_ne_nil _ (filled x)
      exact disjoint member member
    · intro different y member member'
      exact different ((told x y member).symm.trans (told x' y member'))
  rw [List.nodup_flatMap, and_comm]
  refine and_congr_left fun _ => ?_
  exact List.Pairwise.iff apart

end Rows

open Rows

namespace Setting

variable {directions factors strides : List String} {n : Nat} {s : Setting}

/-- The settings of one direction. -/
def plane (factors strides : List String) (direction : String) : List Setting :=
  factors.flatMap fun factor => strides.map fun stride => ⟨direction, factor, stride⟩

theorem grid_eq (directions factors strides : List String) :
    grid directions factors strides = directions.flatMap (plane factors strides) := rfl

theorem mem_plane_iff {direction : String} :
    s ∈ plane factors strides direction ↔
      s.direction = direction ∧ s.factor ∈ factors ∧ s.stride ∈ strides := by
  simp only [plane, List.mem_flatMap, List.mem_map]
  constructor
  · rintro ⟨factor, known, stride, known', rfl⟩
    exact ⟨rfl, known, known'⟩
  · rintro ⟨rfl, known, known'⟩
    exact ⟨s.factor, known, s.stride, known', rfl⟩

theorem mem_grid_iff :
    s ∈ grid directions factors strides ↔
      s.direction ∈ directions ∧ s.factor ∈ factors ∧ s.stride ∈ strides := by
  simp only [grid_eq, List.mem_flatMap, mem_plane_iff]
  constructor
  · rintro ⟨direction, known, rfl, rest⟩
    exact ⟨known, rest⟩
  · rintro ⟨known, rest⟩
    exact ⟨s.direction, known, rfl, rest⟩

theorem length_plane (factors strides : List String) (direction : String) :
    (plane factors strides direction).length = factors.length * strides.length := by
  simp only [plane, List.length_flatMap, List.length_map, List.map_const', List.sum_replicate_nat]

theorem plane_getElem?_iff {direction : String} :
    (plane factors strides direction)[n]? = some s ↔
      ∃ j factor k stride, factors[j]? = some factor ∧ strides[k]? = some stride ∧
        s = ⟨direction, factor, stride⟩ ∧ n = j * strides.length + k := by
  rw [plane, getElem?_flatMap_of_width fun factor => List.length_map _]
  constructor
  · rintro ⟨j, factor, k, known, here, place⟩
    rw [List.getElem?_map, Option.map_eq_some_iff] at here
    obtain ⟨stride, known', rfl⟩ := here
    exact ⟨j, factor, k, stride, known, known', rfl, place⟩
  · rintro ⟨j, factor, k, stride, known, known', rfl, place⟩
    exact ⟨j, factor, k, known, by rw [List.getElem?_map, known']; rfl, place⟩

/-- The place of a setting in the grid is read off like a number of three digits. -/
theorem grid_getElem?_iff :
    (grid directions factors strides)[n]? = some s ↔
      ∃ i direction j factor k stride, directions[i]? = some direction ∧
        factors[j]? = some factor ∧ strides[k]? = some stride ∧ s = ⟨direction, factor, stride⟩ ∧
        n = (i * factors.length + j) * strides.length + k := by
  rw [grid_eq, getElem?_flatMap_of_width (length_plane factors strides)]
  constructor
  · rintro ⟨i, direction, _, known, here, rfl⟩
    obtain ⟨j, factor, k, stride, known', known'', rfl, rfl⟩ := plane_getElem?_iff.mp here
    refine ⟨i, direction, j, factor, k, stride, known, known', known'', rfl, ?_⟩
    rw [Nat.add_mul, Nat.mul_assoc, Nat.add_assoc]
  · rintro ⟨i, direction, j, factor, k, stride, known, known', known'', rfl, rfl⟩
    refine ⟨i, direction, j * strides.length + k, known, ?_, ?_⟩
    · exact plane_getElem?_iff.mpr ⟨j, factor, k, stride, known', known'', rfl, rfl⟩
    · rw [Nat.add_mul, Nat.mul_assoc, Nat.add_assoc]

theorem nodup_plane_iff (filled : strides ≠ []) (direction : String) :
    (plane factors strides direction).Nodup ↔
      factors.Nodup ∧ ∀ factor ∈ factors, strides.Nodup := by
  have told : ∀ factor, ∀ s ∈ strides.map fun stride => (⟨direction, factor, stride⟩ : Setting),
      s.factor = factor := by
    intro factor s member
    obtain ⟨stride, -, rfl⟩ := List.mem_map.mp member
    rfl
  rw [plane, nodup_flatMap_iff_of_label told fun factor => by simpa using filled]
  refine and_congr_right fun _ => forall₂_congr fun factor _ => ?_
  exact List.nodup_map_iff fun stride stride' same => congrArg Setting.stride same

theorem grid_eq_nil_iff :
    grid directions factors strides = [] ↔ directions = [] ∨ factors = [] ∨ strides = [] := by
  rw [← List.length_eq_zero_iff, grid_length, gridSize]
  simp only [Nat.mul_eq_zero, List.length_eq_zero_iff, or_assoc]

theorem nodup_grid_iff_of_filled (directed : directions ≠ []) (factored : factors ≠ [])
    (strided : strides ≠ []) :
    (grid directions factors strides).Nodup ↔
      directions.Nodup ∧ factors.Nodup ∧ strides.Nodup := by
  have told : ∀ direction, ∀ s ∈ plane factors strides direction, s.direction = direction := by
    intro direction s member
    exact (mem_plane_iff.mp member).1
  have planes : ∀ direction, plane factors strides direction ≠ [] := by
    intro direction
    rw [← List.length_pos_iff, length_plane]
    exact Nat.mul_pos (List.length_pos_iff.mpr factored) (List.length_pos_iff.mpr strided)
  obtain ⟨direction, member⟩ := List.exists_mem_of_ne_nil _ directed
  obtain ⟨factor, member'⟩ := List.exists_mem_of_ne_nil _ factored
  rw [grid_eq, nodup_flatMap_iff_of_label told planes]
  simp only [nodup_plane_iff strided]
  constructor
  · rintro ⟨distinct, rest⟩
    exact ⟨distinct, (rest direction member).1, (rest direction member).2 factor member'⟩
  · rintro ⟨distinct, distinct', distinct''⟩
    exact ⟨distinct, fun _ _ => ⟨distinct', fun _ _ => distinct''⟩⟩

/-- Nothing is repeated in the grid if nothing is repeated in any of its dimensions. -/
theorem nodup_grid (distinct : directions.Nodup) (distinct' : factors.Nodup)
    (distinct'' : strides.Nodup) : (grid directions factors strides).Nodup := by
  by_cases empty : grid directions factors strides = []
  · rw [empty]
    exact List.nodup_nil
  · simp only [grid_eq_nil_iff, not_or] at empty
    obtain ⟨directed, factored, strided⟩ := empty
    exact (nodup_grid_iff_of_filled directed factored strided).mpr ⟨distinct, distinct', distinct''⟩

/-- A list of settings goes through three dimensions: every combination has its place, which the
places of its three values make up, and nothing else is in the list. -/
structure Enumerates (directions factors strides : List String) (settings : List Setting) :
    Prop where
  length : settings.length = directions.length * factors.length * strides.length
  place : ∀ (i j k : Nat) (direction factor stride : String), directions[i]? = some direction →
    factors[j]? = some factor → strides[k]? = some stride →
      settings[(i * factors.length + j) * strides.length + k]? = some ⟨direction, factor, stride⟩
  distinct : directions ≠ [] → factors ≠ [] → strides ≠ [] →
    (settings.Nodup ↔ directions.Nodup ∧ factors.Nodup ∧ strides.Nodup)

theorem enumerates_grid (directions factors strides : List String) :
    Enumerates directions factors strides (grid directions factors strides) where
  length := grid_length ..
  place i j k direction factor stride known known' known'' :=
    grid_getElem?_iff.mpr ⟨i, direction, j, factor, k, stride, known, known', known'', rfl, rfl⟩
  distinct := nodup_grid_iff_of_filled

end Setting

namespace Sweep

variable (s : Sweep)

/-- The jobs of one suite. -/
def groupJobs (group : KernelGroup) : List Job :=
  group.kernels.flatMap fun kernel => s.settings.map fun setting => ⟨group.path, kernel, setting⟩

theorem jobs_eq : s.jobs = s.groups.flatMap s.groupJobs := rfl

theorem length_groupJobs (group : KernelGroup) :
    (s.groupJobs group).length = group.kernels.length * s.settings.length := by
  simp only [groupJobs, List.length_flatMap, List.length_map, List.map_const',
    List.sum_replicate_nat]

/-- How many kernels come before one of a suite: those of the suites before, and those before it in
its own suite. -/
def kernelsBefore (suite kernel : Nat) : Nat :=
  before KernelGroup.kernels s.groups suite + kernel

theorem before_groupJobs (suite : Nat) :
    before s.groupJobs s.groups suite =
      before KernelGroup.kernels s.groups suite * s.settings.length := by
  simp only [before, length_groupJobs, List.sum_map_mul_right]

theorem groupJobs_getElem?_iff {group : KernelGroup} {n : Nat} {job : Job} :
    (s.groupJobs group)[n]? = some job ↔
      ∃ m kernel k setting, group.kernels[m]? = some kernel ∧ s.settings[k]? = some setting ∧
        job = ⟨group.path, kernel, setting⟩ ∧ n = m * s.settings.length + k := by
  rw [groupJobs, getElem?_flatMap_of_width fun kernel => List.length_map _]
  constructor
  · rintro ⟨m, kernel, k, known, here, place⟩
    rw [List.getElem?_map, Option.map_eq_some_iff] at here
    obtain ⟨setting, known', rfl⟩ := here
    exact ⟨m, kernel, k, setting, known, known', rfl, place⟩
  · rintro ⟨m, kernel, k, setting, known, known', rfl, place⟩
    exact ⟨m, kernel, k, known, by rw [List.getElem?_map, known']; rfl, place⟩

theorem jobs_length :
    s.jobs.length = (s.groups.map fun g => g.kernels.length).sum * s.settings.length := by
  simp only [jobs_eq, List.length_flatMap, length_groupJobs, List.sum_map_mul_right]

/-- A list of jobs goes through the suites, the kernels of each and the settings: every combination
has its place, and no other job is listed. -/
structure Lists (jobs : List Job) : Prop where
  length : jobs.length = (s.groups.map fun g => g.kernels.length).sum * s.settings.length
  place : ∀ (g m k : Nat) (group : KernelGroup) (kernel : Kernel) (setting : Setting),
    s.groups[g]? = some group → group.kernels[m]? = some kernel → s.settings[k]? = some setting →
      jobs[s.kernelsBefore g m * s.settings.length + k]? = some ⟨group.path, kernel, setting⟩
  only : ∀ (n : Nat) (job : Job), jobs[n]? = some job →
    ∃ g m k group, s.groups[g]? = some group ∧ group.kernels[m]? = some job.kernel ∧
      s.settings[k]? = some job.setting ∧ job.suite = group.path ∧
      n = s.kernelsBefore g m * s.settings.length + k

theorem lists_jobs : s.Lists s.jobs where
  length := s.jobs_length
  place g m k group kernel setting known known' known'' := by
    rw [jobs_eq, getElem?_flatMap_iff]
    refine ⟨g, group, m * s.settings.length + k, known, ?_, ?_⟩
    · exact s.groupJobs_getElem?_iff.mpr ⟨m, kernel, k, setting, known', known'', rfl, rfl⟩
    · rw [before_groupJobs, kernelsBefore, Nat.add_mul, Nat.add_assoc]
  only n job here := by
    rw [jobs_eq, getElem?_flatMap_iff] at here
    obtain ⟨g, group, _, known, within, rfl⟩ := here
    obtain ⟨m, kernel, k, setting, known', known'', rfl, rfl⟩ := s.groupJobs_getElem?_iff.mp within
    refine ⟨g, m, k, group, known, known', known'', rfl, ?_⟩
    rw [before_groupJobs, kernelsBefore, Nat.add_mul, Nat.add_assoc]

end Sweep

/-- The settings and the jobs are listed in order: the settings of three dimensions with the first
one slowest, and the jobs of a sweep with the suites slowest and the settings fastest. -/
theorem settings_and_jobs_in_order :
    (∀ directions factors strides : List String,
      Setting.gridSize directions factors strides =
          directions.length * factors.length * strides.length ∧
        (Setting.grid directions factors strides).length =
          Setting.gridSize directions factors strides ∧
        Setting.Enumerates directions factors strides
          (Setting.grid directions factors strides)) ∧
      ∀ s : Sweep, s.Lists s.jobs :=
  ⟨fun directions factors strides =>
    ⟨rfl, Setting.grid_length .., Setting.enumerates_grid directions factors strides⟩,
    Sweep.lists_jobs⟩

end KernelSweep
