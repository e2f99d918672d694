import KernelSweep.Proofs.CommandLine.Validation

set_option autoImplicit false

namespace KernelSweep

open Success

namespace Setting

variable {directions factors strides : List String}

/-- Pinning leaves as many copies of one plane as there are directions. -/
theorem map_withDirection_grid (direction : String) :
    (grid directions factors strides).map (·.withDirection direction) =
      directions.flatMap fun _ => plane factors strides direction := by
  simp only [grid, plane, withDirection, List.map_flatMap, List.map_map, Function.comp_def]

theorem mem_map_withDirection_grid_iff (filled : directions ≠ []) {direction : String}
    {s : Setting} :
    s ∈ (grid directions factors strides).map (·.withDirection direction) ↔
      s ∈ plane factors strides direction := by
  rw [map_withDirection_grid, List.mem_flatMap]
  constructor
  · rintro ⟨-, -, member⟩
    exact member
  · intro member
    obtain ⟨other, listed⟩ := List.exists_mem_of_ne_nil _ filled
    exact ⟨other, listed, member⟩

theorem count_map_withDirection_grid (distinct : factors.Nodup) (distinct' : strides.Nodup)
    {direction : String} {s : Setting} (reached : s ∈ plane factors strides direction) :
    ((grid directions factors strides).map (·.withDirection direction)).count s =
      directions.length := by
  have once : (plane factors strides direction).count s = 1 := by
    apply List.count_eq_one_of_mem _ reached
    have filled : strides ≠ [] := List.ne_nil_of_mem (mem_plane_iff.mp reached).2.2
    exact (nodup_plane_iff filled direction).mpr ⟨distinct, fun _ _ => distinct'⟩
  rw [map_withDirection_grid, List.count_flatMap]
  simp only [Function.comp_def, once, List.map_const', List.sum_replicate_nat, Nat.mul_one]

end Setting

/-- The setting a job runs with. -/
def Job.effective (j : Job) : Setting := j.kernel.apply j.setting

/-- The settings some jobs run with are those over three dimensions, each of them so many times. -/
structure Job.Covers (jobs : List Job) (directions factors strides : List String) (times : Nat) :
    Prop where
  reached : ∀ setting : Setting, (∃ job ∈ jobs, job.effective = setting) ↔
    setting.direction ∈ directions ∧ setting.factor ∈ factors ∧ setting.stride ∈ strides
  repeated : ∀ job ∈ jobs,
    (jobs.filter fun other => decide (other.effective = job.effective)).length = times

theorem Job.covers_of_settings {jobs : List Job} {settings : List Setting}
    {directions factors strides : List String} {times : Nat}
    (runs : jobs.map Job.effective = settings)
    (reached : ∀ s : Setting, s ∈ settings ↔
      s.direction ∈ directions ∧ s.factor ∈ factors ∧ s.stride ∈ strides)
    (repeated : ∀ s ∈ settings, settings.count s = times) :
    Covers jobs directions factors strides times where
  reached setting := by
    rw [← reached, ← runs, List.mem_map]
  repeated job member := by
    have counted := repeated job.effective (runs ▸ List.mem_map_of_mem member)
    rw [← runs, List.count_eq_countP, List.countP_map, List.countP_eq_length_filter] at counted
    exact counted

/-- The kernel entries of all suites in order, each with the path of its suite. -/
def Config.entries (c : Config) : List (String × String) :=
  c.suites.flatMap fun suite => suite.kernels.map (suite.path, ·)

namespace CommandLine

/-- The jobs listed for an entry: its kernel at every setting, and how often that comes to the same
run. -/
structure ListedFor (c : Config) (applyModel : Bool) (path entry : String) (k : Kernel)
    (jobs : List Job) : Prop where
  parsed : Kernel.parse path entry = .ok k
  listed : jobs = (c.grid applyModel).map fun setting => ⟨path, k, setting⟩
  plain : k.pinned = none →
    Job.Covers jobs c.directions (c.factorsFor applyModel) c.strides 1
  pinned : ∀ direction, k.pinned = some direction →
    Job.Covers jobs [direction] (c.factorsFor applyModel) c.strides c.directions.length

section Listing

variable {c : Config} {applyModel : Bool}

theorem grid_eq_factorsFor :
    c.grid applyModel = Setting.grid c.directions (c.factorsFor applyModel) c.strides := rfl

/-- What the check of the dimensions leaves: no value is given twice in any that a mode uses. -/
theorem nodup_dimensions (accepted : c.problems = []) (applyModel : Bool) :
    c.directions.Nodup ∧ (c.factorsFor applyModel).Nodup ∧ c.strides.Nodup := by
  have distinct := Config.dimensions_nodup_of_problems accepted
  simp only [Config.dimensions, List.forall_mem_cons] at distinct
  obtain ⟨directions, factors, strides, modelFactors, -⟩ := distinct
  refine ⟨directions, ?_, strides⟩
  cases applyModel with
  | false => exact factors
  | true => exact modelFactors

theorem listedFor_of_parse (accepted : c.problems = []) {path entry : String} {k : Kernel}
    (parsed : Kernel.parse path entry = .ok k) :
    ListedFor c applyModel path entry k
      ((c.grid applyModel).map fun setting => ⟨path, k, setting⟩) := by
  obtain ⟨directions, factors, strides⟩ := nodup_dimensions accepted applyModel
  refine ⟨parsed, rfl, ?_, ?_⟩
  · intro free
    have runs : ((c.grid applyModel).map fun setting => (⟨path, k, setting⟩ : Job)).map
        Job.effective = c.grid applyModel := by
      simp only [List.map_map, Function.comp_def, Job.effective, Kernel.apply, free, List.map_id']
    refine Job.covers_of_settings runs (fun s => Setting.mem_grid_iff) ?_
    intro s member
    apply List.count_eq_one_of_mem _ member
    exact Setting.nodup_grid directions factors strides
  · intro direction pinned
    have runs : ((c.grid applyModel).map fun setting => (⟨path, k, setting⟩ : Job)).map
        Job.effective = (c.grid applyModel).map (·.withDirection direction) := by
      simp only [List.map_map, Function.comp_def, Job.effective, Kernel.apply, pinned]
    have filled := (Config.accepted_of_problems accepted).directions
    refine Job.covers_of_settings runs ?_ ?_
    · intro s
      rw [grid_eq_factorsFor, Setting.mem_map_withDirection_grid_iff filled, Setting.mem_plane_iff,
        List.mem_singleton]
    · intro s member
      apply Setting.count_map_withDirection_grid factors strides
      exact (Setting.mem_map_withDirection_grid_iff filled).mp member

/-- The jobs fall into one block for each entry, in the order of the entries. -/
theorem jobs_of_preparedFrom {s : Sweep} (accepted : c.problems = [])
    (prepared : PreparedFrom c applyModel s) :
    ∃ blocks : List (List Job), s.jobs = blocks.flatten ∧
      List.Forall₂ (fun entry jobs => ∃ k, ListedFor c applyModel entry.1 entry.2 k jobs)
        c.entries blocks := by
  refine ⟨s.groups.flatMap fun group => group.kernels.map fun k =>
    s.settings.map fun setting => ⟨group.path, k, setting⟩, ?_, ?_⟩
  · simp only [Sweep.jobs, List.flatMap_def, List.flatten_flatten, List.map_map, Function.comp_def]
  · refine List.rel_flatMap prepared.groups ?_
    intro suite group read
    obtain ⟨kernels, parsed, rfl⟩ := map_eq_ok.mp read
    rw [List.forall₂_map_left_iff, List.forall₂_map_right_iff]
    refine (mapM_eq_ok.mp parsed).imp fun entry k parsed => ⟨k, ?_⟩
    rw [prepared.settings]
    exact listedFor_of_parse accepted parsed

/-- What a sweep is made from does not depend on how the profiles are listed. -/
theorem PreparedFrom.of_reorders {other : Config} {s : Sweep} (reordered : c.Reorders other)
    (prepared : PreparedFrom other applyModel s) : PreparedFrom c applyModel s := by
  obtain ⟨-, besides⟩ := reordered
  generalize other.architectures = architectures at besides
  subst besides
  exact ⟨prepared.groups, prepared.settings⟩

end Listing

/-- A sweep can be made from an accepted configuration, and however its profiles are listed the jobs
of the sweep are listed entry by entry: for an entry without a direction every setting of the grid
is run once, and for one that pins its direction every setting with that direction is run once for
each direction of the grid. -/
theorem pinned_entries_repeat {c : Config} (accepted : c.problems = []) (applyModel : Bool)
    (inherited : List Text.Bytes) (execute : Executor) :
    (∃ s, prepare c applyModel inherited execute = .ok s) ∧
      ∀ (other : Config) (s : Sweep), c.Reorders other →
        prepare other applyModel inherited execute = .ok s →
        ∃ blocks : List (List Job), s.jobs = blocks.flatten ∧
          List.Forall₂ (fun entry jobs => ∃ k, ListedFor c applyModel entry.1 entry.2 k jobs)
            c.entries blocks := by
  refine ⟨prepare_of_accepted (Config.accepted_of_problems accepted) .., ?_⟩
  intro other s reordered prepared
  exact jobs_of_preparedFrom accepted
    (PreparedFrom.of_reorders reordered (preparedFrom_of_prepare prepared))

/-- Two directions, and an entry that pins a third one. -/
def crossConfig : Config :=
  { benchConfig with
    suites := [⟨"mm/mm", ["mm", "mt: 2"]⟩]
    directions := ["0", "1"]
    factors := ["1", "4"] }

theorem cross_repeats :
    crossConfig.problems = [] ∧
      ∃ s free pinned,
        prepare crossConfig false [] brokenExecute = .ok s ∧
        s.jobs = free ++ pinned ∧ Job.Covers free ["0", "1"] ["1", "4"] ["32"] 1 ∧
        Job.Covers pinned ["2"] ["1", "4"] ["32"] 2 := by
  have accepted : crossConfig.problems = [] := by decide +kernel
  have mm : Kernel.parse "mm/mm" "mm" = .ok ⟨"mm/mm", "mm", none⟩ :=
    toOption_eq_some.mp (by decide +kernel)
  have mt : Kernel.parse "mm/mm" "mt: 2" = .ok ⟨"mm/mm", "mt", some "2"⟩ :=
    toOption_eq_some.mp (by decide +kernel)
  obtain ⟨⟨s, prepared⟩, listed⟩ := pinned_entries_repeat accepted false [] brokenExecute
  obtain ⟨blocks, jobs, each⟩ := listed crossConfig s (.refl _) prepared
  obtain ⟨free, _, ⟨k, first⟩, later, rfl⟩ := List.forall₂_cons_left_iff.mp each
  obtain ⟨pinned, _, ⟨k', second⟩, last, rfl⟩ := List.forall₂_cons_left_iff.mp later
  cases List.forall₂_nil_left_iff.mp last
  cases first.parsed.symm.trans mm
  cases second.parsed.symm.trans mt
  refine ⟨accepted, s, free, pinned, prepared, ?_, first.plain rfl, second.pinned "2" rfl⟩
  simpa using jobs

end CommandLine

end KernelSweep
