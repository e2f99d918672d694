import KernelSweep.Proofs.Binder.Build
import KernelSweep.Proofs.Environment
import KernelSweep.Proofs.Sweep.Blocks
import Mathlib.Data.List.Forall2

set_option autoImplicit false

namespace KernelSweep

open Text (Bytes)

/-- The command has a whole environment, with just the entry of this value under the name, or with
none. -/
def Command.Holds (c : Command) (name : String) (value : Option Bytes) : Prop :=
  c.env.map (Environment.entriesUnder name) =
    some ((value.map (Environment.assignment name)).toList)

/-- Not asked for a report, or not told to reserve memory. -/
def Command.PhasesApart (c : Command) : Prop :=
  c.Holds Variable.occupancySetup none ∨ c.Holds Variable.occupancyReduction none

/-- The result of a run of the job: its kernel at its setting, the direction being the kernel's own
where it has one. -/
structure Result.IsOf (r : Result) (job : Job) : Prop where
  kernel : r.kernel = job.kernel
  direction : r.setting.direction = job.kernel.pinned.getD job.setting.direction
  factor : r.setting.factor = job.setting.factor
  stride : r.setting.stride = job.setting.stride

theorem Result.isOf_of_apply {r : Result} {job : Job} (kernel : r.kernel = job.kernel)
    (setting : r.setting = job.kernel.apply job.setting) : r.IsOf job := by
  rw [Kernel.apply] at setting
  cases pinned : job.kernel.pinned with
  | none =>
    rw [pinned] at setting
    exact ⟨kernel, by rw [setting, pinned]; rfl, by rw [setting], by rw [setting]⟩
  | some direction =>
    rw [pinned] at setting
    exact ⟨kernel, by rw [setting, pinned]; rfl, by rw [setting]; rfl, by rw [setting]; rfl⟩

namespace Sweep

variable {s : Sweep} {job : Job}

/-- What the commands of a job have in common, run at a setting with some memory reserved. -/
structure RunsJob (s : Sweep) (job : Job) (setting : Setting) (reserved : Int64) (c : Command) :
    Prop where
  path : c.path = Path.join s.binaries job.suite
  args : c.args = [job.kernel.name]
  kernelName : c.Holds Variable.kernelName (some (Text.encode job.kernel.name))
  compiler : ∃ options,
    s.binder.compiler.render (s.binder.optionsAt job.kernel.name setting reserved) = .ok options ∧
      c.Holds Variable.compilerOptions (some options)
  cacheLine : ∃ options,
    s.binder.cacheLine.render (s.binder.optionsAt job.kernel.name setting reserved) = .ok options ∧
      c.Holds Variable.cacheLineOptions (some options)

structure PrimaryPhase (s : Sweep) (job : Job) (t : Trial) : Prop where
  result : t.result.IsOf job
  asked : t.result.followUp = false
  runs : ∀ call, t.call = .ok call → RunsJob s job t.result.setting 0 call.command
  setup : ∀ call, t.call = .ok call → call.command.Holds Variable.occupancySetup
    (if s.reduction then some (Text.encode (Occupancy.reportPath s.reports job.kernel.name))
      else none)
  reduction : ∀ call, t.call = .ok call → call.command.Holds Variable.occupancyReduction none

structure FollowUpPhase (s : Sweep) (job : Job) (step : Occupancy.Step) (t : Trial) : Prop where
  result : t.result.IsOf job
  searching : t.result.followUp = true
  label : t.result.label = step.label
  runs : ∀ call, t.call = .ok call → RunsJob s job t.result.setting step.reserved call.command
  setup : ∀ call, t.call = .ok call → call.command.Holds Variable.occupancySetup none
  reduction : ∀ call, t.call = .ok call → ∃ options,
    s.binder.occupancy.render
        (s.binder.optionsAt job.kernel.name t.result.setting step.reserved) = .ok options ∧
      call.command.Holds Variable.occupancyReduction (some options)

/-- The commands of one job. Follow-up runs come only behind a report that was read in a sweep that
measures, and their steps are the first ones of the plan for it. -/
structure KeepsPhases (s : Sweep) (job : Job) (b : Block) : Prop where
  tried : Tries s job.suite (s.primaryRequest job) b.ready b.primary.call b.primary.result.outcome
    b.measured
  primary : PrimaryPhase s job b.primary
  followUps : b.followUps = [] ∨ s.reduction = true ∧ ∃ r steps,
    Occupancy.load b.measured.files (s.reportPath job.kernel) = .ok (some r) ∧
      Occupancy.plan r s.binder.profile = .ok steps ∧
      List.Forall₂ (FollowUpPhase s job) (steps.take b.followUps.length) b.followUps

theorem holds_command {r : BindRequest} {env : Environment} (bound : s.binder.bind r = .ok env)
    {name : String} (managed : name ∈ Variable.managed) {value : Option Bytes}
    (held : env.lookup name = value) (suite : String) (kernel : Kernel) :
    (s.command suite kernel env).Holds name value := by
  rw [← held]
  exact congrArg some (env.entriesUnder_entries (Binder.binds_of_bind bound).managed managed)

theorem Tries.bound {suite : String} {r : BindRequest} {before after : SweepState}
    {answer : Except BindError Call} {outcome : Outcome}
    (tried : Tries s suite r before answer outcome after) {call : Call}
    (called : answer = .ok call) :
    ∃ env, s.binder.bind r = .ok env ∧ call.command = s.command suite r.kernel env := by
  cases tried with
  | unbound refused => cases called
  | called bound made answered =>
    cases called
    exact ⟨_, bound, made⟩

theorem runsJob_of_bound {r : BindRequest} {env : Environment} (bound : s.binder.bind r = .ok env)
    (kernel : r.kernel = job.kernel) :
    RunsJob s job (job.kernel.apply r.setting) r.reserved (s.command job.suite r.kernel env) := by
  have binds := Binder.binds_of_bind bound
  obtain ⟨compiler, rendered, compilerHeld⟩ := binds.compiler
  obtain ⟨cacheLine, rendered', cacheLineHeld⟩ := binds.cacheLine
  have name := binds.kernelName
  rw [Binder.data_eq] at rendered rendered'
  rw [kernel] at name rendered rendered' ⊢
  exact ⟨rfl, rfl, holds_command bound (by decide) name ..,
    ⟨compiler, rendered, holds_command bound (by decide) compilerHeld ..⟩,
    ⟨cacheLine, rendered', holds_command bound (by decide) cacheLineHeld ..⟩⟩

/-- The two variables of the search, for a primary run. -/
theorem primary_phased {env : Environment}
    (bound : s.binder.bind (s.primaryRequest job) = .ok env) :
    env.lookup Variable.occupancySetup =
        (if s.reduction then some (Text.encode (s.reportPath job.kernel)) else none) ∧
      env.lookup Variable.occupancyReduction = none := by
  cases (Binder.binds_of_bind bound).phase with
  | plain phase setup reduction =>
    have plain : s.reduction = false := by
      by_contra measures
      simp [primaryRequest, measures] at phase
    simp [plain, setup, reduction]
  | measure phase path setup reduction =>
    have measures : s.reduction = true := by
      by_contra plain
      simp [primaryRequest, plain] at phase
    rw [if_pos measures]
    exact ⟨setup, reduction⟩
  | reduce phase => simp only [primaryRequest] at phase; split at phase <;> cases phase

/-- The two variables of the search, for a follow-up run. -/
theorem followUp_phased {step : Occupancy.Step} {env : Environment}
    (bound : s.binder.bind (followUpRequest job step) = .ok env) :
    env.lookup Variable.occupancySetup = none ∧ ∃ options,
      s.binder.occupancy.render (s.binder.data (followUpRequest job step)) = .ok options ∧
        env.lookup Variable.occupancyReduction = some options := by
  cases (Binder.binds_of_bind bound).phase with
  | plain phase => cases phase
  | measure phase => cases phase
  | reduce phase setup rendered reduction => exact ⟨setup, _, rendered, reduction⟩

theorem primaryPhase_of_tries {t : Trial} {before after : SweepState}
    (tried : Tries s job.suite (s.primaryRequest job) before t.call t.result.outcome after)
    (kernel : t.result.kernel = job.kernel)
    (setting : t.result.setting = job.kernel.apply job.setting)
    (asked : t.result.followUp = false) : PrimaryPhase s job t := by
  refine ⟨Result.isOf_of_apply kernel setting, asked, ?_, ?_, ?_⟩
  · intro call called
    obtain ⟨env, bound, made⟩ := tried.bound called
    rw [setting, made]
    exact runsJob_of_bound bound rfl
  · intro call called
    obtain ⟨env, bound, made⟩ := tried.bound called
    rw [made]
    exact holds_command bound (by decide) (primary_phased bound).1 ..
  · intro call called
    obtain ⟨env, bound, made⟩ := tried.bound called
    rw [made]
    exact holds_command bound (by decide) (primary_phased bound).2 ..

theorem followUpPhase_of_tries {step : Occupancy.Step} {t : Trial} {before after : SweepState}
    (tried : Tries s job.suite (followUpRequest job step) before t.call t.result.outcome after)
    (recorded : IsFollowUp job step t) : FollowUpPhase s job step t := by
  refine ⟨Result.isOf_of_apply recorded.kernel recorded.setting, recorded.searching,
    recorded.label, ?_, ?_, ?_⟩
  · intro call called
    obtain ⟨env, bound, made⟩ := tried.bound called
    rw [recorded.setting, made]
    exact runsJob_of_bound bound rfl
  · intro call called
    obtain ⟨env, bound, made⟩ := tried.bound called
    rw [made]
    exact holds_command bound (by decide) (followUp_phased bound).1 ..
  · intro call called
    obtain ⟨env, bound, made⟩ := tried.bound called
    obtain ⟨options, rendered, held⟩ := (followUp_phased bound).2
    rw [recorded.setting, made]
    exact ⟨options, rendered, holds_command bound (by decide) held ..⟩

theorem FollowUps.keepPhases {steps : List Occupancy.Step} {st last : SweepState}
    {trials : List Trial} (traced : FollowUps s job steps st trials last) :
    List.Forall₂ (FollowUpPhase s job) steps trials := by
  induction traced with
  | none st => exact .nil
  | step tried recorded _ ih => exact .cons (followUpPhase_of_tries tried recorded) ih

/-- One job, whatever state it starts from. -/
theorem keepsPhases_block (s : Sweep) (job : Job) (st : SweepState) :
    KeepsPhases s job (s.block job st) := by
  have tried := s.tries_attempt job.suite (s.primaryRequest job) (s.ready job st)
  have primary := s.isPrimary_primaryTrial job st
  refine ⟨tried, primaryPhase_of_tries tried primary.kernel primary.setting primary.asked, ?_⟩
  rcases s.followUps_block job st with alone | ⟨measures, r, taken, last, loaded, begun, traced⟩
  · exact Or.inl alone
  · have kept := traced.keepPhases
    -- A search that was cancelled has taken only the first steps of its plan.
    have first : taken = (s.steps r).take (s.block job st).followUps.length := by
      rw [← kept.length_eq]
      exact List.prefix_iff_eq_take.mp begun
    rw [first] at kept
    exact Or.inr ⟨measures, r, s.steps r, loaded, s.steps_eq_plan r, kept⟩

theorem KeepsPhases.apart {b : Block} (kept : KeepsPhases s job b) {t : Trial}
    (member : t ∈ b.trials) {call : Call} (called : t.call = .ok call) :
    call.command.PhasesApart := by
  rcases List.mem_cons.mp member with rfl | followUp
  · exact Or.inr (kept.primary.reduction call called)
  · rcases kept.followUps with alone | ⟨-, r, steps, -, -, phases⟩
    · rw [alone] at followUp
      cases followUp
    · obtain ⟨step, -, phase⟩ := Success.exists_left_of_mem phases followUp
      exact Or.inl (phase.setup call called)

/-- Every command of a run, cancelled or not, belongs to a job of the sweep and is told what its
phase asks for, whatever the parent's entries say about it; none is told of both phases. A run that
nobody cancels has a block for every job. -/
theorem run_keeps_phases (s : Sweep) (ledger : Ledger) (st : SweepState) :
    ∃ blocks : List Block,
      actsOf (s.run ledger st).events = (blocks.flatMap Block.trials).flatMap Trial.events ∧
        (s.run ledger st).ledger =
          ledger.recordAll ((blocks.flatMap Block.trials).map Trial.result) ∧
        List.Forall₂ (KeepsPhases s) (s.jobs.take blocks.length) blocks ∧
        ((s.run ledger st).state.cancelled = false → blocks.length = s.jobs.length) ∧
        ∀ command ∈ commandsOf (s.run ledger st).events, command.PhasesApart := by
  have told := s.run_told ledger st
  obtain ⟨blocks, held, kept, whole⟩ := s.trials_of_blocks (fun _ => True) s.jobs st trivial
    (fun _ _ _ _ => trivial) (fun job _ before _ => s.keepsPhases_block job before)
  refine ⟨blocks, ?_, ?_, kept, whole, ?_⟩
  · rw [told.acts, held]
  · rw [run_ledger, held]
  · intro command member
    rw [told.commands, held, commandsOfTrials, List.mem_filterMap] at member
    obtain ⟨t, inBlocks, called⟩ := member
    obtain ⟨b, known, inBlock⟩ := List.mem_flatMap.mp inBlocks
    obtain ⟨job, -, phases⟩ := Success.exists_left_of_mem kept known
    obtain ⟨call, handed, rfl⟩ := Option.map_eq_some_iff.mp called
    exact phases.apart inBlock (Success.toOption_eq_some.mp handed)

end Sweep

end KernelSweep
