import KernelSweep.Proofs.Occupancy.Plan
import KernelSweep.Proofs.Occupancy.Store
import KernelSweep.Proofs.Sweep.Trial
import Mathlib.Data.List.Forall2

set_option autoImplicit false

namespace KernelSweep

def Executor.NeverCancels (execute : Executor) : Prop :=
  ∀ calls command files, (execute calls command files).cancels = false

namespace Sweep

/-- The files with the old report of a kernel gone, if the sweep measures and it can go. -/
def withoutReport (s : Sweep) (kernel : Kernel) (files : FileSystem) : FileSystem :=
  if s.reduction then (Occupancy.discard files (s.reportPath kernel)).toOption.getD files
  else files

/-- What trying a request comes to. Nothing happens for one that cannot be bound; the command of
any other is handed over once, with the calls before it and the files as they are. -/
inductive Tries (s : Sweep) (suite : String) (request : BindRequest) (before : SweepState) :
    Except BindError Call → Outcome → SweepState → Prop
  | unbound {e : BindError} (refused : s.binder.bind request = .error e) :
      Tries s suite request before (.error e) { exit := -1 } before
  | called {env : Environment} {command : Command} {reply : Reply}
      (bound : s.binder.bind request = .ok env)
      (made : command = s.command suite request.kernel env)
      (answered : reply = s.execute before.calls command before.files) :
      Tries s suite request before (.ok ⟨command, reply.streamed⟩) reply.outcome
        ⟨reply.files, before.calls ++ [command], before.cancelled || reply.cancels⟩

/-- The primary result of a job, given the files its run left. -/
structure IsPrimary (s : Sweep) (job : Job) (files : FileSystem) (t : Trial) : Prop where
  kernel : t.result.kernel = job.kernel
  setting : t.result.setting = job.kernel.apply job.setting
  asked : t.result.followUp = false
  measured : ∀ r, Occupancy.load files (s.reportPath job.kernel) = .ok (some r) →
    t.result.label = Occupancy.measuredLabel r s.binder.profile
  unmeasured : (∀ r, Occupancy.load files (s.reportPath job.kernel) ≠ .ok (some r)) →
    t.result.label = Occupancy.unmeasuredLabel
  unreadable : ∀ e, Occupancy.load files (s.reportPath job.kernel) = .error e →
    t.result.problem = some (.report e)
  readable : ∀ report, Occupancy.load files (s.reportPath job.kernel) = .ok report →
    t.result.problem = t.problem

structure IsFollowUp (job : Job) (step : Occupancy.Step) (t : Trial) : Prop where
  kernel : t.result.kernel = job.kernel
  setting : t.result.setting = job.kernel.apply job.setting
  searching : t.result.followUp = true
  label : t.result.label = step.label
  problem : t.result.problem = t.problem

/-- One trial for each step, in the order of the plan. -/
inductive FollowUps (s : Sweep) (job : Job) :
    List Occupancy.Step → SweepState → List Trial → SweepState → Prop
  | none (st : SweepState) : FollowUps s job [] st [] st
  | step {step : Occupancy.Step} {rest : List Occupancy.Step} {st next last : SweepState}
      {t : Trial} {trials : List Trial}
      (tried : Tries s job.suite (followUpRequest job step) st t.call t.result.outcome next)
      (recorded : IsFollowUp job step t) (later : FollowUps s job rest next trials last) :
      FollowUps s job (step :: rest) st (t :: trials) last

end Sweep

/-- What one job leaves behind. -/
structure Block where
  /-- Before the primary run, the old report gone. -/
  ready : SweepState
  /-- After the primary run. -/
  measured : SweepState
  primary : Trial
  followUps : List Trial

def Block.trials (b : Block) : List Trial := b.primary :: b.followUps

namespace Sweep

structure IsBlock (s : Sweep) (job : Job) (before : SweepState) (b : Block) (after : SweepState) :
    Prop where
  ready : b.ready = { before with files := s.withoutReport job.kernel before.files }
  tried : Tries s job.suite (s.primaryRequest job) b.ready b.primary.call b.primary.result.outcome
    b.measured
  primary : IsPrimary s job b.measured.files b.primary
  searched : s.reduction = true →
    ∀ r, Occupancy.load b.measured.files (s.reportPath job.kernel) = .ok (some r) →
      ∃ steps, Occupancy.plan r s.binder.profile = .ok steps ∧
        FollowUps s job steps b.measured b.followUps after
  settled : (s.reduction = true →
    ∀ r, Occupancy.load b.measured.files (s.reportPath job.kernel) ≠ .ok (some r)) →
      b.followUps = [] ∧ after = b.measured

/-- One block for each job, each from where the one before it ended. -/
inductive Blocks (s : Sweep) : List Job → SweepState → List Block → SweepState → Prop
  | none (st : SweepState) : Blocks s [] st [] st
  | job {job : Job} {rest : List Job} {before between last : SweepState} {block : Block}
      {blocks : List Block} (here : IsBlock s job before block between)
      (later : Blocks s rest between blocks last) :
      Blocks s (job :: rest) before (block :: blocks) last

theorem tries_attempt (s : Sweep) (suite : String) (r : BindRequest) (st : SweepState) :
    Tries s suite r st (s.handed suite r st) (s.attempt suite r st).outcome
      (s.attempt suite r st).state := by
  cases bound : s.binder.bind r with
  | error e =>
    rw [attempt_of_unbound bound, handed_of_unbound bound]
    exact .unbound bound
  | ok env =>
    rw [attempt_of_bound bound, handed_of_bound bound]
    exact .called bound rfl rfl

theorem ready_eq (s : Sweep) (job : Job) (st : SweepState) :
    s.ready job st = { st with files := s.withoutReport job.kernel st.files } := by
  unfold ready clearReport withoutReport
  split
  · cases Occupancy.discard st.files (s.reportPath job.kernel) <;> rfl
  · rfl

/-- What can be removed is out of the way before a measured run, and nothing else gets into it. -/
theorem withoutReport_of_removable {s : Sweep} (measures : s.reduction = true) {kernel : Kernel}
    {files : FileSystem} (removable : files.isRemovable (s.reportPath kernel) = true) :
    (s.withoutReport kernel files).find (s.reportPath kernel) = .error .notFound ∧
      ∀ other, files.isRemovable other = true →
        (s.withoutReport kernel files).isRemovable other = true := by
  obtain ⟨left, discarded, gone, others⟩ := Occupancy.discard_of_removable removable
  have cleared : s.withoutReport kernel files = left := by
    rw [withoutReport, if_pos measures, discarded]
    rfl
  rw [cleared]
  exact ⟨gone, others⟩

theorem steps_eq_plan (s : Sweep) (r : Occupancy.Record) :
    Occupancy.plan r s.binder.profile = .ok (s.steps r) := by
  obtain ⟨steps, planned⟩ := Occupancy.plan_of_valid r s.binder.profile s.binder.profile_valid
  rw [Sweep.steps, planned]
  rfl

theorem isFollowUp_followUpTrial (s : Sweep) (job : Job) (step : Occupancy.Step)
    (st : SweepState) : IsFollowUp job step (s.followUpTrial job step st) where
  kernel := rfl
  setting := rfl
  searching := rfl
  label := rfl
  problem := s.attempt_problem job.suite (followUpRequest job step) st _

theorem isPrimary_primaryTrial (s : Sweep) (job : Job) (st : SweepState) :
    IsPrimary s job (s.measured job st).files (s.primaryTrial job st) where
  kernel := rfl
  setting := rfl
  asked := rfl
  measured := by
    intro r loaded
    simp only [primaryTrial, primaryResult, found, reading, loaded]
  unmeasured := by
    intro absent
    simp only [primaryTrial, primaryResult, found, reading]
    split
    · rfl
    · rfl
    · rename_i r loaded
      exact absurd loaded (absent r)
  unreadable := by
    intro e loaded
    simp only [primaryTrial, primaryResult, found, reading, loaded]
    rfl
  readable := by
    intro report loaded
    have bound := s.attempt_problem job.suite (s.primaryRequest job) (s.ready job st)
      (s.primaryTrial job st).result
    cases report <;> simp only [primaryTrial, primaryResult, found, reading, loaded] <;> exact bound

theorem FollowUps.isFollowUp {s : Sweep} {job : Job} {steps : List Occupancy.Step}
    {st last : SweepState} {trials : List Trial}
    (traced : FollowUps s job steps st trials last) :
    ∀ t ∈ trials, ∃ step, IsFollowUp job step t := by
  induction traced with
  | none st => exact fun t member => absurd member List.not_mem_nil
  | step tried recorded _ ih => exact List.forall_mem_cons.mpr ⟨⟨_, recorded⟩, ih⟩

/-- A search takes its steps in the order of the plan and leaves none out, unless it is
cancelled. -/
theorem followUps_begun (s : Sweep) (job : Job) (steps : List Occupancy.Step) (st : SweepState) :
    ∃ taken, taken <+: steps ∧
      FollowUps s job taken st (s.followUpTrials job steps st) (s.followUps job steps st).2 ∧
      ((s.followUps job steps st).2.cancelled = false → taken = steps) := by
  induction steps generalizing st with
  | nil => exact ⟨[], List.prefix_refl _, .none st, fun _ => rfl⟩
  | cons step rest ih =>
    cases live : st.cancelled with
    | true =>
      rw [s.followUps_of_cancelled job _ live, s.followUpTrials_of_cancelled job _ live]
      refine ⟨[], List.nil_prefix, .none st, fun going => ?_⟩
      rw [live] at going
      cases going
    | false =>
      obtain ⟨taken, begun, traced, whole⟩ := ih (s.afterFollowUp job step st)
      rw [s.followUps_of_live job step rest live, s.followUpTrials_of_live job step rest live]
      refine ⟨step :: taken, List.cons_prefix_cons.mpr ⟨rfl, begun⟩, ?_, fun going => ?_⟩
      · exact .step (s.tries_attempt job.suite (followUpRequest job step) st)
          (s.isFollowUp_followUpTrial job step st) traced
      · rw [whole going]

section Live

variable {s : Sweep} (quiet : s.execute.NeverCancels)
include quiet

theorem attempt_cancelled (suite : String) (r : BindRequest) (st : SweepState) :
    (s.attempt suite r st).state.cancelled = st.cancelled := by
  cases bound : s.binder.bind r with
  | error e => rw [attempt_of_unbound bound]
  | ok env => simp only [attempt_of_bound bound, quiet _ _ _, Bool.or_false]

theorem measured_cancelled (job : Job) (st : SweepState) :
    (s.measured job st).cancelled = st.cancelled := by
  rw [measured, attempt_cancelled quiet, ready_eq]

theorem followUps_cancelled (job : Job) (steps : List Occupancy.Step) (st : SweepState) :
    (s.followUps job steps st).2.cancelled = st.cancelled := by
  induction steps generalizing st with
  | nil => rfl
  | cons step rest ih =>
    cases live : st.cancelled with
    | true => rw [followUps_of_cancelled s job _ live, live]
    | false =>
      rw [followUps_of_live s job step rest live]
      exact (ih _).trans ((attempt_cancelled quiet ..).trans live)

theorem runJob_cancelled (job : Job) (st : SweepState) :
    (s.runJob job st).2.cancelled = st.cancelled := by
  rw [runJob_state, followUps_cancelled quiet, measured_cancelled quiet]

end Live

def block (s : Sweep) (job : Job) (st : SweepState) : Block where
  ready := s.ready job st
  measured := s.measured job st
  primary := s.primaryTrial job st
  followUps := s.followUpTrials job (s.stepsFrom (s.found job st)) (s.measured job st)

theorem stepsFrom_of_record {s : Sweep} {job : Job} {st : SweepState} {r : Occupancy.Record}
    (enabled : s.reduction = true)
    (loaded : Occupancy.load (s.measured job st).files (s.reportPath job.kernel) = .ok (some r)) :
    s.stepsFrom (s.found job st) = s.steps r := by
  simp only [stepsFrom, found, reading, enabled, loaded]

theorem stepsFrom_of_no_record {s : Sweep} {job : Job} {st : SweepState}
    (absent : s.reduction = true →
      ∀ r, Occupancy.load (s.measured job st).files (s.reportPath job.kernel) ≠ .ok (some r)) :
    s.stepsFrom (s.found job st) = [] := by
  unfold stepsFrom
  split
  · rename_i r enabled recorded
    simp only [found, reading] at recorded
    split at recorded
    · cases recorded
    · cases recorded
    · rename_i other loaded
      exact absurd loaded (absent enabled other)
  · rfl

/-- Behind the primary run of a job, cancelled or not, there are the first steps of a search or
none. A search needs a sweep that measures and a report that was found. -/
theorem followUps_block (s : Sweep) (job : Job) (st : SweepState) :
    (s.block job st).followUps = [] ∨ s.reduction = true ∧ ∃ r taken last,
      Occupancy.load (s.measured job st).files (s.reportPath job.kernel) = .ok (some r) ∧
        taken <+: s.steps r ∧
        FollowUps s job taken (s.measured job st) (s.block job st).followUps last := by
  by_cases searched : s.reduction = true ∧ ∃ r,
      Occupancy.load (s.measured job st).files (s.reportPath job.kernel) = .ok (some r)
  · obtain ⟨measures, r, loaded⟩ := searched
    obtain ⟨taken, begun, traced, -⟩ := s.followUps_begun job (s.steps r) (s.measured job st)
    have same : (s.block job st).followUps =
        s.followUpTrials job (s.steps r) (s.measured job st) := by
      rw [block, stepsFrom_of_record measures loaded]
    rw [← same] at traced
    exact Or.inr ⟨measures, r, taken, _, loaded, begun, traced⟩
  · have absent : s.reduction = true → ∀ r,
        Occupancy.load (s.measured job st).files (s.reportPath job.kernel) ≠ .ok (some r) :=
      fun measures r loaded => searched ⟨measures, r, loaded⟩
    refine Or.inl ?_
    rw [block, stepsFrom_of_no_record absent, followUpTrials]

theorem isBlock_block {s : Sweep} (quiet : s.execute.NeverCancels) (job : Job) (st : SweepState)
    (live : st.cancelled = false) : IsBlock s job st (s.block job st) (s.runJob job st).2 where
  ready := s.ready_eq job st
  tried := s.tries_attempt job.suite (s.primaryRequest job) (s.ready job st)
  primary := s.isPrimary_primaryTrial job st
  searched := by
    intro enabled r loaded
    have going : (s.measured job st).cancelled = false := by
      rw [measured_cancelled quiet, live]
    obtain ⟨taken, -, traced, whole⟩ :=
      s.followUps_begun job (s.steps r) (s.measured job st)
    rw [followUps_cancelled quiet, going] at whole
    refine ⟨s.steps r, s.steps_eq_plan r, ?_⟩
    rw [runJob_state, block, stepsFrom_of_record enabled loaded]
    rw [whole rfl] at traced
    exact traced
  settled := by
    intro absent
    rw [runJob_state, block, stepsFrom_of_no_record absent]
    exact ⟨rfl, rfl⟩

/-- The blocks of the jobs that were started, whether or not the run was cancelled behind them.
What the state keeps from job to job can be used for each of them. -/
theorem trials_of_blocks (s : Sweep) (Keeps : SweepState → Prop) {Is : Job → Block → Prop}
    (todo : List Job) (st : SweepState) (kept : Keeps st)
    (next : ∀ job ∈ todo, ∀ before, Keeps before → Keeps (s.runJob job before).2)
    (each : ∀ job ∈ todo, ∀ before, Keeps before → Is job (s.block job before)) :
    ∃ blocks, s.trials todo st = blocks.flatMap Block.trials ∧
      List.Forall₂ Is (todo.take blocks.length) blocks ∧
      ((s.runJobs todo st).2.cancelled = false → blocks.length = todo.length) := by
  induction todo generalizing st with
  | nil => exact ⟨[], rfl, .nil, fun _ => rfl⟩
  | cons job rest ih =>
    cases live : st.cancelled with
    | true =>
      refine ⟨[], s.trials_of_cancelled _ live, .nil, fun going => ?_⟩
      rw [(s.runJobs_of_cancelled _ live).2, live] at going
      cases going
    | false =>
      obtain ⟨blocks, told, held, whole⟩ :=
        ih (s.runJob job st).2 (next job List.mem_cons_self st kept)
          (fun other member => next other (List.mem_cons_of_mem job member))
          (fun other member => each other (List.mem_cons_of_mem job member))
      have here := each job List.mem_cons_self st kept
      refine ⟨s.block job st :: blocks, ?_, .cons here held, ?_⟩
      · rw [s.trials_of_live job rest live, told]
        rfl
      · rw [s.runJobs_of_live job rest live]
        intro going
        rw [List.length_cons, List.length_cons, whole going]

/-- The blocks of a run that nobody cancels, and that they hold all of its trials. -/
theorem blocks_of_live {s : Sweep} (quiet : s.execute.NeverCancels) (jobs : List Job)
    (st : SweepState) (live : st.cancelled = false) :
    ∃ blocks, Blocks s jobs st blocks (s.runJobs jobs st).2 ∧
      s.trials jobs st = blocks.flatMap Block.trials := by
  induction jobs generalizing st with
  | nil => exact ⟨[], .none st, rfl⟩
  | cons job rest ih =>
    have going : (s.runJob job st).2.cancelled = false := by
      rw [runJob_cancelled quiet, live]
    obtain ⟨blocks, traced, told⟩ := ih (s.runJob job st).2 going
    refine ⟨s.block job st :: blocks, ?_, ?_⟩
    · rw [s.runJobs_of_live job rest live]
      exact .job (isBlock_block quiet job st live) traced
    · rw [s.trials_of_live job rest live, told, List.flatMap_cons]
      rfl

/-- Nothing a run records, hands over, counts or prints comes from elsewhere than the blocks of
its jobs, and nothing in a block is left out, whatever the executor answers and does to the
files. -/
theorem run_records_blocks (s : Sweep) (quiet : s.execute.NeverCancels) (files : FileSystem) :
    ∃ blocks : List Block, Blocks s s.jobs { files } blocks (s.run {} { files }).state ∧
      (s.run {} { files }).Tells (blocks.flatMap Block.trials) := by
  obtain ⟨blocks, traced, told⟩ := blocks_of_live quiet s.jobs { files } rfl
  refine ⟨blocks, traced, ?_⟩
  rw [← told]
  exact s.run_tells { files }

/-- An option without anything to fill in. -/
def literalOption (name text : String) : OptionTemplate :=
  ⟨name, ⟨Text.encode name, [(Text.encode name, [.text text])]⟩⟩

def sampleBinder : Binder where
  spec := { templates := ⟨"-tc", "-clr", "-ored"⟩ }
  compiler := literalOption "compiler" "-tc"
  cacheLine := literalOption "clr" "-clr"
  occupancy := literalOption "occupancy" "-ored"
  valid := by
    intro l
    cases l <;> decide

/-- The usual files and a report of full occupancy. -/
def sampleFiles : FileSystem :=
  FileSystem.standard.insert ["tmp", "mm.txt"]
    (.file (Text.encode "smem 0\nblocksize 512\noccupancy 1\n") 0o644)

/-- The first call leaves a report, the others leave the files alone. -/
def sampleExecute : Executor := fun calls _ files =>
  { outcome := {}
    files := if calls.isEmpty then sampleFiles else files }

/-- One kernel at two settings, measured. -/
def sample : Sweep where
  execute := sampleExecute
  binder := sampleBinder
  groups := [⟨"mm/mm", [⟨"mm/mm", "mm", none⟩]⟩]
  settings := [⟨"0", "1", "32"⟩, ⟨"0", "2", "32"⟩]
  reduction := true

theorem sample_quiet : sample.execute.NeverCancels := fun _ _ _ => rfl

theorem sample_records_blocks :
    ((sample.run {} { files := .standard }).ledger.results.map fun r => (r.label, r.followUp)) =
        [("4/4@512", false), ("3/4@512", true), ("2/4@512", true), ("0/0@0", false)] ∧
      ∃ blocks : List Block,
        Blocks sample sample.jobs { files := .standard } blocks
          (sample.run {} { files := .standard }).state ∧
        (sample.run {} { files := .standard }).Tells (blocks.flatMap Block.trials) :=
  ⟨by decide +kernel, run_records_blocks sample sample_quiet .standard⟩

end Sweep

end KernelSweep
