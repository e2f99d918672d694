import KernelSweep.Proofs.Occupancy.Store
import KernelSweep.Proofs.Sweep.Lockstep

set_option autoImplicit false

namespace KernelSweep.Sweep

/-- Where a job of the sweep expects its report there is nothing, or a regular file. -/
def ReportsRemovable (s : Sweep) (files : FileSystem) : Prop :=
  ∀ job ∈ s.jobs, files.isRemovable (s.reportPath job.kernel) = true

instance (s : Sweep) (files : FileSystem) : Decidable (s.ReportsRemovable files) :=
  inferInstanceAs (Decidable (∀ job ∈ s.jobs, _))

/-- Programs that do not look at the files. What they answer, and the report a program leaves where
it found none of its own, depend on the calls before and the command; they may do anything else to
any report that keeps it removable. -/
structure BlindToReports (s : Sweep) : Prop where
  outcome : ∀ calls command files files',
    (s.execute calls command files).outcome = (s.execute calls command files').outcome
  streamed : ∀ calls command files files',
    (s.execute calls command files).streamed = (s.execute calls command files').streamed
  cancels : ∀ calls command files files',
    (s.execute calls command files).cancels = (s.execute calls command files').cancels
  removable : ∀ calls command files, s.ReportsRemovable files →
    s.ReportsRemovable (s.execute calls command files).files
  written : ∀ calls command files files', s.ReportsRemovable files → s.ReportsRemovable files' →
    ∀ job ∈ s.jobs, command.args = [job.kernel.name] →
      files.contentAt (s.reportPath job.kernel) = none →
      files'.contentAt (s.reportPath job.kernel) = none →
      (s.execute calls command files).files.contentAt (s.reportPath job.kernel) =
        (s.execute calls command files').files.contentAt (s.reportPath job.kernel)

/-- The label of a primary run that left this at its report path. -/
def labelOf (s : Sweep) (content : Option (List UInt8)) : String :=
  match Occupancy.recordIn content with
  | some r => Occupancy.measuredLabel r s.binder.profile
  | none => Occupancy.unmeasuredLabel

/-- The plan of the search behind a primary run that left this at its report path. -/
def stepsOf (s : Sweep) (content : Option (List UInt8)) : List Occupancy.Step :=
  match Occupancy.recordIn content with
  | some r => s.steps r
  | none => []

/-- A block whose labels and plan come from nothing but the report its own primary run left. A
search that is not cancelled takes the whole plan. -/
structure MeasuresAlone (s : Sweep) (job : Job) (b : Block) : Prop where
  cleared : b.ready.files.find (s.reportPath job.kernel) = .error .notFound
  tried : Tries s job.suite (s.primaryRequest job) b.ready b.primary.call b.primary.result.outcome
    b.measured
  label : b.primary.result.label =
    s.labelOf (b.measured.files.contentAt (s.reportPath job.kernel))
  searched : ∃ taken after, FollowUps s job taken b.measured b.followUps after ∧
    taken <+: s.stepsOf (b.measured.files.contentAt (s.reportPath job.kernel)) ∧
    (after.cancelled = false →
      taken = s.stepsOf (b.measured.files.contentAt (s.reportPath job.kernel)))

/-- Two runs at the same place, with reports that can be removed. -/
structure Abreast (s : Sweep) (st st' : SweepState) : Prop where
  calls : st.calls = st'.calls
  cancelled : st.cancelled = st'.cancelled
  left : s.ReportsRemovable st.files
  right : s.ReportsRemovable st'.files

/-- What a report says, by its content alone. -/
def readingOf (s : Sweep) (kernel : Kernel) (content : Option (List UInt8)) : Reading where
  label := s.labelOf content
  problem :=
    match Occupancy.readContent (s.reportPath kernel) content with
    | .error e => some (.report e)
    | .ok _ => none
  record := Occupancy.recordIn content

theorem reading_eq_readingOf {s : Sweep} {kernel : Kernel} {files : FileSystem}
    (removable : files.isRemovable (s.reportPath kernel) = true) :
    s.reading kernel files = s.readingOf kernel (files.contentAt (s.reportPath kernel)) := by
  rw [reading, Occupancy.load_of_removable removable, readingOf, labelOf]
  cases files.contentAt (s.reportPath kernel) with
  | none => rfl
  | some bytes =>
    simp only [Occupancy.readContent, Occupancy.recordIn, Option.bind_some]
    cases Occupancy.Record.parse bytes <;> rfl

theorem stepsFrom_readingOf {s : Sweep} (measures : s.reduction = true) (kernel : Kernel)
    (content : Option (List UInt8)) :
    s.stepsFrom (s.readingOf kernel content) = s.stepsOf content := by
  simp only [stepsFrom, readingOf, stepsOf, measures]
  cases Occupancy.recordIn content <;> rfl

/-- A primary run of a measured sweep starts without a report of its own. -/
theorem ready_cleared {s : Sweep} (measures : s.reduction = true) {job : Job}
    (known : job ∈ s.jobs) {st : SweepState} (removable : s.ReportsRemovable st.files) :
    (s.ready job st).files.find (s.reportPath job.kernel) = .error .notFound ∧
      s.ReportsRemovable (s.ready job st).files := by
  obtain ⟨gone, others⟩ := withoutReport_of_removable measures (removable job known)
  rw [ready_eq]
  exact ⟨gone, fun other member => others _ (removable other member)⟩

section Blind

variable {s : Sweep} (blind : s.BlindToReports)
include blind

theorem handed_of_abreast (suite : String) (r : BindRequest) {st st' : SweepState}
    (abreast : s.Abreast st st') : s.handed suite r st = s.handed suite r st' := by
  cases bound : s.binder.bind r with
  | error e => rw [handed_of_unbound bound, handed_of_unbound bound]
  | ok env =>
    rw [handed_of_bound bound, handed_of_bound bound, abreast.calls,
      blind.streamed _ _ st.files st'.files]

theorem attempt_outcome_of_abreast (suite : String) (r : BindRequest) {st st' : SweepState}
    (abreast : s.Abreast st st') :
    (s.attempt suite r st).outcome = (s.attempt suite r st').outcome := by
  cases bound : s.binder.bind r with
  | error e => rw [attempt_of_unbound bound, attempt_of_unbound bound]
  | ok env =>
    simp only [attempt_of_bound bound, abreast.calls]
    exact blind.outcome _ _ st.files st'.files

theorem attempt_abreast (suite : String) (r : BindRequest) {st st' : SweepState}
    (abreast : s.Abreast st st') :
    s.Abreast (s.attempt suite r st).state (s.attempt suite r st').state := by
  cases bound : s.binder.bind r with
  | error e =>
    rw [attempt_of_unbound bound, attempt_of_unbound bound]
    exact abreast
  | ok env =>
    rw [attempt_state_of_bound bound, attempt_state_of_bound bound, abreast.calls,
      abreast.cancelled, blind.cancels _ _ st.files st'.files]
    exact ⟨rfl, rfl, blind.removable _ _ _ abreast.left, blind.removable _ _ _ abreast.right⟩

variable (measures : s.reduction = true)
include measures

omit blind in
theorem ready_abreast {job : Job} (known : job ∈ s.jobs) {st st' : SweepState}
    (abreast : s.Abreast st st') : s.Abreast (s.ready job st) (s.ready job st') where
  calls := by rw [ready_eq, ready_eq, abreast.calls]
  cancelled := by rw [ready_eq, ready_eq, abreast.cancelled]
  left := (ready_cleared measures known abreast.left).2
  right := (ready_cleared measures known abreast.right).2

theorem measured_abreast {job : Job} (known : job ∈ s.jobs) {st st' : SweepState}
    (abreast : s.Abreast st st') : s.Abreast (s.measured job st) (s.measured job st') :=
  attempt_abreast blind job.suite (s.primaryRequest job) (ready_abreast measures known abreast)

/-- What a primary run leaves at its report path is its own doing. -/
theorem measured_content {job : Job} (known : job ∈ s.jobs) {st st' : SweepState}
    (abreast : s.Abreast st st') :
    (s.measured job st).files.contentAt (s.reportPath job.kernel) =
      (s.measured job st').files.contentAt (s.reportPath job.kernel) := by
  obtain ⟨gone, removable⟩ := ready_cleared measures known abreast.left
  obtain ⟨gone', removable'⟩ := ready_cleared measures known abreast.right
  have absent := FileSystem.contentAt_of_notFound gone
  have absent' := FileSystem.contentAt_of_notFound gone'
  rw [measured, measured]
  cases bound : s.binder.bind (s.primaryRequest job) with
  -- Without a call the path stays as it was cleared.
  | error e => rw [attempt_of_unbound bound, attempt_of_unbound bound, absent, absent']
  | ok env =>
    rw [attempt_state_of_bound bound, attempt_state_of_bound bound,
      (ready_abreast measures known abreast).calls]
    exact blind.written _ _ _ _ removable removable' job known rfl absent absent'

theorem found_of_abreast {job : Job} (known : job ∈ s.jobs) {st st' : SweepState}
    (abreast : s.Abreast st st') : s.found job st = s.found job st' := by
  have after := measured_abreast blind measures known abreast
  rw [found, found, reading_eq_readingOf (after.left job known),
    reading_eq_readingOf (after.right job known), measured_content blind measures known abreast]

theorem lockstep_of_blind : Lockstep s s s.jobs s.Abreast Eq where
  cancelled abreast := abreast.cancelled
  primary := by
    intro st st' job known abreast
    have ready := ready_abreast measures known abreast
    rw [primaryTrial, primaryTrial, handed_of_abreast blind _ _ ready,
      found_of_abreast blind measures known abreast,
      primaryResult_congr job _ (attempt_outcome_of_abreast blind _ _ ready)
        (s.attempt_problem_withExecutor s.execute _ _ _ _)]
  measured job known abreast := measured_abreast blind measures known abreast
  steps := by
    intro st st' job known abreast
    rw [found_of_abreast blind measures known abreast]
  followUp := by
    intro st st' job known step abreast
    have problem := s.attempt_problem_withExecutor s.execute job.suite (followUpRequest job step)
      st' st
    have outcome := attempt_outcome_of_abreast blind job.suite (followUpRequest job step) abreast
    rw [followUpTrial, followUpTrial, handed_of_abreast blind _ _ abreast, followUpResult,
      followUpResult, outcome, ← problem]
    rfl
  afterFollowUp job known step abreast :=
    attempt_abreast blind job.suite (followUpRequest job step) abreast

theorem measuresAlone_block {job : Job} (known : job ∈ s.jobs) {st : SweepState}
    (removable : s.ReportsRemovable st.files) : MeasuresAlone s job (s.block job st) := by
  have after := (measured_abreast blind measures known ⟨rfl, rfl, removable, removable⟩).left
  have found : s.found job st =
      s.readingOf job.kernel ((s.measured job st).files.contentAt (s.reportPath job.kernel)) :=
    reading_eq_readingOf (after job known)
  have planned : s.stepsFrom (s.found job st) =
      s.stepsOf ((s.measured job st).files.contentAt (s.reportPath job.kernel)) := by
    rw [found, stepsFrom_readingOf measures]
  obtain ⟨taken, begun, traced, whole⟩ :=
    s.followUps_begun job (s.stepsFrom (s.found job st)) (s.measured job st)
  constructor
  · exact (ready_cleared measures known removable).1
  · exact s.tries_attempt job.suite (s.primaryRequest job) (s.ready job st)
  · exact congrArg Reading.label found
  · exact ⟨taken, _, traced, planned ▸ begun, fun going => (whole going).trans planned⟩

/-- Every trial is in the block of its job, and jobs are left out only when the sweep is
cancelled. -/
theorem trials_measure_alone (todo : List Job) (known : ∀ job ∈ todo, job ∈ s.jobs)
    {st : SweepState} (removable : s.ReportsRemovable st.files) :
    ∃ blocks, s.trials todo st = blocks.flatMap Block.trials ∧
      List.Forall₂ (MeasuresAlone s) (todo.take blocks.length) blocks ∧
      ((s.runJobs todo st).2.cancelled = false → blocks.length = todo.length) := by
  apply s.trials_of_blocks (fun before => s.ReportsRemovable before.files) todo st removable
  · intro job member before left
    exact ((lockstep_of_blind blind measures).runJob (known job member)
      ⟨rfl, rfl, left, left⟩).2.left
  · intro job member before left
    exact measuresAlone_block blind measures (known job member) left

end Blind

/-- Whatever reports lie around when a measured sweep starts, it hands over the same commands,
records the same results, counts and prints the same; and the label and the plan of each job come
from the report its own primary run left. -/
theorem run_ignores_stale_reports (s : Sweep) (measures : s.reduction = true)
    (blind : s.BlindToReports) (files files' : FileSystem) (removable : s.ReportsRemovable files)
    (removable' : s.ReportsRemovable files') (ledger : Ledger) :
    commandsOf (s.run ledger { files }).events =
        commandsOf (s.run ledger { files := files' }).events ∧
      (s.run ledger { files }).ledger = (s.run ledger { files := files' }).ledger ∧
      (s.run ledger { files }).printed = (s.run ledger { files := files' }).printed ∧
      ∃ blocks : List Block,
        actsOf (s.run ledger { files }).events =
          (blocks.flatMap Block.trials).flatMap Trial.events ∧
        List.Forall₂ (MeasuresAlone s) (s.jobs.take blocks.length) blocks ∧
        ((s.run ledger { files }).state.cancelled = false → blocks.length = s.jobs.length) := by
  have abreast : s.Abreast { files } { files := files' } := ⟨rfl, rfl, removable, removable'⟩
  have paired := (lockstep_of_blind blind measures).trials s.jobs (fun _ known => known) abreast
  rw [List.forall₂_eq_eq_eq] at paired
  have same : s.trials s.jobs { files } = s.trials s.jobs { files := files' } := paired
  have told := s.run_told ledger { files }
  have told' := s.run_told ledger { files := files' }
  have ledgers : (s.run ledger { files }).ledger = (s.run ledger { files := files' }).ledger := by
    rw [run_ledger, run_ledger, same]
  refine ⟨?_, ledgers, ?_, ?_⟩
  · rw [told.commands, told'.commands, same]
  · rw [run_printed, run_printed, same, ledgers]
  · obtain ⟨blocks, held, alone, whole⟩ :=
      trials_measure_alone blind measures s.jobs (fun _ known => known) abreast.left
    rw [told.acts, held]
    exact ⟨blocks, rfl, alone, whole⟩

/-- Someone else's report lies where the sample expects its own. -/
def staleFiles : FileSystem :=
  FileSystem.standard.insert ["tmp", "mm.txt"]
    (.file (Text.encode "smem 4096\nblocksize 64\noccupancy 0.5\n") 0o644)

theorem sample_blind : sample.BlindToReports where
  outcome _ _ _ _ := rfl
  streamed _ _ _ _ := rfl
  cancels _ _ _ _ := rfl
  removable := by
    intro calls command files removable
    have left : sample.ReportsRemovable sampleFiles := by decide +kernel
    cases calls with
    | nil => exact left
    | cons first rest => exact removable
  written := by
    intro calls command files files' _ _ job _ _ absent absent'
    cases calls with
    | nil => rfl
    | cons first rest => exact absent.trans absent'.symm

theorem sample_ignores_stale_reports :
    (sample.labelOf (staleFiles.contentAt "/tmp/mm.txt") = "16/16@64" ∧
      (sample.run {} { files := staleFiles }).ledger.results.map Result.label =
        ["4/4@512", "3/4@512", "2/4@512", "0/0@0"]) ∧
      commandsOf (sample.run {} { files := staleFiles }).events =
        commandsOf (sample.run {} { files := .standard }).events ∧
      (sample.run {} { files := staleFiles }).ledger =
        (sample.run {} { files := .standard }).ledger ∧
      (sample.run {} { files := staleFiles }).printed =
        (sample.run {} { files := .standard }).printed ∧
      ∃ blocks : List Block,
        actsOf (sample.run {} { files := staleFiles }).events =
          (blocks.flatMap Block.trials).flatMap Trial.events ∧
        List.Forall₂ (MeasuresAlone sample) (sample.jobs.take blocks.length) blocks ∧
        ((sample.run {} { files := staleFiles }).state.cancelled = false →
          blocks.length = sample.jobs.length) :=
  ⟨by decide +kernel, run_ignores_stale_reports sample rfl sample_blind staleFiles .standard
    (by decide +kernel) (by decide +kernel) {}⟩

end KernelSweep.Sweep
