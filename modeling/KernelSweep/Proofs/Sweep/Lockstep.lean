import KernelSweep.Proofs.Sweep.Blocks
import Mathlib.Data.List.Forall2

set_option autoImplicit false

namespace KernelSweep

/-- Between states in `R` both sweeps take the same steps, stay in `R`, and record trials in `T`. -/
structure Lockstep (left right : Sweep) (jobs : List Job) (R : SweepState → SweepState → Prop)
    (T : Trial → Trial → Prop) : Prop where
  cancelled : ∀ {st st'}, R st st' → st.cancelled = st'.cancelled
  primary : ∀ {st st'}, ∀ job ∈ jobs, R st st' →
    T (left.primaryTrial job st) (right.primaryTrial job st')
  measured : ∀ {st st'}, ∀ job ∈ jobs, R st st' → R (left.measured job st) (right.measured job st')
  steps : ∀ {st st'}, ∀ job ∈ jobs, R st st' →
    left.stepsFrom (left.found job st) = right.stepsFrom (right.found job st')
  followUp : ∀ {st st'}, ∀ job ∈ jobs, ∀ step, R st st' →
    T (left.followUpTrial job step st) (right.followUpTrial job step st')
  afterFollowUp : ∀ {st st'}, ∀ job ∈ jobs, ∀ step, R st st' →
    R (left.afterFollowUp job step st) (right.afterFollowUp job step st')

namespace Lockstep

variable {left right : Sweep} {jobs : List Job} {R : SweepState → SweepState → Prop}
  {T : Trial → Trial → Prop}

theorem followUps (lockstep : Lockstep left right jobs R T) {job : Job} (known : job ∈ jobs)
    (steps : List Occupancy.Step) {st st' : SweepState} (related : R st st') :
    List.Forall₂ T (left.followUpTrials job steps st) (right.followUpTrials job steps st') ∧
      R (left.followUps job steps st).2 (right.followUps job steps st').2 := by
  induction steps generalizing st st' with
  | nil => exact ⟨.nil, related⟩
  | cons step rest ih =>
    have same := lockstep.cancelled related
    cases live : st.cancelled with
    | true =>
      rw [live] at same
      rw [left.followUps_of_cancelled job _ live, right.followUps_of_cancelled job _ same.symm,
        left.followUpTrials_of_cancelled job _ live,
        right.followUpTrials_of_cancelled job _ same.symm]
      exact ⟨.nil, related⟩
    | false =>
      rw [live] at same
      obtain ⟨paired, ended⟩ := ih (lockstep.afterFollowUp job known step related)
      rw [left.followUps_of_live job step rest live,
        right.followUps_of_live job step rest same.symm,
        left.followUpTrials_of_live job step rest live,
        right.followUpTrials_of_live job step rest same.symm]
      exact ⟨.cons (lockstep.followUp job known step related) paired, ended⟩

theorem runJob (lockstep : Lockstep left right jobs R T) {job : Job} (known : job ∈ jobs)
    {st st' : SweepState} (related : R st st') :
    List.Forall₂ T (left.jobTrials job st) (right.jobTrials job st') ∧
      R (left.runJob job st).2 (right.runJob job st').2 := by
  obtain ⟨paired, ended⟩ := lockstep.followUps known (left.stepsFrom (left.found job st))
    (lockstep.measured job known related)
  rw [left.runJob_state, right.runJob_state, Sweep.jobTrials, Sweep.jobTrials,
    ← lockstep.steps job known related]
  exact ⟨.cons (lockstep.primary job known related) paired, ended⟩

theorem trials (lockstep : Lockstep left right jobs R T) (todo : List Job)
    (known : ∀ job ∈ todo, job ∈ jobs) {st st' : SweepState} (related : R st st') :
    List.Forall₂ T (left.trials todo st) (right.trials todo st') := by
  induction todo generalizing st st' with
  | nil => exact .nil
  | cons job rest ih =>
    have same := lockstep.cancelled related
    cases live : st.cancelled with
    | true =>
      rw [left.trials_of_cancelled _ live, right.trials_of_cancelled _ (same.symm.trans live)]
      exact .nil
    | false =>
      obtain ⟨paired, ended⟩ := lockstep.runJob (known job (by simp)) related
      have later := ih (fun other member => known other (by simp [member])) ended
      rw [left.trials_of_live job rest live, right.trials_of_live job rest (same.symm.trans live)]
      exact List.rel_append paired later

end Lockstep

namespace Sweep

/-- The same sweep with another executor. -/
def withExecutor (s : Sweep) (execute : Executor) : Sweep := { s with execute }

variable (s : Sweep) (other : Executor)

theorem attempt_state_withExecutor {r : BindRequest} {env : Environment}
    (bound : s.binder.bind r = .ok env) (suite : String) (st : SweepState) :
    ((s.withExecutor other).attempt suite r st).state =
      ⟨(other st.calls (s.command suite r.kernel env) st.files).files,
        st.calls ++ [s.command suite r.kernel env],
        st.cancelled || (other st.calls (s.command suite r.kernel env) st.files).cancels⟩ :=
  attempt_state_of_bound (s := s.withExecutor other) bound suite st

theorem attempt_problem_withExecutor (suite : String) (r : BindRequest) (st st' : SweepState) :
    ((s.withExecutor other).attempt suite r st').problem = (s.attempt suite r st).problem := by
  unfold attempt withExecutor
  cases s.binder.bind r <;> rfl

theorem handed_command_withExecutor (suite : String) (r : BindRequest) (st st' : SweepState) :
    ((s.withExecutor other).handed suite r st').toOption.map Call.command =
      (s.handed suite r st).toOption.map Call.command := by
  unfold handed withExecutor
  cases s.binder.bind r <;> rfl

end Sweep

/-- Both do the same to the files, whatever they answer. -/
def Executor.SameEffect (execute other : Executor) : Prop :=
  ∀ calls command files, (other calls command files).files = (execute calls command files).files

/-- The same result, the outcome aside. -/
structure Result.AgreesBesidesOutcome (r other : Result) : Prop where
  kernel : other.kernel = r.kernel
  setting : other.setting = r.setting
  label : other.label = r.label
  followUp : other.followUp = r.followUp
  problem : other.problem = r.problem

theorem Result.AgreesBesidesOutcome.refl (r : Result) : r.AgreesBesidesOutcome r :=
  ⟨rfl, rfl, rfl, rfl, rfl⟩

structure Trial.AgreesBesidesOutcome (t other : Trial) : Prop where
  command : other.command? = t.command?
  result : t.result.AgreesBesidesOutcome other.result

theorem commandsOfTrials_of_agree {trials others : List Trial}
    (agree : List.Forall₂ Trial.AgreesBesidesOutcome trials others) :
    commandsOfTrials others = commandsOfTrials trials := by
  induction agree with
  | nil => rfl
  | cons here _ ih => rw [commandsOfTrials_cons, commandsOfTrials_cons, here.command, ih]

namespace Sweep

section SameEffect

variable {s : Sweep} {other : Executor} (same : s.execute.SameEffect other)
  (quiet : s.execute.NeverCancels) (quiet' : other.NeverCancels)
include same quiet quiet'

theorem attempt_state_of_sameEffect (suite : String) (r : BindRequest) (st : SweepState) :
    ((s.withExecutor other).attempt suite r st).state = (s.attempt suite r st).state := by
  cases bound : s.binder.bind r with
  | error e => rw [attempt_of_unbound bound, attempt_of_unbound (s := s.withExecutor other) bound]
  | ok env =>
    rw [attempt_state_of_bound bound, attempt_state_withExecutor s other bound, same, quiet, quiet']

theorem found_of_sameEffect (job : Job) (st : SweepState) :
    (s.withExecutor other).found job st = s.found job st := by
  have left : (s.withExecutor other).measured job st = s.measured job st :=
    attempt_state_of_sameEffect same quiet quiet' job.suite (s.primaryRequest job) (s.ready job st)
  rw [found, left]
  rfl

/-- No state of one run differs from the state of the other at the same place. -/
theorem lockstep_of_sameEffect :
    Lockstep s (s.withExecutor other) s.jobs Eq Trial.AgreesBesidesOutcome where
  cancelled := by
    rintro st _ rfl
    rfl
  primary := by
    rintro st _ job - rfl
    have found := found_of_sameEffect same quiet quiet' job st
    refine ⟨s.handed_command_withExecutor other _ _ _ _, rfl, rfl, ?_, rfl, ?_⟩
    · rw [primaryTrial, primaryResult, found]
      rfl
    · have problem := s.attempt_problem_withExecutor other job.suite (s.primaryRequest job)
        (s.ready job st) ((s.withExecutor other).ready job st)
      simp only [primaryTrial, primaryResult, found]
      rw [← problem]
      rfl
  measured := by
    rintro st _ job - rfl
    exact (attempt_state_of_sameEffect same quiet quiet' ..).symm
  steps := by
    rintro st _ job - rfl
    rw [found_of_sameEffect same quiet quiet']
    rfl
  followUp := by
    rintro st _ job - step rfl
    exact ⟨s.handed_command_withExecutor other _ _ _ _, rfl, rfl, rfl, rfl,
      s.attempt_problem_withExecutor other _ _ _ _⟩
  afterFollowUp := by
    rintro st _ job - step rfl
    exact (attempt_state_of_sameEffect same quiet quiet' ..).symm

end SameEffect

/-- Failures are local to their run: what programs answer changes neither which commands follow nor
anything else that is recorded, and the totals differ by as many failures as the results do. -/
theorem run_of_sameEffect (s : Sweep) (other : Executor) (same : s.execute.SameEffect other)
    (quiet : s.execute.NeverCancels) (quiet' : other.NeverCancels) (ledger : Ledger)
    (st : SweepState) :
    commandsOf ((s.withExecutor other).run ledger st).events =
        commandsOf (s.run ledger st).events ∧
      List.Forall₂ Result.AgreesBesidesOutcome (s.run ledger st).ledger.results
        ((s.withExecutor other).run ledger st).ledger.results ∧
      (s.run ledger st).ledger.tally.failures -
          ((s.withExecutor other).run ledger st).ledger.tally.failures =
        failureCount (s.run ledger st).ledger.results -
          failureCount ((s.withExecutor other).run ledger st).ledger.results := by
  have agree : List.Forall₂ Trial.AgreesBesidesOutcome (s.trials s.jobs st)
      ((s.withExecutor other).trials s.jobs st) :=
    (lockstep_of_sameEffect same quiet quiet').trials s.jobs (fun _ known => known) rfl
  have recorded := (s.withExecutor other).run_ledger ledger st
  rw [show (s.withExecutor other).jobs = s.jobs from rfl] at recorded
  refine ⟨?_, ?_, ?_⟩
  · rw [(s.run_told ledger st).commands, ((s.withExecutor other).run_told ledger st).commands]
    exact commandsOfTrials_of_agree agree
  · rw [s.run_ledger, recorded, Ledger.results_recordAll, Ledger.results_recordAll]
    apply List.rel_append
    · exact List.forall₂_same.mpr fun r _ => .refl r
    · rw [List.forall₂_map_left_iff, List.forall₂_map_right_iff]
      exact agree.imp fun _ _ here => here.result
  · rw [s.run_ledger, recorded, Ledger.results_recordAll, Ledger.results_recordAll,
      Ledger.tally_recordAll, Ledger.tally_recordAll, failureCount_append, failureCount_append]
    push_cast
    omega

/-- Does what the sample does and fails at every other call. -/
def sampleFailing : Executor := fun calls command files =>
  { sampleExecute calls command files with
    outcome := if calls.length % 2 = 0 then { exit := 3 } else { exit := -1, timedOut := true } }

theorem sample_of_sameEffect :
    (sample.run {} { files := .standard }).ledger.tally = ⟨4, 0⟩ ∧
      ((sample.withExecutor sampleFailing).run {} { files := .standard }).ledger.tally = ⟨4, 4⟩ ∧
      commandsOf ((sample.withExecutor sampleFailing).run {} { files := .standard }).events =
        commandsOf (sample.run {} { files := .standard }).events ∧
      List.Forall₂ Result.AgreesBesidesOutcome
        (sample.run {} { files := .standard }).ledger.results
        ((sample.withExecutor sampleFailing).run {} { files := .standard }).ledger.results := by
  obtain ⟨commands, results, -⟩ := run_of_sameEffect sample sampleFailing (fun _ _ _ => rfl)
    sample_quiet (fun _ _ _ => rfl) {} { files := .standard }
  exact ⟨by decide +kernel, by decide +kernel, commands, results⟩

end Sweep

end KernelSweep
