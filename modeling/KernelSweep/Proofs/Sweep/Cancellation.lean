import KernelSweep.Proofs.Sweep.Lockstep

set_option autoImplicit false

namespace KernelSweep

/-- The first `n` calls are answered as by `execute`, and the last of them is cancelled. What comes
after them is left open. -/
structure Executor.CancelsAt (n : Nat) (execute cut : Executor) : Prop where
  outcome : ∀ calls command files, calls.length < n →
    (cut calls command files).outcome = (execute calls command files).outcome
  files : ∀ calls command files, calls.length < n →
    (cut calls command files).files = (execute calls command files).files
  streamed : ∀ calls command files, calls.length < n →
    (cut calls command files).streamed = (execute calls command files).streamed
  before : ∀ calls command files, calls.length + 1 < n →
    (cut calls command files).cancels = false
  during : ∀ calls command files, calls.length + 1 = n →
    (cut calls command files).cancels = true

/-- How far two runs have come after `calls` earlier calls: no difference so far, or the call
number `n` was the last of one and not of the other. -/
inductive Cut (n calls : Nat) : List Trial × SweepState → List Trial × SweepState → Prop
  | ahead {trials : List Trial} {last : SweepState} (live : last.cancelled = false)
      (counted : last.calls.length = calls + (commandsOfTrials trials).length)
      (fewer : last.calls.length < n) : Cut n calls (trials, last) (trials, last)
  | reached {front back : List Trial} {t : Trial} {last stop : SweepState}
      (called : t.command?.isSome = true)
      (counted : calls + (commandsOfTrials front).length + 1 = n)
      (stopped : stop.cancelled = true) :
      Cut n calls (front ++ t :: back, last) (front ++ [t], stop)

theorem Cut.now {n calls : Nat} {t : Trial} {last stop : SweepState}
    (stopped : stop.cancelled = true) (final : calls + 1 = n) (called : t.command?.isSome = true) :
    Cut n calls ([t], last) ([t], stop) :=
  @reached n calls [] [] t last stop called final stopped

/-- What follows matters only while the runs are the same. -/
theorem Cut.append {n calls : Nat} {early early' late late' : List Trial}
    {middle middle' last last' : SweepState}
    (first : Cut n calls (early, middle) (early', middle'))
    (second : middle' = middle → middle.cancelled = false → middle.calls.length < n →
      Cut n middle.calls.length (late, last) (late', last'))
    (halted : middle'.cancelled = true → late' = [] ∧ last'.cancelled = true) :
    Cut n calls (early ++ late, last) (early' ++ late', last') := by
  cases first with
  | ahead live counted fewer =>
    cases second rfl live fewer with
    | ahead live' counted' fewer' =>
      refine .ahead live' ?_ fewer'
      rw [commandsOfTrials_append, List.length_append]
      omega
    | @reached front back t _ _ called counted' stopped =>
      rw [← List.append_assoc, ← List.append_assoc]
      refine .reached called ?_ stopped
      rw [commandsOfTrials_append, List.length_append]
      omega
  | @reached front back t _ _ called counted stopped =>
    obtain ⟨rfl, stopped'⟩ := halted stopped
    rw [List.append_nil, List.append_assoc, List.cons_append]
    exact .reached called counted stopped'

/-- Runs that differ only after call number `n` do differ when one of them gets that far. -/
theorem Cut.reached_of_le {n calls : Nat} {trials trials' : List Trial} {last last' : SweepState}
    (runs : Cut n calls (trials, last) (trials', last'))
    (enough : n ≤ calls + (commandsOfTrials trials).length) :
    ∃ (front back : List Trial) (t : Trial), trials = front ++ t :: back ∧
      trials' = front ++ [t] ∧ t.command?.isSome = true ∧
      calls + (commandsOfTrials front).length + 1 = n := by
  cases runs with
  | ahead live counted fewer => omega
  | reached called counted stopped => exact ⟨_, _, _, rfl, rfl, called, counted⟩

namespace Sweep

section CancelsAt

variable {s : Sweep} {cut : Executor} {n : Nat} (quiet : s.execute.NeverCancels)
  (cancels : s.execute.CancelsAt n cut)
include cancels

theorem handed_cut (suite : String) (r : BindRequest) {st : SweepState}
    (fewer : st.calls.length < n) :
    (s.withExecutor cut).handed suite r st = s.handed suite r st := by
  unfold handed withExecutor
  cases s.binder.bind r with
  | error e => rfl
  | ok env =>
    simp only [Except.map, Except.ok.injEq, Call.mk.injEq]
    exact ⟨rfl, cancels.streamed _ _ _ fewer⟩

theorem attempt_outcome_cut (suite : String) (r : BindRequest) {st : SweepState}
    (fewer : st.calls.length < n) :
    ((s.withExecutor cut).attempt suite r st).outcome = (s.attempt suite r st).outcome := by
  unfold attempt withExecutor
  cases s.binder.bind r with
  | error e => rfl
  | ok env => exact cancels.outcome _ _ _ fewer

theorem attempt_files_cut (suite : String) (r : BindRequest) {st : SweepState}
    (fewer : st.calls.length < n) :
    ((s.withExecutor cut).attempt suite r st).state.files = (s.attempt suite r st).state.files := by
  unfold attempt withExecutor
  cases s.binder.bind r with
  | error e => rfl
  | ok env => exact cancels.files _ _ _ fewer

theorem followUpTrial_cut (job : Job) (step : Occupancy.Step) {st : SweepState}
    (fewer : st.calls.length < n) :
    (s.withExecutor cut).followUpTrial job step st = s.followUpTrial job step st := by
  simp only [followUpTrial, followUpResult, handed_cut cancels _ _ fewer,
    attempt_outcome_cut cancels _ _ fewer, attempt_problem_withExecutor s cut _ _ st st]

theorem found_cut (job : Job) {st : SweepState} (fewer : (s.ready job st).calls.length < n) :
    (s.withExecutor cut).found job st = s.found job st := by
  have left : ((s.withExecutor cut).measured job st).files = (s.measured job st).files :=
    attempt_files_cut cancels job.suite (s.primaryRequest job) fewer
  rw [found, left]
  rfl

theorem primaryTrial_cut (job : Job) {st : SweepState} (fewer : (s.ready job st).calls.length < n) :
    (s.withExecutor cut).primaryTrial job st = s.primaryTrial job st := by
  have outcome := attempt_outcome_cut cancels job.suite (s.primaryRequest job) fewer
  have problem := s.attempt_problem_withExecutor cut job.suite (s.primaryRequest job)
    (s.ready job st) (s.ready job st)
  have result := primaryResult_congr job (s.found job st) outcome problem
  rw [primaryTrial, found_cut cancels job fewer, Trial.mk.injEq]
  exact ⟨handed_cut cancels job.suite (s.primaryRequest job) fewer, result⟩

include quiet

/-- One request tried by both: the cut comes with the call number `n` or not yet. -/
theorem attempt_cut (suite : String) (r : BindRequest) {st : SweepState} {t : Trial}
    (handed : t.call = s.handed suite r st) (live : st.cancelled = false)
    (fewer : st.calls.length < n) :
    Cut n st.calls.length ([t], (s.attempt suite r st).state)
      ([t], ((s.withExecutor cut).attempt suite r st).state) := by
  cases bound : s.binder.bind r with
  | error e =>
    have silent : commandsOfTrials [t] = [] := by
      rw [handed_of_unbound bound] at handed
      simp only [commandsOfTrials_cons, Trial.command?, handed]
      rfl
    rw [attempt_of_unbound bound, attempt_of_unbound (s := s.withExecutor cut) bound]
    exact .ahead live (by rw [silent]; rfl) fewer
  | ok env =>
    have called : t.command? = some (s.command suite r.kernel env) := by
      rw [handed_of_bound bound] at handed
      rw [Trial.command?, handed]
      rfl
    rw [attempt_state_of_bound bound, attempt_state_withExecutor s cut bound,
      cancels.files _ _ _ fewer]
    by_cases final : st.calls.length + 1 = n
    · apply Cut.now _ final
      · rw [called, Option.isSome_some]
      · rw [cancels.during _ _ _ final, Bool.or_true]
    · have counted := length_commandsOfTrials_singleton (Option.isSome_of_eq_some called)
      rw [cancels.before _ _ _ (by omega), quiet]
      refine .ahead ?_ ?_ ?_
      · rw [live, Bool.or_false]
      · rw [counted, List.length_append, List.length_singleton]
      · rw [List.length_append, List.length_singleton]
        omega

theorem followUps_cut (job : Job) (steps : List Occupancy.Step) {st : SweepState}
    (live : st.cancelled = false) (fewer : st.calls.length < n) :
    Cut n st.calls.length (s.followUpTrials job steps st, (s.followUps job steps st).2)
      ((s.withExecutor cut).followUpTrials job steps st,
        ((s.withExecutor cut).followUps job steps st).2) := by
  induction steps generalizing st with
  | nil => exact .ahead live rfl fewer
  | cons step rest ih =>
    have first := attempt_cut quiet cancels job.suite (followUpRequest job step)
      (t := s.followUpTrial job step st) rfl live fewer
    rw [s.followUps_of_live job step rest live,
      (s.withExecutor cut).followUps_of_live job step rest live,
      s.followUpTrials_of_live job step rest live,
      (s.withExecutor cut).followUpTrials_of_live job step rest live,
      followUpTrial_cut cancels job step fewer]
    apply first.append
    · intro same live' fewer'
      have later := ih live' fewer'
      rw [afterFollowUp, afterFollowUp, same]
      exact later
    · intro stopped
      rw [afterFollowUp, followUps_of_cancelled _ job rest stopped,
        followUpTrials_of_cancelled _ job rest stopped]
      exact ⟨rfl, stopped⟩

theorem runJob_cut (job : Job) {st : SweepState} (live : st.cancelled = false)
    (fewer : st.calls.length < n) :
    Cut n st.calls.length (s.jobTrials job st, (s.runJob job st).2)
      ((s.withExecutor cut).jobTrials job st, ((s.withExecutor cut).runJob job st).2) := by
  have readyLive : (s.ready job st).cancelled = false := by rw [ready_eq, live]
  have readyCalls : (s.ready job st).calls = st.calls := by rw [ready_eq]
  have readyFewer : (s.ready job st).calls.length < n := by rw [readyCalls]; exact fewer
  have first := attempt_cut quiet cancels job.suite (s.primaryRequest job)
    (t := s.primaryTrial job st) rfl readyLive readyFewer
  rw [readyCalls] at first
  rw [runJob_state, runJob_state, jobTrials, jobTrials, primaryTrial_cut cancels job readyFewer,
    found_cut cancels job readyFewer]
  apply first.append
  · intro same live' fewer'
    have later := followUps_cut quiet cancels job (s.stepsFrom (s.found job st)) live' fewer'
    have measured : (s.withExecutor cut).measured job st = s.measured job st := same
    rw [measured]
    exact later
  · intro stopped
    have halted : ((s.withExecutor cut).measured job st).cancelled = true := stopped
    rw [followUps_of_cancelled _ job _ halted, followUpTrials_of_cancelled _ job _ halted]
    exact ⟨rfl, halted⟩

theorem trials_cut (jobs : List Job) (st : SweepState) (live : st.cancelled = false)
    (fewer : st.calls.length < n) :
    Cut n st.calls.length (s.trials jobs st, (s.runJobs jobs st).2)
      ((s.withExecutor cut).trials jobs st, ((s.withExecutor cut).runJobs jobs st).2) := by
  induction jobs generalizing st with
  | nil => exact .ahead live rfl fewer
  | cons job rest ih =>
    rw [s.runJobs_of_live job rest live, (s.withExecutor cut).runJobs_of_live job rest live,
      s.trials_of_live job rest live, (s.withExecutor cut).trials_of_live job rest live]
    apply (runJob_cut quiet cancels job live fewer).append
    · intro same live' fewer'
      rw [same]
      exact ih _ live' fewer'
    · intro stopped
      rw [trials_of_cancelled _ rest stopped,
        ((s.withExecutor cut).runJobs_of_cancelled rest stopped).2]
      exact ⟨rfl, stopped⟩

end CancelsAt

/-- A sweep cancelled during its call number `n` makes no call after it and records what the sweep
left alone records up to the result of that call, and no more. One that is cancelled from the
start does nothing at all. -/
theorem run_of_cancelsAt (s : Sweep) (files : FileSystem) :
    (∀ (cut : Executor) (n : Nat), s.execute.NeverCancels → s.execute.CancelsAt n cut → 0 < n →
      n ≤ (commandsOf (s.run {} { files }).events).length →
      ∃ (front back : List Trial) (last : Trial),
        (s.run {} { files }).Tells (front ++ last :: back) ∧
        last.command?.isSome = true ∧ (commandsOfTrials front).length + 1 = n ∧
        ((s.withExecutor cut).run {} { files }).Tells (front ++ [last]) ∧
        commandsOf ((s.withExecutor cut).run {} { files }).events =
          (commandsOf (s.run {} { files }).events).take n) ∧
    (s.run {} { files, cancelled := true }).Tells [] ∧
      (s.run {} { files, cancelled := true }).state.files = files ∧
      (s.run {} { files, cancelled := true }).printed =
        Text.encode (Tally.rule ++ "\n0 failures out of 0\n") := by
  constructor
  · intro cut n quiet cancels positive enough
    have full := s.run_tells { files }
    have stopped := (s.withExecutor cut).run_tells { files }
    have runs : Cut n 0 _ _ := trials_cut quiet cancels s.jobs { files } rfl positive
    rw [full.commands] at enough
    obtain ⟨front, back, last, all, kept, called, counted⟩ :=
      runs.reached_of_le (by rw [Nat.zero_add]; exact enough)
    rw [Nat.zero_add] at counted
    rw [all] at full
    rw [show (s.withExecutor cut).jobs = s.jobs from rfl, kept] at stopped
    have length : (commandsOfTrials (front ++ [last])).length = n := by
      rw [commandsOfTrials_append, List.length_append, length_commandsOfTrials_singleton called,
        counted]
    have parts : front ++ last :: back = front ++ [last] ++ back := List.append_cons ..
    refine ⟨front, back, last, full, called, counted, stopped, ?_⟩
    rw [full.commands, stopped.commands, parts, commandsOfTrials_append _ back,
      List.take_left' length]
  · have still := s.run_tells { files, cancelled := true }
    rw [s.trials_of_cancelled s.jobs rfl] at still
    have state : (s.run {} { files, cancelled := true }).state = { files, cancelled := true } :=
      (s.runJobs_of_cancelled s.jobs rfl).2
    refine ⟨still, ?_, ?_⟩
    · rw [state]
    · rw [still.printed]
      rfl

/-- Cancelled during the first follow-up run. -/
def sampleInterrupted : Executor := fun calls command files =>
  { sampleExecute calls command files with cancels := calls.length == 1 }

theorem sample_of_cancelsAt :
    ((sample.withExecutor sampleInterrupted).run {} { files := .standard }).ledger.results.map
        Result.label = ["4/4@512", "3/4@512"] ∧
      ∃ (front back : List Trial) (last : Trial),
        (sample.run {} { files := .standard }).Tells (front ++ last :: back) ∧
        last.command?.isSome = true ∧ (commandsOfTrials front).length + 1 = 2 ∧
        ((sample.withExecutor sampleInterrupted).run {} { files := .standard }).Tells
          (front ++ [last]) ∧
        commandsOf ((sample.withExecutor sampleInterrupted).run {} { files := .standard }).events =
          (commandsOf (sample.run {} { files := .standard }).events).take 2 := by
  have cancels : sample.execute.CancelsAt 2 sampleInterrupted := by
    refine ⟨fun _ _ _ _ => rfl, fun _ _ _ _ => rfl, fun _ _ _ _ => rfl, ?_, ?_⟩
    · intro calls _ _ before
      exact beq_false_of_ne (by omega)
    · intro calls _ _ during
      exact beq_iff_eq.mpr (by omega)
  exact ⟨by decide +kernel, (run_of_cancelsAt sample .standard).1 sampleInterrupted 2 sample_quiet
    cancels (by decide) (by decide +kernel)⟩

end Sweep

end KernelSweep
