import KernelSweep.Proofs.Report.Ledger
import KernelSweep.Sweep.Run

set_option autoImplicit false

namespace KernelSweep

/-- The log aside, what happens in a run. -/
def Event.isAct : Event → Bool
  | .logged _ => false
  | .called _ | .streamed _ | .recorded _ => true

def actsOf (events : List Event) : List Event := events.filter Event.isAct

@[simp] theorem actsOf_logged (entry : LogEntry) (events : List Event) :
    actsOf (.logged entry :: events) = actsOf events := rfl

@[simp] theorem actsOf_append (first second : List Event) :
    actsOf (first ++ second) = actsOf first ++ actsOf second := List.filter_append ..

@[simp] theorem resultsOf_append (first second : List Event) :
    resultsOf (first ++ second) = resultsOf first ++ resultsOf second := List.filterMap_append ..

@[simp] theorem commandsOf_append (first second : List Event) :
    commandsOf (first ++ second) = commandsOf first ++ commandsOf second :=
  List.filterMap_append ..

@[simp] theorem printedOf_append (first second : List Event) :
    printedOf (first ++ second) = printedOf first ++ printedOf second := List.flatMap_append

theorem resultsOf_actsOf (events : List Event) : resultsOf (actsOf events) = resultsOf events := by
  simp only [resultsOf, actsOf, List.filterMap_filter]
  congr
  funext event
  cases event <;> rfl

theorem commandsOf_actsOf (events : List Event) :
    commandsOf (actsOf events) = commandsOf events := by
  simp only [commandsOf, actsOf, List.filterMap_filter]
  congr
  funext event
  cases event <;> rfl

theorem printedOf_cons (event : Event) (rest : List Event) :
    printedOf (event :: rest) = event.printed ++ printedOf rest := List.flatMap_cons

theorem printedOf_actsOf (events : List Event) : printedOf (actsOf events) = printedOf events := by
  induction events with
  | nil => rfl
  | cons event rest ih =>
    rw [printedOf_cons, ← ih]
    cases event with
    | logged entry => rw [actsOf_logged, Event.printed, List.nil_append]
    | called command | streamed text | recorded result => exact printedOf_cons _ (actsOf rest)

/-- A call of the executor. -/
structure Call where
  command : Command
  /-- Output passed on while the program ran. -/
  streamed : Text.Bytes

structure Trial where
  call : Except BindError Call
  result : Result

namespace Trial

def command? (t : Trial) : Option Command := t.call.toOption.map Call.command

/-- What went wrong before there was anything to run. -/
def problem (t : Trial) : Option Problem :=
  match t.call with
  | .error e => some (.binding e)
  | .ok _ => none

def events (t : Trial) : List Event :=
  match t.call with
  | .error _ => [.recorded t.result]
  | .ok call => [.called call.command, .streamed call.streamed, .recorded t.result]

def printed (t : Trial) : Text.Bytes :=
  match t.call with
  | .error _ => t.result.printed
  | .ok call => call.streamed ++ t.result.printed

theorem resultsOf_events (t : Trial) : resultsOf t.events = [t.result] := by
  unfold events
  split <;> rfl

theorem commandsOf_events (t : Trial) : commandsOf t.events = t.command?.toList := by
  unfold events command?
  cases t.call <;> rfl

theorem printedOf_events (t : Trial) : printedOf t.events = t.printed := by
  unfold events printed
  cases t.call <;> simp [printedOf, Event.printed]

end Trial

def commandsOfTrials (trials : List Trial) : List Command := trials.filterMap Trial.command?

@[simp] theorem commandsOfTrials_nil : commandsOfTrials [] = [] := rfl

@[simp] theorem commandsOfTrials_append (early late : List Trial) :
    commandsOfTrials (early ++ late) = commandsOfTrials early ++ commandsOfTrials late :=
  List.filterMap_append ..

theorem commandsOfTrials_cons (t : Trial) (rest : List Trial) :
    commandsOfTrials (t :: rest) = t.command?.toList ++ commandsOfTrials rest := by
  cases called : t.command? <;> simp [commandsOfTrials, called]

theorem length_commandsOfTrials_singleton {t : Trial} (called : t.command?.isSome = true) :
    (commandsOfTrials [t]).length = 1 := by
  rw [commandsOfTrials_cons, commandsOfTrials_nil, List.append_nil, Option.length_toList, called,
    if_pos rfl]

/-- From `start` on, the trials are all that happened, in their order, and the calls among them
were added to those before. -/
structure Told (start : SweepState) (out : List Event × SweepState) (trials : List Trial) :
    Prop where
  acts : actsOf out.1 = trials.flatMap Trial.events
  calls : out.2.calls = start.calls ++ commandsOfTrials trials

namespace Told

theorem nothing {start last : SweepState} {events : List Event} (silent : actsOf events = [])
    (same : last.calls = start.calls) : Told start (events, last) [] :=
  ⟨silent, by rw [same, commandsOfTrials_nil, List.append_nil]⟩

theorem append {start : SweepState} {first second : List Event × SweepState}
    {early late : List Trial} (before : Told start first early) (after : Told first.2 second late) :
    Told start (first.1 ++ second.1, second.2) (early ++ late) := by
  constructor
  · rw [actsOf_append, before.acts, after.acts, List.flatMap_append]
  · rw [after.calls, before.calls, List.append_assoc, commandsOfTrials_append]

theorem logged {start : SweepState} {out : List Event × SweepState} {trials : List Trial}
    (told : Told start out trials) (entry : LogEntry) :
    Told start (.logged entry :: out.1, out.2) trials :=
  ⟨told.acts, told.calls⟩

variable {start : SweepState} {out : List Event × SweepState} {trials : List Trial}

theorem results (told : Told start out trials) : resultsOf out.1 = trials.map Trial.result := by
  rw [← resultsOf_actsOf, told.acts]
  clear told
  induction trials with
  | nil => rfl
  | cons t rest ih =>
    rw [List.flatMap_cons, resultsOf_append, t.resultsOf_events, ih, List.map_cons,
      List.singleton_append]

theorem commands (told : Told start out trials) : commandsOf out.1 = commandsOfTrials trials := by
  rw [← commandsOf_actsOf, told.acts]
  clear told
  induction trials with
  | nil => rfl
  | cons t rest ih =>
    rw [List.flatMap_cons, commandsOf_append, t.commandsOf_events, ih, commandsOfTrials_cons]

theorem printed (told : Told start out trials) :
    printedOf out.1 = trials.flatMap Trial.printed := by
  rw [← printedOf_actsOf, told.acts]
  clear told
  induction trials with
  | nil => rfl
  | cons t rest ih =>
    rw [List.flatMap_cons, printedOf_append, t.printedOf_events, ih, List.flatMap_cons]

end Told

namespace Sweep

/-- The call a request leads to, or why it leads to none. -/
def handed (s : Sweep) (suite : String) (r : BindRequest) (st : SweepState) :
    Except BindError Call :=
  (s.binder.bind r).map fun env =>
    let command := s.command suite r.kernel env
    ⟨command, (s.execute st.calls command st.files).streamed⟩

theorem attempt_of_unbound {s : Sweep} {r : BindRequest} {e : BindError}
    (unbound : s.binder.bind r = .error e) (suite : String) (st : SweepState) :
    s.attempt suite r st = ⟨{ exit := -1 }, some (.binding e), [], st⟩ := by
  simp only [attempt, unbound]

theorem attempt_of_bound {s : Sweep} {r : BindRequest} {env : Environment}
    (bound : s.binder.bind r = .ok env) (suite : String) (st : SweepState) :
    s.attempt suite r st =
      let command := s.command suite r.kernel env
      let reply := s.execute st.calls command st.files
      { outcome := reply.outcome
        problem := none
        events := [.logged (runningEntry command r), .called command, .streamed reply.streamed,
          .logged (finishedEntry command reply.outcome)]
        state := ⟨reply.files, st.calls ++ [command], st.cancelled || reply.cancels⟩ } := by
  simp only [attempt, bound]

theorem attempt_state_of_bound {s : Sweep} {r : BindRequest} {env : Environment}
    (bound : s.binder.bind r = .ok env) (suite : String) (st : SweepState) :
    (s.attempt suite r st).state =
      ⟨(s.execute st.calls (s.command suite r.kernel env) st.files).files,
        st.calls ++ [s.command suite r.kernel env],
        st.cancelled || (s.execute st.calls (s.command suite r.kernel env) st.files).cancels⟩ := by
  rw [attempt_of_bound bound]

theorem handed_of_unbound {s : Sweep} {r : BindRequest} {e : BindError}
    (unbound : s.binder.bind r = .error e) (suite : String) (st : SweepState) :
    s.handed suite r st = .error e := by
  simp only [handed, unbound, Except.map]

theorem handed_of_bound {s : Sweep} {r : BindRequest} {env : Environment}
    (bound : s.binder.bind r = .ok env) (suite : String) (st : SweepState) :
    s.handed suite r st =
      .ok ⟨s.command suite r.kernel env,
        (s.execute st.calls (s.command suite r.kernel env) st.files).streamed⟩ := by
  simp only [handed, bound, Except.map]

theorem attempt_told (s : Sweep) (suite : String) (r : BindRequest) (st : SweepState)
    (result : Result) :
    Told st ((s.attempt suite r st).events ++ [.recorded result], (s.attempt suite r st).state)
      [⟨s.handed suite r st, result⟩] := by
  cases bound : s.binder.bind r with
  | error e =>
    rw [attempt_of_unbound bound, handed_of_unbound bound]
    exact ⟨rfl, (List.append_nil _).symm⟩
  | ok env =>
    rw [attempt_of_bound bound, handed_of_bound bound]
    exact ⟨rfl, rfl⟩

theorem attempt_problem (s : Sweep) (suite : String) (r : BindRequest) (st : SweepState)
    (result : Result) :
    (s.attempt suite r st).problem = Trial.problem ⟨s.handed suite r st, result⟩ := by
  cases bound : s.binder.bind r with
  | error e => rw [attempt_of_unbound bound, handed_of_unbound bound]; rfl
  | ok env => rw [attempt_of_bound bound, handed_of_bound bound]; rfl

theorem primaryResult_congr (job : Job) (found : Reading) {a b : Attempt}
    (outcome : a.outcome = b.outcome) (problem : a.problem = b.problem) :
    primaryResult job a found = primaryResult job b found := by
  simp only [primaryResult, outcome, problem]

def followUpTrial (s : Sweep) (job : Job) (step : Occupancy.Step) (st : SweepState) : Trial :=
  ⟨s.handed job.suite (followUpRequest job step) st,
    followUpResult job step (s.attempt job.suite (followUpRequest job step) st)⟩

/-- The state a follow-up run leaves. -/
def afterFollowUp (s : Sweep) (job : Job) (step : Occupancy.Step) (st : SweepState) : SweepState :=
  (s.attempt job.suite (followUpRequest job step) st).state

def followUpTrials (s : Sweep) (job : Job) : List Occupancy.Step → SweepState → List Trial
  | [], _ => []
  | step :: rest, st =>
    if st.cancelled then []
    else s.followUpTrial job step st :: followUpTrials s job rest (s.afterFollowUp job step st)

/-- The state a primary run starts from, any old report taken away. -/
def ready (s : Sweep) (job : Job) (st : SweepState) : SweepState :=
  (s.clearReport job.kernel st).2

/-- The state a primary run leaves. -/
def measured (s : Sweep) (job : Job) (st : SweepState) : SweepState :=
  (s.attempt job.suite (s.primaryRequest job) (s.ready job st)).state

def found (s : Sweep) (job : Job) (st : SweepState) : Reading :=
  s.reading job.kernel (s.measured job st).files

def primaryTrial (s : Sweep) (job : Job) (st : SweepState) : Trial :=
  ⟨s.handed job.suite (s.primaryRequest job) (s.ready job st),
    primaryResult job (s.attempt job.suite (s.primaryRequest job) (s.ready job st))
      (s.found job st)⟩

/-- The steps taken behind a primary run. -/
def stepsFrom (s : Sweep) (found : Reading) : List Occupancy.Step :=
  match s.reduction, found.record with
  | true, some r => s.steps r
  | _, _ => []

def jobTrials (s : Sweep) (job : Job) (st : SweepState) : List Trial :=
  s.primaryTrial job st ::
    s.followUpTrials job (s.stepsFrom (s.found job st)) (s.measured job st)

def trials (s : Sweep) : List Job → SweepState → List Trial
  | [], _ => []
  | job :: rest, st =>
    if st.cancelled then [] else s.jobTrials job st ++ trials s rest (s.runJob job st).2

theorem clearReport_told (s : Sweep) (kernel : Kernel) (st : SweepState) :
    Told st (s.clearReport kernel st) [] := by
  unfold clearReport
  split
  · split
    · exact .nothing rfl rfl
    · exact .nothing rfl rfl
  · exact .nothing rfl rfl

theorem followUps_of_cancelled (s : Sweep) (job : Job) (steps : List Occupancy.Step)
    {st : SweepState} (cancelled : st.cancelled = true) : s.followUps job steps st = ([], st) := by
  cases steps with
  | nil => rfl
  | cons step rest => simp only [followUps, cancelled, ↓reduceIte]

theorem followUpTrials_of_cancelled (s : Sweep) (job : Job) (steps : List Occupancy.Step)
    {st : SweepState} (cancelled : st.cancelled = true) : s.followUpTrials job steps st = [] := by
  cases steps with
  | nil => rfl
  | cons step rest => rw [followUpTrials, cancelled, if_pos rfl]

theorem followUpTrials_of_live (s : Sweep) (job : Job) (step : Occupancy.Step)
    (rest : List Occupancy.Step) {st : SweepState} (live : st.cancelled = false) :
    s.followUpTrials job (step :: rest) st =
      s.followUpTrial job step st :: s.followUpTrials job rest (s.afterFollowUp job step st) := by
  rw [followUpTrials, live, if_neg Bool.false_ne_true]

theorem followUps_of_live (s : Sweep) (job : Job) (step : Occupancy.Step)
    (rest : List Occupancy.Step) {st : SweepState} (live : st.cancelled = false) :
    s.followUps job (step :: rest) st =
      let later := s.followUps job rest (s.afterFollowUp job step st)
      ((s.attempt job.suite (followUpRequest job step) st).events ++
        .recorded (s.followUpTrial job step st).result :: later.1, later.2) := by
  simp only [followUps, live, Bool.false_eq_true, ↓reduceIte]
  rfl

theorem followUps_told (s : Sweep) (job : Job) (steps : List Occupancy.Step) (st : SweepState) :
    Told st (s.followUps job steps st) (s.followUpTrials job steps st) := by
  induction steps generalizing st with
  | nil => exact .nothing rfl rfl
  | cons step rest ih =>
    cases live : st.cancelled with
    | true =>
      rw [s.followUps_of_cancelled job _ live, s.followUpTrials_of_cancelled job _ live]
      exact .nothing rfl rfl
    | false =>
      have first := s.attempt_told job.suite (followUpRequest job step) st
        (s.followUpTrial job step st).result
      have whole := first.append (ih (s.afterFollowUp job step st))
      rw [List.append_assoc, List.singleton_append] at whole
      rw [s.followUps_of_live job step rest live, s.followUpTrials_of_live job step rest live]
      exact whole

theorem searchFrom_told (s : Sweep) (job : Job) (found : Reading) (st : SweepState) :
    Told st (s.searchFrom job found st) (s.followUpTrials job (s.stepsFrom found) st) := by
  unfold searchFrom stepsFrom
  cases s.reduction with
  | false => exact .nothing rfl rfl
  | true =>
    cases found.record with
    | none => exact .nothing rfl rfl
    | some r => exact (s.followUps_told job (s.steps r) st).logged _

theorem searchFrom_state (s : Sweep) (job : Job) (found : Reading) (st : SweepState) :
    (s.searchFrom job found st).2 = (s.followUps job (s.stepsFrom found) st).2 := by
  unfold searchFrom stepsFrom
  cases s.reduction with
  | false => rfl
  | true => cases found.record <;> rfl

theorem runJob_eq (s : Sweep) (job : Job) (st : SweepState) :
    s.runJob job st =
      let later := s.searchFrom job (s.found job st) (s.measured job st)
      ((s.clearReport job.kernel st).1 ++
        (s.attempt job.suite (s.primaryRequest job) (s.ready job st)).events ++
        .recorded (s.primaryTrial job st).result :: later.1, later.2) := rfl

theorem runJob_state (s : Sweep) (job : Job) (st : SweepState) :
    (s.runJob job st).2 =
      (s.followUps job (s.stepsFrom (s.found job st)) (s.measured job st)).2 :=
  s.searchFrom_state job (s.found job st) (s.measured job st)

theorem runJob_told (s : Sweep) (job : Job) (st : SweepState) :
    Told st (s.runJob job st) (s.jobTrials job st) := by
  have cleared := s.clearReport_told job.kernel st
  have primary := s.attempt_told job.suite (s.primaryRequest job) (s.ready job st)
    (s.primaryTrial job st).result
  have searched := s.searchFrom_told job (s.found job st) (s.measured job st)
  have whole := (cleared.append primary).append searched
  simp only [List.append_assoc, List.singleton_append, List.nil_append] at whole
  rw [runJob_eq]
  simp only [List.append_assoc]
  exact whole

theorem runJobs_of_cancelled (s : Sweep) (jobs : List Job) {st : SweepState}
    (cancelled : st.cancelled = true) :
    actsOf (s.runJobs jobs st).1 = [] ∧ (s.runJobs jobs st).2 = st := by
  cases jobs with
  | nil => exact ⟨rfl, rfl⟩
  | cons job rest =>
    rw [runJobs, cancelled]
    exact ⟨rfl, rfl⟩

theorem trials_of_cancelled (s : Sweep) (jobs : List Job) {st : SweepState}
    (cancelled : st.cancelled = true) : s.trials jobs st = [] := by
  cases jobs with
  | nil => rfl
  | cons job rest => rw [trials, cancelled, if_pos rfl]

theorem trials_of_live (s : Sweep) (job : Job) (rest : List Job) {st : SweepState}
    (live : st.cancelled = false) :
    s.trials (job :: rest) st = s.jobTrials job st ++ s.trials rest (s.runJob job st).2 := by
  rw [trials, live, if_neg Bool.false_ne_true]

theorem runJobs_of_live (s : Sweep) (job : Job) (rest : List Job) {st : SweepState}
    (live : st.cancelled = false) :
    s.runJobs (job :: rest) st =
      let later := s.runJobs rest (s.runJob job st).2
      ((s.runJob job st).1 ++ later.1, later.2) := by
  simp only [runJobs, live, Bool.false_eq_true, ↓reduceIte]

theorem runJobs_told (s : Sweep) (jobs : List Job) (st : SweepState) :
    Told st (s.runJobs jobs st) (s.trials jobs st) := by
  induction jobs generalizing st with
  | nil => exact .nothing rfl rfl
  | cons job rest ih =>
    cases live : st.cancelled with
    | true =>
      obtain ⟨silent, same⟩ := s.runJobs_of_cancelled (job :: rest) live
      rw [s.trials_of_cancelled _ live]
      exact .nothing silent (congrArg SweepState.calls same)
    | false =>
      rw [s.runJobs_of_live job rest live, s.trials_of_live job rest live]
      exact (s.runJob_told job st).append (ih (s.runJob job st).2)

/-- The later jobs go on from the state the earlier ones left. -/
theorem trials_append (s : Sweep) (first second : List Job) (st : SweepState) :
    s.trials (first ++ second) st =
      s.trials first st ++ s.trials second (s.runJobs first st).2 := by
  induction first generalizing st with
  | nil => rfl
  | cons job rest ih =>
    cases live : st.cancelled with
    | true =>
      rw [(s.runJobs_of_cancelled (job :: rest) live).2, s.trials_of_cancelled _ live,
        s.trials_of_cancelled _ live, s.trials_of_cancelled _ live, List.append_nil]
    | false =>
      rw [List.cons_append, s.trials_of_live job (rest ++ second) live,
        s.trials_of_live job rest live, s.runJobs_of_live job rest live, ih, List.append_assoc]

theorem run_told (s : Sweep) (ledger : Ledger) (st : SweepState) :
    Told st ((s.run ledger st).events, (s.run ledger st).state) (s.trials s.jobs st) :=
  (s.runJobs_told s.jobs st).logged s.startEntry

theorem run_ledger (s : Sweep) (ledger : Ledger) (st : SweepState) :
    (s.run ledger st).ledger = ledger.recordAll ((s.trials s.jobs st).map Trial.result) := by
  rw [← (s.runJobs_told s.jobs st).results]
  rfl

theorem run_printed (s : Sweep) (ledger : Ledger) (st : SweepState) :
    (s.run ledger st).printed =
      (s.trials s.jobs st).flatMap Trial.printed ++
        Text.encode (s.run ledger st).ledger.tally.summary := by
  rw [Report.printed, (s.run_told ledger st).printed]

/-- The report of a run in which these trials happened, in this order and nothing besides: the
commands handed over, the results, the totals and what is printed are theirs. -/
structure Report.Tells (report : Report) (trials : List Trial) : Prop where
  acts : actsOf report.events = trials.flatMap Trial.events
  commands : commandsOf report.events = commandsOfTrials trials
  results : report.ledger.results = trials.map Trial.result
  tally : report.ledger.tally = tallyOf (trials.map Trial.result)
  printed : report.printed =
    trials.flatMap Trial.printed ++ Text.encode (tallyOf (trials.map Trial.result)).summary

theorem run_tells (s : Sweep) (st : SweepState) : (s.run {} st).Tells (s.trials s.jobs st) where
  acts := (s.run_told {} st).acts
  commands := (s.run_told {} st).commands
  results := by
    rw [run_ledger, Ledger.results_recordAll]
    rfl
  tally := by rw [run_ledger, Ledger.tally_recordAll_empty]
  printed := by rw [run_printed, run_ledger, Ledger.tally_recordAll_empty]

end Sweep

end KernelSweep
