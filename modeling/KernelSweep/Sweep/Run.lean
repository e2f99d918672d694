import KernelSweep.Log
import KernelSweep.Sweep.Basic

set_option autoImplicit false

namespace KernelSweep

inductive Event where
  | logged (entry : LogEntry)
  | called (command : Command)
  /-- Output of a program, passed on while it ran. -/
  | streamed (bytes : Text.Bytes)
  | recorded (result : Result)
  deriving DecidableEq, Repr

namespace Event

def result? : Event → Option Result
  | .recorded r => some r
  | _ => none

def command? : Event → Option Command
  | .called c => some c
  | _ => none

def entry? : Event → Option LogEntry
  | .logged e => some e
  | _ => none

/-- What the event adds to what is printed. -/
def printed : Event → Text.Bytes
  | .streamed bytes => bytes
  | .recorded r => r.printed
  | .logged _ | .called _ => []

end Event

def resultsOf (events : List Event) : List Result := events.filterMap Event.result?
def commandsOf (events : List Event) : List Command := events.filterMap Event.command?
def entriesOf (events : List Event) : List LogEntry := events.filterMap Event.entry?
def printedOf (events : List Event) : Text.Bytes := events.flatMap Event.printed

/-- What a sweep changes as it goes. -/
structure SweepState where
  files : FileSystem
  /-- Commands handed to the executor, oldest first. -/
  calls : List Command := []
  cancelled : Bool := false

/-- What came of a request, whether or not the executor was called. -/
structure Attempt where
  outcome : Outcome
  problem : Option Problem
  events : List Event
  state : SweepState

namespace Sweep

def startEntry (s : Sweep) : LogEntry :=
  ⟨.info, "starting sweep",
    [("jobs", toString s.jobs.length), ("occupancyReduction", toString s.reduction),
      ("arch", s.binder.profile.name)]⟩

def interruptedEntry (left : Nat) : LogEntry :=
  ⟨.warn, "sweep interrupted, skipping remaining runs",
    [("skipped", toString left), ("error", "context canceled")]⟩

def staleEntry (path : String) (e : FileError) : LogEntry :=
  ⟨.warn, "could not remove stale occupancy report", [("path", path), ("error", e.message)]⟩

def searchEntry (kernel : Kernel) (r : Occupancy.Record) (steps : Nat) : LogEntry :=
  ⟨.debug, "occupancy reduction",
    [("kernel", kernel.name), ("existingSMem", Number.decimal r.sharedMemory),
      ("threadsPerBlock", Number.decimal r.threads), ("occupancy", r.occupancy.text),
      ("steps", toString steps)]⟩

def runningEntry (command : Command) (r : BindRequest) : LogEntry :=
  ⟨.info, "running",
    [("command", command.text), ("config", (r.kernel.apply r.setting).text),
      ("phase", r.phase.text)]⟩

def finishedEntry (command : Command) (o : Outcome) : LogEntry :=
  ⟨.debug, "finished",
    [("command", command.text), ("exitCode", Number.decimal o.exit),
      ("duration", o.duration.text), ("peakRSS", toString o.peak.toNat)]⟩

/-- Binds the environment of a request and runs the program in it. A request that cannot be bound
is a failed run without a call. -/
def attempt (s : Sweep) (suite : String) (r : BindRequest) (st : SweepState) : Attempt :=
  match s.binder.bind r with
  | .error e => ⟨{ exit := -1 }, some (.binding e), [], st⟩
  | .ok env =>
    let command := s.command suite r.kernel env
    let reply := s.execute st.calls command st.files
    { outcome := reply.outcome
      problem := none
      events := [.logged (runningEntry command r), .called command, .streamed reply.streamed,
        .logged (finishedEntry command reply.outcome)]
      state :=
        { files := reply.files
          calls := st.calls ++ [command]
          cancelled := st.cancelled || reply.cancels } }

/-- Takes the report of an earlier run away before a measured one. That it stays is only worth a
warning. -/
def clearReport (s : Sweep) (kernel : Kernel) (st : SweepState) : List Event × SweepState :=
  if s.reduction then
    match Occupancy.discard st.files (s.reportPath kernel) with
    | .ok files => ([], { st with files })
    | .error e => ([.logged (staleEntry (s.reportPath kernel) e)], st)
  else ([], st)

/-- What the report of a kernel says after a run. -/
structure Reading where
  label : String
  problem : Option Problem
  record : Option Occupancy.Record

def reading (s : Sweep) (kernel : Kernel) (files : FileSystem) : Reading :=
  match Occupancy.load files (s.reportPath kernel) with
  | .error e => ⟨Occupancy.unmeasuredLabel, some (.report e), none⟩
  | .ok none => ⟨Occupancy.unmeasuredLabel, none, none⟩
  | .ok (some r) => ⟨Occupancy.measuredLabel r s.binder.profile, none, some r⟩

/-- The result of the run a job asks for. A report that cannot be read is the problem that
counts. -/
def primaryResult (job : Job) (a : Attempt) (found : Reading) : Result where
  kernel := job.kernel
  setting := job.kernel.apply job.setting
  label := found.label
  outcome := a.outcome
  problem := found.problem <|> a.problem

def followUpResult (job : Job) (step : Occupancy.Step) (a : Attempt) : Result where
  kernel := job.kernel
  setting := job.kernel.apply job.setting
  label := step.label
  outcome := a.outcome
  followUp := true
  problem := a.problem

/-- One run for each step, until the sweep is cancelled. -/
def followUps (s : Sweep) (job : Job) :
    List Occupancy.Step → SweepState → List Event × SweepState
  | [], st => ([], st)
  | step :: rest, st =>
    if st.cancelled then ([], st)
    else
      let a := s.attempt job.suite (followUpRequest job step) st
      let (events, last) := followUps s job rest a.state
      (a.events ++ .recorded (followUpResult job step a) :: events, last)

/-- The steps of the search. A binder takes only profiles with positive limits, and those leave the
arithmetic no fault. -/
def steps (s : Sweep) (r : Occupancy.Record) : List Occupancy.Step :=
  (Occupancy.plan r s.binder.profile).toOption.getD []

def search (s : Sweep) (job : Job) (r : Occupancy.Record) (st : SweepState) :
    List Event × SweepState :=
  let (events, last) := s.followUps job (s.steps r) st
  (.logged (searchEntry job.kernel r (s.steps r).length) :: events, last)

/-- The search behind a primary run, if it is asked for and there is something to start from. -/
def searchFrom (s : Sweep) (job : Job) (found : Reading) (st : SweepState) :
    List Event × SweepState :=
  match s.reduction, found.record with
  | true, some r => s.search job r st
  | _, _ => ([], st)

/-- Everything that happens for one job. -/
def runJob (s : Sweep) (job : Job) (st : SweepState) : List Event × SweepState :=
  let (cleared, ready) := s.clearReport job.kernel st
  let a := s.attempt job.suite (s.primaryRequest job) ready
  let found := s.reading job.kernel a.state.files
  let (searched, last) := s.searchFrom job found a.state
  (cleared ++ a.events ++ .recorded (primaryResult job a found) :: searched, last)

/-- The jobs one after the other. A cancelled sweep starts no further job. -/
def runJobs (s : Sweep) : List Job → SweepState → List Event × SweepState
  | [], st => ([], st)
  | job :: rest, st =>
    if st.cancelled then ([.logged (interruptedEntry (rest.length + 1))], st)
    else
      let (events, next) := s.runJob job st
      let (more, last) := runJobs s rest next
      (events ++ more, last)

/-- What happened in a run and how things stand after it. -/
structure Report where
  events : List Event
  state : SweepState
  /-- With the results of this run. -/
  ledger : Ledger

/-- The lines of the run and the summary of everything recorded so far. -/
def Report.printed (r : Report) : Text.Bytes :=
  printedOf r.events ++ Text.encode r.ledger.tally.summary

def run (s : Sweep) (ledger : Ledger) (st : SweepState) : Report :=
  let (events, state) := s.runJobs s.jobs st
  { events := .logged s.startEntry :: events
    state
    ledger := ledger.recordAll (resultsOf events) }

end Sweep

end KernelSweep
