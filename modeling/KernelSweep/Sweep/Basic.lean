import KernelSweep.Config.Basic
import KernelSweep.Occupancy.Search
import KernelSweep.Report.Result

set_option autoImplicit false

namespace KernelSweep

/-- A run the settings ask for; the search for lower occupancy may add more. -/
structure Job where
  suite : String
  kernel : Kernel
  setting : Setting
  deriving DecidableEq, Repr

def Job.text (j : Job) : String :=
  j.suite ++ " " ++ j.kernel.text ++ " " ++ (j.kernel.apply j.setting).text

/-- What comes back from running a command. -/
structure Reply where
  outcome : Outcome
  /-- The files as the program left them. -/
  files : FileSystem
  /-- The sweep was cancelled while the program ran. -/
  cancels : Bool := false
  /-- Output passed on while the program ran. -/
  streamed : Text.Bytes := []

/-- The first argument holds the calls before, oldest first. -/
abbrev Executor := List Command → Command → FileSystem → Reply

/-- The kernels of one suite, already read. -/
structure KernelGroup where
  path : String
  kernels : List Kernel
  deriving DecidableEq, Repr

structure Sweep where
  execute : Executor
  binder : Binder
  groups : List KernelGroup
  settings : List Setting
  /-- Where the paths of the suites start. -/
  binaries : String := ""
  /-- Measure the occupancy and search below it. -/
  reduction : Bool := false
  /-- Where the toolchain leaves its reports. -/
  reports : String := Occupancy.defaultDirectory

/-- The parts of a sweep before they are checked. -/
structure SweepSpec where
  execute : Option Executor := none
  binder : Option Binder := none
  suites : List Suite := []
  settings : List Setting := []
  binaries : String := ""
  reduction : Bool := false
  reports : String := Occupancy.defaultDirectory

inductive SweepError where
  | noExecutor
  | noBinder
  | entry (e : EntryError)
  deriving DecidableEq, Repr

def SweepError.message : SweepError → String
  | .noExecutor => "driver needs an executor"
  | .noBinder => "driver needs an environment binder"
  | .entry e => e.message

def Suite.group (s : Suite) : Except EntryError KernelGroup := s.parsed.map (⟨s.path, ·⟩)

/-- Reads the kernels of every suite, in order. -/
def SweepSpec.build (s : SweepSpec) : Except SweepError Sweep :=
  match s.execute, s.binder with
  | none, _ => .error .noExecutor
  | some _, none => .error .noBinder
  | some execute, some binder =>
    match s.suites.mapM Suite.group with
    | .error e => .error (.entry e)
    | .ok groups =>
      .ok { execute, binder, groups, settings := s.settings, binaries := s.binaries,
            reduction := s.reduction, reports := s.reports }

namespace Sweep

/-- The jobs in the order of their execution: suites slowest, settings fastest. -/
def jobs (s : Sweep) : List Job :=
  s.groups.flatMap fun group =>
    group.kernels.flatMap fun kernel =>
      s.settings.map fun setting => ⟨group.path, kernel, setting⟩

def reportPath (s : Sweep) (kernel : Kernel) : String :=
  Occupancy.reportPath s.reports kernel.name

/-- The program of a suite is told the kernel to run. -/
def command (s : Sweep) (suite : String) (kernel : Kernel) (env : Environment) : Command where
  path := Path.join s.binaries suite
  args := [kernel.name]
  env := some env.entries

/-- A measured run writes its report; one without a search behind it runs plain. -/
def primaryRequest (s : Sweep) (job : Job) : BindRequest where
  kernel := job.kernel
  setting := job.setting
  phase := if s.reduction then .measure else .plain
  reportPath := s.reportPath job.kernel

def followUpRequest (job : Job) (step : Occupancy.Step) : BindRequest where
  kernel := job.kernel
  setting := job.setting
  phase := .reduce
  reserved := step.reserved

end Sweep

end KernelSweep
