import KernelSweep.CommandLine.Options
import KernelSweep.Config.Load
import KernelSweep.Config.Validate
import KernelSweep.Log
import KernelSweep.Program.Execute
import KernelSweep.Report.Store
import KernelSweep.Report.Table
import KernelSweep.Sweep.Run

set_option autoImplicit false

namespace KernelSweep.CommandLine

/-- What the program works with and is no part of it. -/
structure Host where
  /-- Reads the arguments. -/
  parse : (Subcommand → Usage) → List String → Invocation
  level : String → Except String LogLevel
  yaml : Yaml.Library
  system : Program.System
  draw : Table.Writer
  stores : ResultStore.Engine

/-- The operand that switches the coarsening model on. -/
def modelOperand : String := "APPLY_COARSENING_MODEL"

inductive CommandError where
  | usage (text : String)
  | logLevel (text : String)
  | badOperands (received : List String)
  | load (e : Config.LoadError)
  | invalid (problems : List Config.Problem)
  | profile (e : UnknownProfile)
  | binder (e : BinderError)
  | sweep (e : SweepError)
  | storeOpen (e : ResultStore.OpenError)
  | storeSave (e : ResultStore.SaveError)

namespace CommandError

def message : CommandError → String
  | .usage text => text
  | .logLevel text => "log level: " ++ text
  | .badOperands received =>
    "unexpected arguments " ++ Text.quotedList received ++ ", only " ++ modelOperand ++
      " is accepted"
  | .load e => e.message
  | .invalid problems => Config.problemsMessage problems
  | .profile e => e.message
  | .binder e => e.message
  | .sweep e => e.message
  | .storeOpen e => e.message
  | .storeSave e => e.message

end CommandError

/-- The model is on if a flag or the operand says so. -/
def Options.withOperands (o : Options) (operands : List String) : Except CommandError Options :=
  if operands = [] then .ok o
  else if operands = [modelOperand] then .ok { o with applyModel := true }
  else .error (.badOperands operands)

namespace Options

/-- Puts the values of flags in place of the configuration's. -/
def override (o : Options) (c : Config) : Config :=
  { c with
    arch := o.arch.getD c.arch
    occupancyReduction := o.occupancyReduction.getD c.occupancyReduction
    threadLevel := o.threadLevel.getD c.threadLevel
    timeoutSeconds := (o.timeout.map Duration.wholeSeconds).getD c.timeoutSeconds }

/-- The configuration before it is checked. -/
def readConfig (o : Options) (yaml : Yaml.Library) (files : FileSystem) :
    Except Config.LoadError Config :=
  if o.config = "" then .ok .standard else (Config.load yaml files o.config).map Config.ofValue

/-- Loads, overrides and checks the configuration. -/
def loadConfig (o : Options) (yaml : Yaml.Library) (files : FileSystem) :
    Except CommandError Config :=
  match o.readConfig yaml files with
  | .error e => .error (.load e)
  | .ok read =>
    let c := o.override read
    match c.problems with
    | [] => .ok c
    | problems => .error (.invalid problems)

/-- What programs are run with. -/
def setup (o : Options) (c : Config) (inherited : List Text.Bytes) : Program.Setup where
  timeout := c.timeout
  streams := o.streamOutput
  inherited

end Options

/-- The sweep a configuration describes. -/
def prepare (c : Config) (applyModel : Bool) (inherited : List Text.Bytes) (execute : Executor) :
    Except CommandError Sweep := do
  let spec ← (c.binderSpec applyModel inherited).mapError .profile
  let binder ← spec.build.mapError .binder
  let parts : SweepSpec :=
    { execute := some execute
      binder := some binder
      suites := c.suites
      settings := c.grid applyModel
      binaries := c.paths.binaries
      reduction := c.occupancyReduction
      reports := c.paths.reports }
  parts.build.mapError .sweep

/-- How a command ended and what it left behind. -/
structure Ending (host : Host) where
  exit : Nat := 0
  output : Text.Bytes := []
  /-- The text of the error, if there was one. -/
  error : Option String := none
  files : FileSystem
  stores : host.stores.State

/-- What goes to the error stream. -/
def Ending.complaint {host : Host} (e : Ending host) : String :=
  match e.error with
  | some text => "Error: " ++ text ++ "\n"
  | none => ""

/-- The jobs, one on a line, and their number. -/
def matrixText (s : Sweep) : String :=
  String.join (s.jobs.map fun j => j.text ++ "\n") ++ toString s.jobs.length ++ " runs\n"

def validText : String := "Configuration is valid\n"

/-- Stores results in a database. -/
def saveResults (e : ResultStore.Engine) (path : String) (results : List Result) (s : e.State) :
    e.State × Except CommandError Unit :=
  match e.openStore path s with
  | (s, .error problem) => (s, .error (.storeOpen problem))
  | (s, .ok ()) =>
    match e.save results s with
    | (s, .error problem) => (e.close s, .error (.storeSave problem))
    | (s, .ok ()) => (e.close s, .ok ())

section Host

variable (host : Host)

def Ending.failed (files : FileSystem) (stores : host.stores.State) (output : Text.Bytes)
    (e : CommandError) : Ending host :=
  { exit := 1, output, error := some e.message, files, stores }

/-- Runs the sweep, prints what is asked for and stores the results. -/
def runSweep (o : Options) (s : Sweep) (files : FileSystem) (stores : host.stores.State) :
    Ending host :=
  let report := s.run {} { files }
  let results := report.ledger.results
  let output := report.printed ++
    (if o.table then Text.encode (Table.text host.draw results) else [])
  let exit := if o.failExit && decide (0 < report.ledger.tally.failures) then 1 else 0
  if o.resultsDb = "" then { exit, output, files := report.state.files, stores }
  else
    let mounted := host.stores.mount report.state.files stores
    match saveResults host.stores o.resultsDb results mounted with
    | (stores, .error e) => .failed host (host.stores.files stores) stores output e
    | (stores, .ok ()) => { exit, output, files := host.stores.files stores, stores }

/-- What is known before a command starts its work. -/
structure Request where
  command : Subcommand
  options : Options
  operands : List String

/-- The files a sweep looks at: the programs of its suites and the reports of its kernels. -/
def sweepPaths (s : Sweep) : List String :=
  (s.jobs.flatMap fun j => [Path.join s.binaries j.suite, s.reportPath j.kernel]).eraseDups

/-- The sweep a command works on. -/
def Request.sweep (r : Request) (inherited : List Text.Bytes) (files : FileSystem) :
    Except CommandError (Options × Sweep) := do
  let o ← r.options.withOperands r.operands
  let c ← o.loadConfig host.yaml files
  let s ← prepare c o.applyModel inherited (Program.executor host.system (o.setup c inherited))
  return (o, s)

/-- Carries a request out. -/
def perform (r : Request) (inherited : List Text.Bytes) (files : FileSystem)
    (stores : host.stores.State) : Except CommandError (Ending host) := do
  let _ ← (host.level r.options.logLevel).mapError .logLevel
  match r.command with
  | .validate =>
    let _ ← r.options.loadConfig host.yaml files
    return { output := Text.encode validText, files, stores }
  | .matrix =>
    let (_, s) ← r.sweep host inherited files
    return { output := Text.encode (matrixText s), files, stores }
  | .sweep =>
    let (o, s) ← r.sweep host inherited files
    return runSweep host o s files stores

/-- The files that matter to a request, given those read so far: the configuration first, and with
it what the sweep looks at. -/
def Request.paths (r : Request) (files : FileSystem) : List String :=
  let o := r.options
  (if o.config = "" then [] else [o.config]) ++
  match o.loadConfig host.yaml files with
  | .error _ => []
  | .ok c =>
    match prepare c o.applyModel [] (Program.executor host.system (o.setup c [])) with
    | .error _ => []
    | .ok s => sweepPaths s

/-- Runs the command line. -/
def run (args : List String) (inherited : List Text.Bytes) (files : FileSystem)
    (stores : host.stores.State) : Ending host :=
  match host.parse Subcommand.usage args with
  | .refused text => .failed host files stores [] (.usage text)
  | .answered text => { output := Text.encode text, files, stores }
  | .run command options operands =>
    match perform host ⟨command, options, operands⟩ inherited files stores with
    | .error e => .failed host files stores [] e
    | .ok ending => ending

end Host

end KernelSweep.CommandLine
