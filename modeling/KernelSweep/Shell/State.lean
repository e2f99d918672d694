import KernelSweep.FileSystem
import KernelSweep.Shell.Script

set_option autoImplicit false

namespace KernelSweep.Shell

/-- Where writing goes. -/
inductive Sink where
  /-- The pipe to whoever started the program. -/
  | pipe
  | discard
  /-- The text a command substitution collects. -/
  | capture
  | file (loc : Location)
  deriving DecidableEq, Repr

structure Chunk where
  time : Nat
  process : Nat
  bytes : List UInt8
  deriving DecidableEq, Repr

structure Variable where
  name : String
  value : String
  exported : Bool
  /-- It keeps its value. -/
  fixed : Bool := false
  deriving DecidableEq, Repr

namespace Variable

/-- Where a name stands among the others when they are handed on: they are kept in a table of this
many rows. -/
def rows : Nat := 39

def row (name : String) : Nat :=
  match Text.encode name with
  | [] => 0
  | b :: rest => (rest.foldl (fun sum b => sum + b.toNat) (17 * b.toNat)) % rows

end Variable

/-- A command that runs beside the shell. -/
structure Job where
  process : Nat
  ends : Nat
  /-- It keeps the pipe open until it ends. -/
  holdsPipe : Bool
  status : Nat := 0
  deriving DecidableEq, Repr

/-- How a command ended, as far as the commands behind it are concerned. -/
inductive Flow where
  | next
  | exit
  | leave (loops : Nat)
  | again (loops : Nat)
  | returned
  | signalled (number : Nat)
  /-- The time given to the program is over. -/
  | stopped
  deriving DecidableEq, Repr

structure State where
  files : FileSystem
  clock : Nat := 0
  /-- When the program is killed. -/
  deadline : Nat
  vars : List Variable := []
  /-- What the shell was called by. -/
  name : String := "sh"
  /-- The line of the command at work. -/
  line : Nat := 1
  /-- The command whose script is at work, as messages name it. -/
  caller : String := ""
  args : List String := []
  /-- Of the last command. -/
  status : Nat := 0
  /-- The shell's own number, and that of the process at work. -/
  shellProcess : Nat := 100
  process : Nat := 100
  nextProcess : Nat := 101
  lastJob : Option Nat := none
  input : List UInt8 := []
  out : Sink := .pipe
  err : Sink := .pipe
  /-- What went to the pipe, latest first. -/
  chunks : List Chunk := []
  /-- What went to a command substitution, latest first. -/
  captured : List (List UInt8) := []
  jobs : List Job := []
  /-- Actions by signal; zero stands for the end of the shell. -/
  traps : List (Nat × String) := []
  functions : List (String × Script) := []
  /-- What the function at work will put back. -/
  saved : List (String × Option Variable) := []
  stopOnFailure : Bool := false
  refuseUnset : Bool := false
  /-- A failure here is a condition's answer. -/
  guarded : Bool := false
  /-- The text a choice is about. -/
  subject : String := ""

/-- What the shell's own commands take, and what starting a program takes. -/
def commandCost : Nat := 5000
def startCost : Nat := 1000000

abbrev Step := State × Flow

namespace State

def done (st : State) (status : Nat) : Step := ({ st with status }, .next)

/-- Moves the clock; at the deadline everything stops. -/
def advance (st : State) (span : Nat) : Step :=
  if st.deadline ≤ st.clock + span then ({ st with clock := st.deadline }, .stopped)
  else ({ st with clock := st.clock + span }, .next)

/-- Goes on unless the time is over. -/
def andThen (s : Step) (f : State → Step) : Step :=
  match s.2 with
  | .next => f s.1
  | _ => s

def put (st : State) (sink : Sink) (bytes : List UInt8) : State :=
  if bytes.isEmpty then st
  else
    match sink with
    | .pipe => { st with chunks := ⟨st.clock, st.process, bytes⟩ :: st.chunks }
    | .discard => st
    | .capture => { st with captured := bytes :: st.captured }
    | .file loc =>
      match st.files.node? loc with
      | some (.file content mode) =>
        { st with files := st.files.insert loc (.file (content ++ bytes) mode) }
      | _ => st

def say (st : State) (bytes : List UInt8) : State := st.put st.out bytes

def sayText (st : State) (text : String) : State := st.say (Text.encode text)

/-- Writes a line where messages go. -/
def complain (st : State) (text : String) : State := st.put st.err (Text.encode (text ++ "\n"))

/-- A message of one of the shell's own commands. -/
def commandMessage (st : State) (who text : String) : State :=
  st.complain (st.name ++ ": " ++ toString st.line ++ ": " ++ who ++ ": " ++ text)

/-- A message of the shell itself. -/
def shellMessage (st : State) (text : String) : State :=
  if st.caller = "" then st.complain (st.name ++ ": " ++ toString st.line ++ ": " ++ text)
  else st.commandMessage st.caller text

/-- Ends the shell with a message of one of its own commands. -/
def giveUp (st : State) (who text : String) : Step :=
  ({ st.commandMessage who text with status := 2 }, .exit)

def lookup? (st : State) (name : String) : Option Variable :=
  st.vars.find? fun v => v.name == name

def value? (st : State) (name : String) : Option String := (st.lookup? name).map (·.value)

def isExported (st : State) (name : String) : Bool :=
  st.vars.any fun v => v.name == name && v.exported

/-- A variable that exists keeps its place. -/
def putVariable (st : State) (v : Variable) : State :=
  if st.vars.any fun w => w.name == v.name then
    { st with vars := st.vars.map fun w => if w.name == v.name then v else w }
  else { st with vars := v :: st.vars }

def setVariable (st : State) (name value : String) (exported : Bool) : State :=
  st.putVariable ⟨name, value, exported, false⟩

def assign (st : State) (name value : String) : State :=
  st.setVariable name value (st.isExported name)

def unset (st : State) (name : String) : State :=
  { st with vars := st.vars.filter fun v => v.name != name }

/-- Takes over from a child what outlasts it. -/
def rejoin (parent child : State) : State :=
  { parent with
    files := { child.files with current := parent.files.current }
    clock := child.clock
    chunks := child.chunks
    captured := child.captured
    jobs := child.jobs
    nextProcess := child.nextProcess
    input := child.input
    status := child.status }

/-- The variables of a new program, the last of equal names counting. -/
def variablesOf (entries : List String) : List Variable :=
  entries.foldl
    (fun vars entry =>
      match Text.cut '=' entry with
      | (name, some value) => ⟨name, value, true, false⟩ :: vars.filter fun v => v.name != name
      | (_, none) => vars)
    []

/-- The exported variables as entries. -/
def entries (st : State) : List String :=
  (st.vars.filter (·.exported)).reverse.map fun v => v.name ++ "=" ++ v.value

/-- The variables a program gets, by the rows of their names. -/
def handedOn (st : State) : List Variable :=
  ((st.vars.filter (·.exported)).reverse.mergeSort fun v w =>
    decide (Variable.row v.name ≤ Variable.row w.name)).reverse

def defaultSearchPath : String :=
  "/usr/local/sbin:/usr/local/bin:/usr/sbin:/usr/bin:/sbin:/bin"

def searchPath (st : State) : List String :=
  Text.split ':' ((st.value? "PATH").getD defaultSearchPath)

/-- The directory the shell is in. -/
def directory (st : State) : String := Path.render true st.files.current

/-- What was captured, oldest first. -/
def capturedBytes (st : State) : List UInt8 := st.captured.reverse.flatten

end State

/-- Signals by name, number and what is said of a program that one ended. -/
def signals : List (String × Nat × String) :=
  [("EXIT", 0, ""), ("HUP", 1, "Hangup"), ("INT", 2, ""), ("QUIT", 3, "Quit"),
    ("ILL", 4, "Illegal instruction"), ("TRAP", 5, "Trace/breakpoint trap"), ("ABRT", 6, "Aborted"),
    ("BUS", 7, "Bus error"), ("FPE", 8, "Floating point exception"), ("KILL", 9, "Killed"),
    ("USR1", 10, "User defined signal 1"), ("SEGV", 11, "Segmentation fault"),
    ("USR2", 12, "User defined signal 2"), ("PIPE", 13, ""), ("ALRM", 14, "Alarm clock"),
    ("TERM", 15, "Terminated"), ("CHLD", 17, ""), ("CONT", 18, ""), ("STOP", 19, ""),
    ("TSTP", 20, "")]

/-- A signal by its number or by its name, with or without the usual start. -/
def signal? (text : String) : Option Nat :=
  match text.toNat? with
  | some n => some n
  | none =>
    let name := match text.toList with
      | 'S' :: 'I' :: 'G' :: rest => String.ofList rest
      | _ => text
    (signals.lookup name).map (·.1)

/-- Says that a signal ended a program, if it is a signal worth a word. -/
def State.tellSignal (st : State) (signal : Nat) : State :=
  match signals.find? fun s => s.2.1 == signal with
  | some (_, _, text) => if text = "" then st else st.complain text
  | none => st

/-- Signals that do nothing to a program that did not ask for them. -/
def isHarmless (signal : Nat) : Bool := signal == 0 || signal == 17 || signal == 18

end KernelSweep.Shell
