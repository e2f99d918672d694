import KernelSweep.Program.Wait
import KernelSweep.Sweep.Basic

set_option autoImplicit false

namespace KernelSweep.Program

/-- What commands are run with. -/
structure Setup where
  timeout : Duration := .ofSeconds 3000
  /-- Time between two looks at the memory; a second if it is not positive. -/
  pollInterval : Duration := .ofSeconds 1
  /-- How long the output may stay open behind the end of a program; zero is no limit. -/
  waitDelay : Duration := .ofSeconds 5
  /-- Pass output on while the program runs. -/
  streams : Bool := false
  /-- The entries a command without an environment inherits. -/
  inherited : List Text.Bytes := []

/-- What the system is asked to start. Times are counted from the start of the program, in
nanoseconds. -/
structure Launch where
  command : Command
  inherited : List Text.Bytes
  waitDelay : Duration
  /-- When the program is killed if it is still running. -/
  stopsAt : Nat
  files : FileSystem

/-- A program that has been started. -/
structure Child where
  /-- Its end when it is left alone; none if it goes on for ever. -/
  ends : Option Completion
  /-- Its end when it is killed at a time. -/
  killed : Nat → Completion
  /-- Memory in use at a time; the look itself can fail. -/
  memory : Nat → Option UInt64
  /-- The files when it is over at a time. -/
  leaves : Nat → FileSystem

/-- A sweep is cancelled while a program runs or after its end. -/
structure Interrupt where
  time : Nat
  cause : String

/-- What programs run on. The calls before come first. -/
structure System where
  /-- What keeps a program from starting is told in a text. -/
  start : List Command → Launch → Except String Child
  /-- The interrupt that comes before the next call, if there is one. -/
  interrupt : List Command → Option Interrupt

def span (d : Duration) : Nat := d.nanoseconds.toInt.toNat

/-- The reason that will stop a program that does not end before, and its time. -/
def stopAt (setup : Setup) : Option Interrupt → Stop × Nat
  | some i =>
    if i.time < span setup.timeout then (.cancelled i.cause, i.time)
    else (.timeUp, span setup.timeout)
  | none => (.timeUp, span setup.timeout)

def pollTime (setup : Setup) : Nat :=
  if span setup.pollInterval = 0 then span (.ofSeconds 1) else span setup.pollInterval

/-- The looks at the memory before a time. -/
def ticks (setup : Setup) (child : Child) (time : Nat) : List WaitEvent :=
  (List.range ((time - 1) / pollTime setup)).map fun i =>
    .tick (child.memory ((i + 1) * pollTime setup))

/-- How the wait for a program goes. -/
structure Watch where
  /-- What is taken of it in turn. -/
  events : List WaitEvent
  last : Completion
  /-- When the program is over. -/
  time : Nat

def watch (setup : Setup) (interrupt : Option Interrupt) (child : Child) : Watch :=
  let (reason, deadline) := stopAt setup interrupt
  let killed := child.killed deadline
  let stopped : Watch :=
    ⟨ticks setup child deadline ++ [.stopped reason, .completed killed], killed, deadline⟩
  match child.ends with
  | none => stopped
  | some c =>
    if span c.elapsed < deadline then
      ⟨ticks setup child (span c.elapsed) ++ [.completed c], c, span c.elapsed⟩
    else stopped

def launchOf (system : System) (setup : Setup) (calls : List Command) (c : Command)
    (files : FileSystem) : Launch :=
  ⟨c, setup.inherited, setup.waitDelay, (stopAt setup (system.interrupt calls)).2, files⟩

/-- Runs a command. -/
def execute (system : System) (setup : Setup) (calls : List Command) (c : Command)
    (files : FileSystem) : Reply :=
  let interrupt := system.interrupt calls
  match system.start calls (launchOf system setup calls c files) with
  | .error text =>
    { outcome := { exit := -1, message := text }, files, cancels := interrupt.isSome }
  | .ok child =>
    let w := watch setup interrupt child
    { outcome := (((Wait.begin (child.memory 0)).run w.events).outcome?).getD {}
      files := child.leaves w.time
      cancels := interrupt.isSome
      streamed := if setup.streams then w.last.output else [] }

/-- The executor of a sweep. -/
def executor (system : System) (setup : Setup) : Executor := execute system setup

end KernelSweep.Program
