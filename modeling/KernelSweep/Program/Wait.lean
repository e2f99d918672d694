import KernelSweep.Outcome

set_option autoImplicit false

namespace KernelSweep.Program

/-- What the system tells of a program that has ended. -/
structure Reaped where
  /-- Its status, minus one for a signal; nothing for a program that could not be waited for. -/
  status : Option Int64
  /-- Its output was followed to the end. -/
  copied : Bool := true
  deriving DecidableEq, Repr

/-- Why the wait for a program is not a plain success. -/
inductive WaitError where
  | exited (status : Int64)
  | output
  | system
  deriving DecidableEq, Repr

namespace Reaped

/-- A status other than zero counts before trouble with the output. -/
def error? (r : Reaped) : Option WaitError :=
  match r.status with
  | none => some .system
  | some status =>
    if status ≠ 0 then some (.exited status) else if r.copied then none else some .output

/-- The status of a program, whatever else went wrong around its end. -/
def exit (r : Reaped) : Int64 :=
  match r.error? with
  | none => 0
  | some (.exited status) => status
  | some .output | some .system => r.status.getD (-1)

end Reaped

/-- The end of a program, as it is received, with everything the program wrote. -/
structure Completion where
  reaped : Reaped
  output : Text.Bytes
  /-- Time from the start until the completion was received. -/
  elapsed : Duration := .zero
  deriving DecidableEq, Repr

def Completion.exit (c : Completion) : Int64 := c.reaped.exit

/-- Why a program was not left to end by itself. -/
inductive Stop where
  | timeUp
  /-- The sweep was cancelled, with this as the error. -/
  | cancelled (cause : String)
  deriving DecidableEq, Repr

namespace Stop

def message : Stop → String
  | .timeUp => "Time expired!"
  | .cancelled cause => "Canceled: " ++ cause

def isTimeUp : Stop → Bool
  | .timeUp => true
  | .cancelled _ => false

/-- What a stopped program wrote does not count. -/
def outcome (s : Stop) (elapsed : Duration) (peak : UInt64) : Outcome where
  exit := -1
  timedOut := s.isTimeUp
  canceled := !s.isTimeUp
  message := s.message
  duration := elapsed
  peak

end Stop

inductive WaitEvent where
  | completed (c : Completion)
  /-- Time to look at the memory in use; the look itself can fail. -/
  | tick (sample : Option UInt64)
  | stopped (s : Stop)
  deriving DecidableEq, Repr

inductive WaitPhase where
  | waiting
  /-- Killed, and not yet complete. -/
  | stopping (s : Stop)
  | finished (outcome : Outcome)
  deriving DecidableEq, Repr

structure Wait where
  phase : WaitPhase := .waiting
  /-- Largest sample so far. -/
  peak : UInt64 := 0
  /-- Completions received. -/
  received : Nat := 0
  deriving DecidableEq, Repr

namespace Wait

def sample (w : Wait) (s : Option UInt64) : Wait := { w with peak := max w.peak (s.getD 0) }

/-- The memory is looked at once before the wait. -/
def begin (look : Option UInt64) : Wait := ({} : Wait).sample look

/-- Takes one event. A killed program is only waited for; after the end nothing counts. -/
def step (w : Wait) (e : WaitEvent) : Wait :=
  match w.phase, e with
  | .waiting, .tick s => w.sample s
  | .waiting, .stopped s => { w with phase := .stopping s }
  | .waiting, .completed c =>
    { w with
      phase := .finished
        { exit := c.exit, output := c.output, duration := c.elapsed, peak := w.peak }
      received := w.received + 1 }
  | .stopping s, .completed c =>
    { w with phase := .finished (s.outcome c.elapsed w.peak), received := w.received + 1 }
  | .stopping _, _ => w
  | .finished _, _ => w

def run (w : Wait) (events : List WaitEvent) : Wait := events.foldl step w

def outcome? (w : Wait) : Option Outcome :=
  match w.phase with
  | .finished o => some o
  | _ => none

end Wait

end KernelSweep.Program
