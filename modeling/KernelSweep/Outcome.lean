import KernelSweep.Duration
import KernelSweep.Text.Blank
import KernelSweep.Text.Utf8

set_option autoImplicit false

namespace KernelSweep

structure Command where
  path : String
  args : List String
  /-- The whole environment; without one the parent's is inherited. -/
  env : Option (List Text.Bytes) := none
  /-- Empty for the parent's directory. -/
  dir : String := ""
  deriving DecidableEq, Repr

def Command.text (c : Command) : String := Text.join " " (c.path :: c.args)

structure Outcome where
  /-- Minus one unless the program ended by itself. -/
  exit : Int64 := 0
  timedOut : Bool := false
  canceled : Bool := false
  /-- Everything the program wrote, to either stream. -/
  output : Text.Bytes := []
  /-- Why the run was not left to end by itself. -/
  message : String := ""
  duration : Duration := .zero
  /-- Largest memory in use, in bytes. -/
  peak : UInt64 := 0
  deriving DecidableEq, Repr

def Outcome.succeeded (o : Outcome) : Bool := o.exit == 0 && !o.timedOut && !o.canceled

end KernelSweep
