import KernelSweep.CommandLine.Arguments
import KernelSweep.CommandLine.Run
import KernelSweep.Program.Process
import KernelSweep.Report.Database
import KernelSweep.Report.Drawing
import KernelSweep.Text.Lower
import KernelSweep.Yaml.Decode

set_option autoImplicit false

namespace KernelSweep

namespace LogLevel

def all : List LogLevel := [.debug, .info, .warn, .error, .dpanic, .panic, .fatal]

/-- Case does not count, and no text at all is the usual level. -/
def parse? (s : String) : Option LogLevel :=
  if s = "" then some .info else all.find? fun level => level.text == Text.lower s

end LogLevel

structure UnknownLevel where
  text : String
  deriving DecidableEq, Repr

def UnknownLevel.message (e : UnknownLevel) : String :=
  "unrecognized level: " ++ Text.quoted e.text

def LogLevel.parse (s : String) : Except UnknownLevel LogLevel :=
  match parse? s with
  | some level => .ok level
  | none => .error ⟨s⟩

namespace CommandLine

/-- The stand-ins for all that is no part of the program. -/
def plainHost : Host where
  parse := plainParse
  level s := (LogLevel.parse s).mapError UnknownLevel.message
  yaml := Yaml.plainLibrary
  system := Program.shellSystem
  draw := Table.draw
  stores := ResultStore.diskEngine

end CommandLine

end KernelSweep
