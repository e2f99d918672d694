import KernelSweep.Duration

set_option autoImplicit false

namespace KernelSweep.CommandLine

/-- What the flags say. The configuration keeps its own value where a flag says nothing. -/
structure Options where
  logLevel : String := "info"
  /-- Empty for the built-in configuration. -/
  config : String := ""
  arch : Option String := none
  occupancyReduction : Option Bool := none
  threadLevel : Option Bool := none
  timeout : Option Duration := none
  applyModel : Bool := false
  streamOutput : Bool := false
  table : Bool := false
  /-- Empty to store nothing. -/
  resultsDb : String := ""
  failExit : Bool := false
  deriving DecidableEq, Repr

/-- What a flag takes, and what it does to the options. -/
inductive FlagKind where
  | text (set : Options → String → Options)
  | switch (set : Options → Bool → Options)
  | span (set : Options → Duration → Options)

structure Flag where
  name : String
  short : Option Char := none
  kind : FlagKind

namespace Flag

/-- Flags of every command. -/
def shared : List Flag :=
  [{ name := "log-level", kind := .text fun o v => { o with logLevel := v } },
    { name := "config", short := some 'c', kind := .text fun o v => { o with config := v } },
    { name := "arch", kind := .text fun o v => { o with arch := some v } },
    { name := "occupancy-reduction",
      kind := .switch fun o v => { o with occupancyReduction := some v } },
    { name := "thread-level", kind := .switch fun o v => { o with threadLevel := some v } },
    { name := "timeout", kind := .span fun o v => { o with timeout := some v } },
    { name := "apply-model", kind := .switch fun o v => { o with applyModel := v } }]

/-- Flags of the sweep itself. -/
def sweepOnly : List Flag :=
  [{ name := "stream-output", kind := .switch fun o v => { o with streamOutput := v } },
    { name := "table", kind := .switch fun o v => { o with table := v } },
    { name := "results-db", kind := .text fun o v => { o with resultsDb := v } },
    { name := "fail-exit", kind := .switch fun o v => { o with failExit := v } }]

end Flag

inductive Subcommand where
  | sweep
  | validate
  | matrix
  deriving DecidableEq, Repr

/-- What a command takes. -/
structure Usage where
  flags : List Flag
  /-- How many operands at most. -/
  operands : Nat

def Subcommand.usage : Subcommand → Usage
  | .sweep => ⟨Flag.sweepOnly ++ Flag.shared, 1⟩
  | .validate => ⟨Flag.shared, 0⟩
  | .matrix => ⟨Flag.shared, 1⟩

/-- What a command line asks for. -/
inductive Invocation where
  | run (command : Subcommand) (options : Options) (operands : List String)
  | refused (text : String)
  /-- Nothing but a text, such as the help. -/
  | answered (text : String)
  deriving DecidableEq, Repr

end KernelSweep.CommandLine
