set_option autoImplicit false

namespace KernelSweep

inductive LogLevel where
  | debug
  | info
  | warn
  | error
  | dpanic
  | panic
  | fatal
  deriving DecidableEq, Repr

namespace LogLevel

def text : LogLevel → String
  | .debug => "debug"
  | .info => "info"
  | .warn => "warn"
  | .error => "error"
  | .dpanic => "dpanic"
  | .panic => "panic"
  | .fatal => "fatal"

end LogLevel

structure LogEntry where
  level : LogLevel
  message : String
  /-- Names and values as texts. -/
  fields : List (String × String)
  deriving DecidableEq, Repr

end KernelSweep
