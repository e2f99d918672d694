import KernelSweep.Report.ByteCount
import KernelSweep.Report.Result

set_option autoImplicit false

namespace KernelSweep.Table

/-- What is put into a cell. -/
inductive Cell where
  | text (s : String)
  | int (n : Int)
  | span (d : Duration)
  deriving DecidableEq, Repr

structure Contents where
  title : String
  header : List String
  rows : List (List Cell)
  footer : List String
  deriving DecidableEq, Repr

/-- A library that draws tables. -/
abbrev Writer := Contents → String

/-- The cells of one result. -/
def resultRow (number : Nat) (r : Result) : List Cell :=
  [.int number, .text r.kernel.suite, .text r.kernel.name, .text r.setting.direction,
    .text r.setting.factor, .text r.setting.stride, .text r.label, .int r.outcome.exit.toInt,
    .span r.outcome.duration.roundToMilliseconds, .text (ByteCount.text r.outcome.peak),
    .text r.status]

def failures (results : List Result) : Nat := results.countP fun r => !r.succeeded

def ofResults (results : List Result) : Contents where
  title := "Runs"
  header := ["#", "Suite", "Kernel", "Dir", "Factor", "Stride", "Occupancy", "Exit", "Duration",
    "Peak RSS", "Status"]
  rows := (results.zipIdx 1).map fun (r, number) => resultRow number r
  footer := ["", "", "", "", "", "", "", "", "", "Failures",
    toString (failures results) ++ "/" ++ toString results.length]

/-- The table with a line end behind it. -/
def text (draw : Writer) (results : List Result) : String := draw (ofResults results) ++ "\n"

end KernelSweep.Table
