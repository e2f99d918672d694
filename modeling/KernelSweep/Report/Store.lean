import KernelSweep.FileSystem
import KernelSweep.Report.Result

set_option autoImplicit false

namespace KernelSweep.ResultStore

/-- What a column of a stored row holds. -/
inductive Value where
  | text (bytes : Text.Bytes)
  | int (n : Int64)
  | null
  deriving DecidableEq, Repr

/-- What an insertion passes for a column. -/
inductive Argument where
  | text (s : String)
  | int (n : Int64)
  | flag (b : Bool)
  | optional (bytes : Option Text.Bytes)
  deriving DecidableEq, Repr

/-- A flag is stored as one or zero. -/
def Argument.value : Argument → Value
  | .text s => .text (Text.encode s)
  | .int n => .int n
  | .flag b => .int (if b then 1 else 0)
  | .optional (some bytes) => .text bytes
  | .optional none => .null

/-- Makes a table unless there is one of its name. -/
structure Creation where
  table : String
  /-- Names and declarations. -/
  columns : List (String × String)
  deriving DecidableEq, Repr

structure Insertion where
  table : String
  columns : List String
  deriving DecidableEq, Repr

def createRuns : Creation where
  table := "runs"
  columns :=
    [("id", "INTEGER PRIMARY KEY AUTOINCREMENT"), ("suite", "TEXT NOT NULL"),
      ("kernel", "TEXT NOT NULL"), ("direction", "TEXT NOT NULL"), ("factor", "TEXT NOT NULL"),
      ("stride", "TEXT NOT NULL"), ("label", "TEXT NOT NULL"), ("follow_up", "INTEGER NOT NULL"),
      ("exit_code", "INTEGER NOT NULL"), ("timed_out", "INTEGER NOT NULL"),
      ("canceled", "INTEGER NOT NULL"), ("duration_ms", "INTEGER NOT NULL"),
      ("peak_rss", "INTEGER NOT NULL"), ("succeeded", "INTEGER NOT NULL"), ("error", "TEXT")]

def insertRun : Insertion where
  table := "runs"
  columns :=
    ["suite", "kernel", "direction", "factor", "stride", "label", "follow_up", "exit_code",
      "timed_out", "canceled", "duration_ms", "peak_rss", "succeeded", "error"]

/-- The text of a failure that has one. -/
def errorText (r : Result) : Option Text.Bytes :=
  if !r.succeeded && r.failureText ≠ [] then some r.failureText else none

/-- What is passed for a result, in the order of the columns of the insertion. -/
def arguments (r : Result) : List Argument :=
  [.text r.kernel.suite, .text r.kernel.name, .text r.setting.direction, .text r.setting.factor,
    .text r.setting.stride, .text r.label, .flag r.followUp, .int r.outcome.exit,
    .flag r.outcome.timedOut, .flag r.outcome.canceled, .int r.outcome.duration.milliseconds,
    .int r.outcome.peak.toInt64, .flag r.succeeded, .optional (errorText r)]

structure Row where
  id : Nat
  /-- The other columns by name. -/
  cells : List (String × Value)
  deriving DecidableEq, Repr

/-- The rows of a table in order of their numbers, and the last number that was given to one. -/
structure Table where
  rows : List Row := []
  lastId : Nat := 0
  deriving DecidableEq, Repr

/-- The row an insertion makes of what it is given. -/
def Insertion.row (i : Insertion) (id : Nat) (given : List Argument) : Row :=
  ⟨id, i.columns.zip (given.map Argument.value)⟩

/-- The table with a row behind the others. -/
def Table.put (t : Table) (w : Row) : Table := ⟨t.rows ++ [w], w.id⟩

/-- A database engine. Its state is everything that calls to it can change: the files, the
databases in them, and what one connection has under way. A call that fails says why. -/
structure Engine where
  State : Type
  connect : String → State → State × Except String Unit
  create : Creation → State → State × Except String Unit
  begin : State → State × Except String Unit
  prepare : Insertion → State → State × Except String Unit
  /-- Executes the prepared insertion. -/
  insert : List Argument → State → State × Except String Unit
  finalize : State → State
  commit : State → State × Except String Unit
  rollback : State → State
  close : State → State
  /-- The table of the runs as the open connection reads it. -/
  table : State → Table
  files : State → FileSystem
  /-- Takes the files as others left them. -/
  mount : FileSystem → State → State

inductive OpenError where
  | connect (address text : String)
  | create (address text : String)
  deriving DecidableEq, Repr

def OpenError.message : OpenError → String
  | .connect address text => "open results db " ++ address ++ ": " ++ text
  | .create address text => "create runs table in " ++ address ++ ": " ++ text

inductive SaveError where
  | transaction (text : String)
  | insert (kernel : String) (setting : Setting) (text : String)
  deriving DecidableEq, Repr

def SaveError.message : SaveError → String
  | .transaction text => text
  | .insert kernel setting text => "insert run " ++ kernel ++ " " ++ setting.text ++ ": " ++ text

namespace Engine

variable (e : Engine)

/-- Connects to a database and makes the table if it is missing. -/
def openStore (address : String) (s : e.State) : e.State × Except OpenError Unit :=
  match e.connect address s with
  | (s, .error text) => (s, .error (.connect address text))
  | (s, .ok ()) =>
    match e.create createRuns s with
    | (s, .error text) => (e.close s, .error (.create address text))
    | (s, .ok ()) => (s, .ok ())

/-- Inserts results one after the other, up to the first that is refused. -/
def insertAll : List Result → e.State → e.State × Except SaveError Unit
  | [], s => (s, .ok ())
  | r :: rest, s =>
    match e.insert (arguments r) s with
    | (s, .error text) => (s, .error (.insert r.kernel.name r.setting text))
    | (s, .ok ()) => insertAll rest s

/-- Writes all results in one transaction. Whatever comes of it, the transaction is rolled back at
the end, which is of no effect when it was committed. -/
def save (batch : List Result) (s : e.State) : e.State × Except SaveError Unit :=
  match e.begin s with
  | (s, .error text) => (s, .error (.transaction text))
  | (s, .ok ()) =>
    match e.prepare insertRun s with
    | (s, .error text) => (e.rollback s, .error (.transaction text))
    | (s, .ok ()) =>
      match e.insertAll batch s with
      | (s, .error problem) => (e.rollback (e.finalize s), .error problem)
      | (s, .ok ()) =>
        match e.commit s with
        | (s, .error text) => (e.rollback (e.finalize s), .error (.transaction text))
        | (s, .ok ()) => (e.rollback (e.finalize s), .ok ())

end Engine

end KernelSweep.ResultStore
