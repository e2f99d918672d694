import KernelSweep.Binder
import KernelSweep.Occupancy.Store
import KernelSweep.Outcome

set_option autoImplicit false

namespace KernelSweep

/-- What went wrong with a run on the side of the sweep. -/
inductive Problem where
  | binding (e : BindError)
  | report (e : Occupancy.StoreError)
  /-- A problem known only by its text. -/
  | stated (text : String)
  deriving DecidableEq, Repr

def Problem.message : Problem → String
  | .binding e => e.message
  | .report e => e.message
  | .stated text => text

/-- One finished run. -/
structure Result where
  kernel : Kernel
  /-- With the kernel's own direction already in place. -/
  setting : Setting
  /-- Occupancy, as blocks out of resident blocks at a number of threads. -/
  label : String
  outcome : Outcome
  /-- The run belongs to the search for lower occupancy. -/
  followUp : Bool := false
  /-- A run with a problem is a failure whatever its outcome. -/
  problem : Option Problem := none
  deriving DecidableEq, Repr

namespace Result

def succeeded (r : Result) : Bool := r.problem.isNone && r.outcome.succeeded

/-- What to show above a failure: the message of the run, or its output when it has none, and then
the problem of the sweep. -/
def failureText (r : Result) : Text.Bytes :=
  let text := if r.outcome.message = "" then Text.trimLineFeeds r.outcome.output
    else Text.encode r.outcome.message
  match r.problem with
  | none => text
  | some p => (if text = [] then text else text ++ Text.encode "\n") ++ Text.encode p.message

def status (r : Result) : String := if r.succeeded then "Ok!" else "Failure"

def statusLine (r : Result) : String :=
  Text.join " "
    [r.kernel.name, r.setting.direction, r.setting.factor, r.setting.stride, r.label, r.status]

/-- The status line, after the text of the failure if there is one. -/
def printed (r : Result) : Text.Bytes :=
  (if r.succeeded then [] else r.failureText ++ Text.encode "\n") ++
    Text.encode (r.statusLine ++ "\n")

end Result

/-- Totals over a sweep. -/
structure Tally where
  runs : Int
  failures : Int
  deriving DecidableEq, Repr

namespace Tally

def add (t : Tally) (r : Result) : Tally :=
  ⟨t.runs + 1, if r.succeeded then t.failures else t.failures + 1⟩

def rule : String := "#################################"

def summary (t : Tally) : String :=
  rule ++ "\n" ++ toString t.failures ++ " failures out of " ++ toString t.runs ++ "\n"

end Tally

/-- The results so far, in the order of their recording, with the totals kept beside them. -/
structure Ledger where
  results : List Result := []
  tally : Tally := ⟨0, 0⟩
  deriving Repr

namespace Ledger

def record (l : Ledger) (r : Result) : Ledger := ⟨l.results ++ [r], l.tally.add r⟩

def recordAll (l : Ledger) (rs : List Result) : Ledger := rs.foldl record l

@[simp]
theorem results_record (l : Ledger) (r : Result) : (l.record r).results = l.results ++ [r] := rfl

@[simp]
theorem tally_record (l : Ledger) (r : Result) : (l.record r).tally = l.tally.add r := rfl

@[simp]
theorem results_recordAll (l : Ledger) (rs : List Result) :
    (l.recordAll rs).results = l.results ++ rs := by
  induction rs generalizing l with
  | nil => simp [recordAll]
  | cons r rest ih =>
    have step : l.recordAll (r :: rest) = (l.record r).recordAll rest := rfl
    rw [step, ih, results_record, List.append_assoc, List.singleton_append]

end Ledger

end KernelSweep
