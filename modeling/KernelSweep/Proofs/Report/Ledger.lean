import KernelSweep.Report.Result

set_option autoImplicit false

namespace KernelSweep

def failureCount (results : List Result) : Nat := results.countP fun r => !r.succeeded

@[simp] theorem failureCount_nil : failureCount [] = 0 := rfl

theorem failureCount_cons (r : Result) (rest : List Result) :
    failureCount (r :: rest) = failureCount rest + if r.succeeded then 0 else 1 := by
  cases succeeded : r.succeeded <;> simp [failureCount, succeeded]

theorem failureCount_append (first second : List Result) :
    failureCount (first ++ second) = failureCount first + failureCount second :=
  List.countP_append ..

/-- The totals of nothing but these results. -/
def tallyOf (results : List Result) : Tally := ⟨results.length, failureCount results⟩

namespace Ledger

@[simp] theorem recordAll_nil (l : Ledger) : l.recordAll [] = l := rfl

@[simp] theorem recordAll_cons (l : Ledger) (r : Result) (rest : List Result) :
    l.recordAll (r :: rest) = (l.record r).recordAll rest := rfl

theorem tally_recordAll (l : Ledger) (rs : List Result) :
    (l.recordAll rs).tally =
      ⟨l.tally.runs + rs.length, l.tally.failures + failureCount rs⟩ := by
  induction rs generalizing l with
  | nil => simp
  | cons r rest ih =>
    rw [recordAll_cons, ih, tally_record, failureCount_cons, List.length_cons]
    simp only [Tally.add, Tally.mk.injEq, Int.natCast_add, Int.natCast_one]
    constructor
    · omega
    · cases r.succeeded with
      | true =>
        rw [if_pos rfl, if_pos rfl]
        omega
      | false =>
        rw [if_neg Bool.false_ne_true, if_neg Bool.false_ne_true]
        omega

theorem tally_recordAll_empty (rs : List Result) :
    (({} : Ledger).recordAll rs).tally = tallyOf rs := by
  simp only [tally_recordAll, tallyOf, Int.zero_add]

end Ledger

end KernelSweep
