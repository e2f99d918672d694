import KernelSweep.Proofs.Report.Ledger
import KernelSweep.Proofs.Report.Store
import KernelSweep.Report.Table

set_option autoImplicit false

namespace KernelSweep

/-- A line has this text at its end. -/
def endsIn (ending line : String) : Bool := ending.toList.isSuffixOf line.toList

theorem endsIn_append (front ending : String) : endsIn ending (front ++ ending) = true := by
  rw [endsIn, List.isSuffixOf_iff_suffix, String.toList_append]
  exact List.suffix_append _ _

namespace Result

/-- Whichever of the four things went wrong. -/
theorem succeeded_eq_false_iff (r : Result) :
    r.succeeded = false ↔ r.problem ≠ none ∨ r.outcome.exit ≠ 0 ∨ r.outcome.timedOut = true ∨
      r.outcome.canceled = true := by
  rw [succeeded, Outcome.succeeded]
  cases r.problem <;> cases r.outcome.timedOut <;> cases r.outcome.canceled <;> simp

theorem statusLine_eq (r : Result) : ∃ front, r.statusLine = front ++ r.status :=
  ⟨r.kernel.name ++ " " ++ (r.setting.direction ++ " " ++ (r.setting.factor ++ " " ++
    (r.setting.stride ++ " " ++ (r.label ++ " ")))), by
    simp only [statusLine, Text.join, String.append_assoc]⟩

theorem endsIn_status (r : Result) : endsIn r.status r.statusLine = true := by
  obtain ⟨front, line⟩ := r.statusLine_eq
  rw [line]
  exact endsIn_append front r.status

/-- Neither ending is the end of the other, so that no line has both. -/
theorem endsIn_failure_iff (r : Result) :
    endsIn "Failure" r.statusLine = true ↔ r.succeeded = false := by
  have shown := r.endsIn_status
  cases succeeded : r.succeeded with
  | false =>
    simp only [status, succeeded, Bool.false_eq_true, ↓reduceIte] at shown
    exact ⟨fun _ => rfl, fun _ => shown⟩
  | true =>
    simp only [status, succeeded, ↓reduceIte, endsIn, List.isSuffixOf_iff_suffix] at shown
    constructor
    · intro failure
      rw [endsIn, List.isSuffixOf_iff_suffix] at failure
      rcases List.suffix_or_suffix_of_suffix failure shown with longer | longer
      · exact absurd longer (by decide)
      · exact absurd longer (by decide)
    · intro impossible
      cases impossible

/-- The status line below a line for the text of the failure. -/
def printedBelowText (r : Result) : Text.Bytes :=
  r.failureText ++ Text.encode "\n" ++ Text.encode (r.statusLine ++ "\n")

theorem printed_of_succeeded {r : Result} (succeeded : r.succeeded = true) :
    r.printed = Text.encode (r.statusLine ++ "\n") := by
  simp [printed, succeeded]

theorem printed_eq_printedBelowText_iff (r : Result) :
    r.printed = r.printedBelowText ↔ r.succeeded = false := by
  cases succeeded : r.succeeded with
  | false => simp [printed, printedBelowText, succeeded]
  | true =>
    rw [printed_of_succeeded succeeded, printedBelowText]
    constructor
    · intro same
      -- The text has at least its line end, even if there is nothing to say.
      have lengths := congrArg List.length same
      simp only [List.length_append] at lengths
      have lineEnd : (Text.encode "\n").length = 1 := by decide +kernel
      omega
    · intro impossible
      cases impossible

end Result

theorem countP_of_iff {shows : Result → Bool} (iff : ∀ r, shows r = true ↔ r.succeeded = false)
    (results : List Result) : results.countP shows = failureCount results := by
  apply List.countP_congr
  intro r _
  rw [iff, Bool.not_eq_true']

/-- A row that is stored with a zero for success. -/
def ResultStore.Row.isFailure (w : Row) : Bool := w.get "succeeded" == some (.int 0)

theorem row_isFailure (id : Nat) (r : Result) :
    (ResultStore.row id r).isFailure = !r.succeeded := by
  have kept : (ResultStore.row id r).get "succeeded" = ResultStore.flag r.succeeded := rfl
  rw [ResultStore.Row.isFailure, kept]
  cases r.succeeded <;> rfl

/-- A row of the table whose last cell tells of a failure. -/
def Table.isFailure (row : List Table.Cell) : Bool := row.getLast? == some (.text "Failure")

theorem resultRow_isFailure (number : Nat) (r : Result) :
    Table.isFailure (Table.resultRow number r) = !r.succeeded := by
  have last : (Table.resultRow number r).getLast? = some (.text r.status) := rfl
  rw [Table.isFailure, last, Result.status]
  cases r.succeeded <;> rfl

theorem countP_rows (number : Nat) (results : List Result) :
    ((results.zipIdx number).map fun (r, number) => Table.resultRow number r).countP
      Table.isFailure = failureCount results := by
  induction results generalizing number with
  | nil => rfl
  | cons r rest ih =>
    rw [List.zipIdx_cons, List.map_cons, List.countP_cons, ih, failureCount_cons,
      resultRow_isFailure]
    cases r.succeeded <;> simp

theorem countP_rowsFrom (last : Nat) (results : List Result) :
    (ResultStore.rowsFrom last results).countP ResultStore.Row.isFailure =
      failureCount results := by
  induction results generalizing last with
  | nil => rfl
  | cons r rest ih =>
    rw [ResultStore.rowsFrom_cons, List.countP_cons, ih, failureCount_cons, row_isFailure]
    cases r.succeeded <;> simp

/-- What every report of these results says about the number of failures. -/
structure ShowFailures (results : List Result) (failures : Nat) : Prop where
  counted : failures = results.countP fun r => decide (r.problem ≠ none ∨ r.outcome.exit ≠ 0 ∨
    r.outcome.timedOut = true ∨ r.outcome.canceled = true)
  tally : (({} : Ledger).recordAll results).tally = ⟨results.length, failures⟩
  kept : (({} : Ledger).recordAll results).results = results
  /-- The last cells of the footer that is handed to the writer of the table. -/
  footer : ∃ blank, (Table.ofResults results).footer =
    blank ++ ["Failures", toString failures ++ "/" ++ toString results.length]
  rows : (Table.ofResults results).rows.length = results.length ∧
    (Table.ofResults results).rows.countP Table.isFailure = failures
  /-- On any engine that does what is relied on, and whatever its table had before. -/
  stored : ∀ (e : ResultStore.Engine) (g : ResultStore.Stages e) (address : String)
    (accepts : ResultStore.Row → Prop), g.Laws address accepts → ∀ s t, g.idle s t →
      (e.save results s).2 = .ok () →
      ∃ new, (e.table (e.save results s).1).rows = t.rows ++ new ∧
        new.length = results.length ∧ new.countP ResultStore.Row.isFailure = failures
  lines : (results.map Result.statusLine).countP (endsIn "Failure") = failures
  otherLines : ∀ line ∈ results.map Result.statusLine, endsIn "Failure" line = false →
    endsIn "Ok!" line = true
  texts : results.countP (fun r => decide (r.printed = r.printedBelowText)) = failures
  otherTexts : ∀ r ∈ results, r.printed ≠ r.printedBelowText →
    r.printed = Text.encode (r.statusLine ++ "\n")
  summary : (({} : Ledger).recordAll results).tally.summary =
    Tally.rule ++ "\n" ++ toString failures ++ " failures out of " ++ toString results.length ++
      "\n"

theorem showFailures (results : List Result) : ShowFailures results (failureCount results) where
  counted := by
    symm
    apply countP_of_iff
    intro r
    rw [decide_eq_true_eq, r.succeeded_eq_false_iff]
  tally := Ledger.tally_recordAll_empty results
  kept := by
    rw [Ledger.results_recordAll]
    rfl
  footer := ⟨["", "", "", "", "", "", "", "", ""], rfl⟩
  rows := ⟨by simp [Table.ofResults], countP_rows 1 results⟩
  stored e g address accepts laws s t idle saved := by
    rw [laws.reads _ _ (laws.idle_of_saved idle saved)]
    exact ⟨_, rfl, (ResultStore.rowsFrom_hold t.lastId results).length_eq,
      countP_rowsFrom t.lastId results⟩
  lines := by
    rw [List.countP_map]
    exact countP_of_iff Result.endsIn_failure_iff results
  otherLines := by
    intro line member other
    obtain ⟨r, -, rfl⟩ := List.mem_map.mp member
    have succeeded : r.succeeded = true := by
      cases succeeded : r.succeeded with
      | true => rfl
      | false =>
        rw [r.endsIn_failure_iff.mpr succeeded] at other
        cases other
    have shown := r.endsIn_status
    rwa [Result.status, if_pos succeeded] at shown
  texts := by
    apply countP_of_iff
    intro r
    rw [decide_eq_true_eq, r.printed_eq_printedBelowText_iff]
  otherTexts := by
    intro r _ other
    apply Result.printed_of_succeeded
    rwa [Ne, r.printed_eq_printedBelowText_iff, Bool.not_eq_false] at other
  summary := by
    rw [Ledger.tally_recordAll_empty]
    rfl

end KernelSweep
