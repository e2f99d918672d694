import KernelSweep.Proofs.Report.Failures
import KernelSweep.Proofs.Report.Store
import KernelSweep.Proofs.Success
import KernelSweep.Proofs.Sweep.Blocks
import KernelSweep.Proofs.Text.Utf8
import Mathlib.Data.List.Infix

set_option autoImplicit false

namespace KernelSweep

open Success

/-- A text stands somewhere in these bytes. -/
def Within (part : String) (bytes : Text.Bytes) : Prop := Text.encode part <:+: bytes

instance (part : String) (bytes : Text.Bytes) : Decidable (Within part bytes) :=
  inferInstanceAs (Decidable (Text.encode part <:+: bytes))

theorem within_encode_self (text : String) : Within text (Text.encode text) :=
  List.infix_refl (Text.encode text)

theorem BindError.message_ne_empty (e : BindError) : e.message ≠ "" := by
  cases e with
  | option e => cases e <;> simp [BindError.message, OptionError.message]
  | noReportPath kernel => simp [BindError.message]
  | unknownPhase kernel phase => simp [BindError.message]

theorem Occupancy.StoreError.message_ne_empty (e : Occupancy.StoreError) : e.message ≠ "" := by
  cases e <;> simp [StoreError.message, FileError.message]

/-- The text of a run that left none of its own is that of the problem. -/
theorem Result.failureText_of_silent {r : Result} {p : Problem} (mute : r.outcome.message = "")
    (silent : Text.trimLineFeeds r.outcome.output = []) (problem : r.problem = some p) :
    r.failureText = Text.encode p.message := by
  simp only [failureText, mute, silent, problem, ↓reduceIte, List.nil_append]

/-- A failed run that nothing was called for. -/
structure Trial.Refused (t : Trial) : Prop where
  uncalled : t.events = [.recorded t.result]
  failed : t.result.succeeded = false
  exit : t.result.outcome.exit = -1

namespace Sweep

variable {s : Sweep} {job : Job} {e : BindError}

/-- What is shown for a kernel that could not be bound, by the files its report is looked for in. -/
def refusalText (s : Sweep) (kernel : Kernel) (files : FileSystem) (e : BindError) : String :=
  match Occupancy.load files (s.reportPath kernel) with
  | .error fault => fault.message
  | .ok _ => e.message

/-- The primary run of a job that could not be bound, by the state the job starts from. -/
structure RecordsRefusal (s : Sweep) (job : Job) (before : SweepState) (t : Trial) (e : BindError) :
    Prop where
  refused : t.Refused
  text : t.result.failureText =
    Text.encode (s.refusalText job.kernel (s.withoutReport job.kernel before.files) e)
  /-- The reason is hidden by a report that cannot be read, unless that happens to repeat it. -/
  shown : Within e.message t.result.failureText ↔
    ∀ fault, Occupancy.load (s.withoutReport job.kernel before.files) (s.reportPath job.kernel) =
      .error fault → Within e.message (Text.encode fault.message)
  /-- A sweep that measures is not misled by what it can remove. -/
  measured : s.reduction = true → before.files.isRemovable (s.reportPath job.kernel) = true →
    t.result.failureText = Text.encode e.message
  printed : t.result.printed = t.result.printedBelowText
  stored : ∀ id, (ResultStore.row id t.result).get "error" = some (.text t.result.failureText)

theorem refusalText_ne_empty (s : Sweep) (kernel : Kernel) (files : FileSystem) (e : BindError) :
    s.refusalText kernel files e ≠ "" := by
  unfold refusalText
  split
  · rename_i fault _
    exact fault.message_ne_empty
  · exact e.message_ne_empty

theorem within_refusalText_iff (s : Sweep) (kernel : Kernel) (files : FileSystem) (e : BindError) :
    Within e.message (Text.encode (s.refusalText kernel files e)) ↔
      ∀ fault, Occupancy.load files (s.reportPath kernel) = .error fault →
        Within e.message (Text.encode fault.message) := by
  unfold refusalText
  cases Occupancy.load files (s.reportPath kernel) with
  | error fault => simp only [Except.error.injEq, forall_eq']
  | ok report => simp only [within_encode_self, reduceCtorEq, false_implies, implies_true]

theorem refusalText_of_removable (measures : s.reduction = true) {kernel : Kernel}
    {files : FileSystem} (removable : files.isRemovable (s.reportPath kernel) = true) :
    s.refusalText kernel (s.withoutReport kernel files) e = e.message := by
  obtain ⟨gone, -⟩ := withoutReport_of_removable measures removable
  rw [refusalText, Occupancy.load_of_notFound gone]

section Unbound

variable (unbound : s.binder.bind (s.primaryRequest job) = .error e) (st : SweepState)
include unbound

theorem call_of_unbound : (s.primaryTrial job st).call = .error e :=
  handed_of_unbound unbound job.suite (s.ready job st)

theorem outcome_of_unbound : (s.primaryTrial job st).result.outcome = { exit := -1 } :=
  congrArg Attempt.outcome (attempt_of_unbound unbound job.suite (s.ready job st))

/-- The report is looked for in the files as the job found them, the old report gone. -/
theorem measured_of_unbound :
    (s.measured job st).files = s.withoutReport job.kernel st.files := by
  rw [measured, attempt_of_unbound unbound, ready_eq]

theorem refused_of_unbound : (s.primaryTrial job st).Refused := by
  refine ⟨?_, ?_, ?_⟩
  · rw [Trial.events, call_of_unbound unbound]
  · rw [Result.succeeded, Outcome.succeeded, outcome_of_unbound unbound]
    exact Bool.and_false _
  · rw [outcome_of_unbound unbound]

theorem failureText_of_unbound :
    (s.primaryTrial job st).result.failureText =
      Text.encode (s.refusalText job.kernel (s.withoutReport job.kernel st.files) e) := by
  have primary := s.isPrimary_primaryTrial job st
  rw [measured_of_unbound unbound] at primary
  have mute : (s.primaryTrial job st).result.outcome.message = "" := by
    rw [outcome_of_unbound unbound]
  have silent : Text.trimLineFeeds (s.primaryTrial job st).result.outcome.output = [] := by
    rw [outcome_of_unbound unbound]
    decide
  rw [refusalText]
  cases loaded : Occupancy.load (s.withoutReport job.kernel st.files)
      (s.reportPath job.kernel) with
  | error fault =>
    exact Result.failureText_of_silent mute silent (primary.unreadable fault loaded)
  | ok report =>
    have problem := primary.readable report loaded
    rw [Trial.problem, call_of_unbound unbound] at problem
    exact Result.failureText_of_silent mute silent problem

/-- One job, whatever state it starts from. -/
theorem recordsRefusal_primaryTrial : RecordsRefusal s job st (s.primaryTrial job st) e := by
  have text := failureText_of_unbound unbound st
  have refused := refused_of_unbound unbound st
  refine ⟨refused, text, ?_, ?_, ?_, ?_⟩
  · rw [text]
    exact s.within_refusalText_iff job.kernel _ e
  · intro measures removable
    rw [text]
    rw [refusalText_of_removable measures removable]
  · exact (Result.printed_eq_printedBelowText_iff _).mpr refused.failed
  · intro id
    have written : (s.primaryTrial job st).result.failureText ≠ [] := by
      rw [text, Ne, Text.encode_eq_nil_iff]
      exact s.refusalText_ne_empty job.kernel _ e
    rw [(ResultStore.row_holds id _).error, if_pos ⟨refused.failed, written⟩]

end Unbound

/-- The primary run of a job comes right behind what the jobs before it did. -/
theorem trials_of_getElem? (s : Sweep) {jobs : List Job} {i : Nat} {job : Job}
    (here : jobs[i]? = some job) {st : SweepState}
    (live : (s.runJobs (jobs.take i) st).2.cancelled = false) :
    ∃ later, s.trials jobs st =
      s.trials (jobs.take i) st ++ s.primaryTrial job (s.runJobs (jobs.take i) st).2 :: later := by
  obtain ⟨inside, found⟩ := List.getElem?_eq_some_iff.mp here
  have split : jobs.take i ++ job :: jobs.drop (i + 1) = jobs := by
    rw [← found, List.cons_getElem_drop_succ, List.take_append_drop]
  have whole := s.trials_append (jobs.take i) (job :: jobs.drop (i + 1)) st
  rw [split, s.trials_of_live job _ live, jobTrials, List.cons_append] at whole
  exact ⟨_, whole⟩

/-- A job that was started and could not be bound, anywhere in a run: its failure comes without a
call behind what the jobs before it did, and the text has the reason unless a report that cannot be
read is in the way. -/
theorem run_records_refusal (s : Sweep) (ledger : Ledger) (st : SweepState) {i : Nat} {job : Job}
    {e : BindError} (here : s.jobs[i]? = some job)
    (live : (s.runJobs (s.jobs.take i) st).2.cancelled = false)
    (unbound : s.binder.bind (s.primaryRequest job) = .error e) :
    ∃ earlier t later,
      actsOf (s.runJobs (s.jobs.take i) st).1 = earlier.flatMap Trial.events ∧
        actsOf (s.run ledger st).events = (earlier ++ t :: later).flatMap Trial.events ∧
        (s.run ledger st).ledger =
          ledger.recordAll ((earlier ++ t :: later).map Trial.result) ∧
        RecordsRefusal s job (s.runJobs (s.jobs.take i) st).2 t e := by
  obtain ⟨later, trials⟩ := s.trials_of_getElem? here live
  refine ⟨_, _, later, (s.runJobs_told (s.jobs.take i) st).acts, ?_, ?_,
    recordsRefusal_primaryTrial unbound _⟩
  · rw [(s.run_told ledger st).acts, trials]
  · rw [run_ledger, trials]

/-- The compiler options render with nothing filled in; with a factor they ask for a field that
there is none of. -/
def pickySpec : BinderSpec where
  templates :=
    ⟨"-f \x7b\x7bif .Factor\x7d\x7d\x7b\x7b.Nope\x7d\x7d\x7b\x7bend\x7d\x7d", "-clr", "-ored"⟩

/-- One kernel at one setting, not measured. -/
def picky : Sweep where
  execute := sampleExecute
  binder := pickySpec.build.toOption.get (by decide +kernel)
  groups := [⟨"mm/mm", [⟨"mm/mm", "mm", none⟩]⟩]
  settings := [⟨"0", "1", "32"⟩]

def pickyJob : Job := ⟨"mm/mm", ⟨"mm/mm", "mm", none⟩, ⟨"0", "1", "32"⟩⟩

/-- Why the job cannot be bound. -/
def pickyText : String :=
  "rendering compiler options: template: compiler:1:19: executing \"compiler\" at <.Nope>: " ++
    "can't evaluate field Nope in type env.TemplateData"

theorem picky_unbound :
    ∃ e, picky.binder.bind (picky.primaryRequest pickyJob) = .error e ∧ e.message = pickyText := by
  have said : (failure? (picky.binder.bind (picky.primaryRequest pickyJob))).map
      BindError.message = some pickyText := by
    decide +kernel
  obtain ⟨e, refused, message⟩ := Option.map_eq_some_iff.mp said
  exact ⟨e, failure?_eq_some_iff.mp refused, message⟩

theorem picky_records_refusal :
    ∃ e, picky.binder.bind (picky.primaryRequest pickyJob) = .error e ∧ e.message = pickyText ∧
      (picky.run {} { files := .standard }).ledger.results.map Result.failureText =
        [Text.encode pickyText] ∧
      ∃ earlier t later,
        (picky.run {} { files := .standard }).ledger =
          ({} : Ledger).recordAll ((earlier ++ t :: later).map Trial.result) ∧
        RecordsRefusal picky pickyJob { files := .standard } t e := by
  obtain ⟨e, unbound, message⟩ := picky_unbound
  obtain ⟨earlier, t, later, -, -, ledger, recorded⟩ :=
    run_records_refusal picky {} { files := .standard } (i := 0) rfl rfl unbound
  exact ⟨e, unbound, message, by decide +kernel, earlier, t, later, ledger, recorded⟩

/-- Someone left a file that is no report where one is looked for. -/
def litteredFiles : FileSystem :=
  FileSystem.standard.insert ["tmp", "mm.txt"] (.file (Text.encode "garbage\n") 0o644)

def litteredText : String :=
  "/tmp/mm.txt: malformed occupancy report: line 1 \"garbage\" has no value"

theorem littered_hides_refusal :
    ∃ e, picky.jobs = [pickyJob] ∧ picky.binder.bind (picky.primaryRequest pickyJob) = .error e ∧
      (picky.run {} { files := litteredFiles }).ledger.results.map Result.failureText =
        [Text.encode litteredText] ∧
      ¬ Within e.message (Text.encode litteredText) := by
  obtain ⟨e, unbound, message⟩ := picky_unbound
  refine ⟨e, rfl, unbound, by decide +kernel, ?_⟩
  rw [message]
  decide +kernel

end Sweep

end KernelSweep
