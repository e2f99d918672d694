import KernelSweep.Proofs.CommandLine.Validation
import KernelSweep.Proofs.Report.Failures

set_option autoImplicit false

namespace KernelSweep.CommandLine

open Success

section Sweeping

variable {host : Host} {args : List String} {inherited : List Text.Bytes} {files : FileSystem}
  {stores : host.stores.State} {o : Options} {s : Sweep}

theorem run_of_starts (starts : Starts host args inherited files o s) :
    run host args inherited files stores = runSweep host o s files stores := by
  obtain ⟨asked, operands, level, parsed, known, told⟩ := starts.request
  obtain ⟨c, loaded, prepared⟩ := starts.prepared
  have described : Request.sweep host ⟨.sweep, asked, operands⟩ inherited files = .ok (o, s) :=
    bind_eq_ok.mpr ⟨o, told, bind_eq_ok.mpr ⟨c, loaded, bind_eq_ok.mpr ⟨s, prepared, rfl⟩⟩⟩
  have performed : perform host ⟨.sweep, asked, operands⟩ inherited files stores =
      .ok (runSweep host o s files stores) :=
    bind_eq_ok.mpr ⟨level, mapError_eq_ok.mpr known, bind_eq_ok.mpr ⟨(o, s), described, rfl⟩⟩
  rw [run, parsed]
  simp only [performed]

/-- Only saving the results can still fail, and then nobody asks for failures. -/
theorem exit_of_runSweep (host : Host) (o : Options) (s : Sweep) (files : FileSystem)
    (stores : host.stores.State) :
    (runSweep host o s files stores).exit = 1 ↔
      (runSweep host o s files stores).error ≠ none ∨
        (o.failExit = true ∧ 0 < (s.run {} { files }).ledger.tally.failures) := by
  unfold runSweep
  dsimp only
  split
  · simp
  · split
    · simp [Ending.failed]
    · simp

theorem tally_of_run (s : Sweep) (st : SweepState) :
    (s.run {} st).ledger.tally = tallyOf (s.run {} st).ledger.results := by
  rw [(s.run_tells st).tally, (s.run_tells st).results]

end Sweeping

/-- All reports of a list of results agree on the number of failures, and so does the exit status of
a sweep that recorded them, on whatever executor and whatever came of storing them: it is one
exactly when storing was an error, or it is to tell of failures and there are some. -/
theorem reports_agree_on_failures (results : List Result) :
    ShowFailures results (failureCount results) ∧
    ∀ (host : Host) (args : List String) (inherited : List Text.Bytes) (files : FileSystem)
      (stores : host.stores.State) (o : Options) (s : Sweep),
      Starts host args inherited files o s →
      run host args inherited files stores = runSweep host o s files stores ∧
      ∀ (execute : Executor) (start : FileSystem),
        let swept := s.withExecutor execute
        let ending := runSweep host o swept start stores
        (swept.run {} { files := start }).ledger.results = results →
          (ending.exit = 1 ↔
            ending.error ≠ none ∨ (o.failExit = true ∧ 0 < failureCount results)) := by
  refine ⟨showFailures results, ?_⟩
  intro host args inherited files stores o s starts
  refine ⟨run_of_starts starts, ?_⟩
  intro execute start swept ending recorded
  have failures : (swept.run {} { files := start }).ledger.tally.failures =
      failureCount results := by
    rw [tally_of_run, recorded]
    rfl
  have exit := exit_of_runSweep host o swept start stores
  rwa [failures, Int.natCast_pos] at exit

def benchFailExit : List String := ["--fail-exit", "-c/tmp/bench", "--arch", "Kepler"]

/-- The sweep of the bench, every run of it failing. -/
theorem bench_agrees_on_failures :
    ∃ s, Starts plainHost benchFailExit [] benchFiles { benchOptions with failExit := true } s ∧
      ((runSweep plainHost { benchOptions with failExit := true } (s.withExecutor brokenExecute)
        benchFiles noStores).exit = 1 ↔
        0 < failureCount
          ((s.withExecutor brokenExecute).run {} { files := benchFiles }).ledger.results) := by
  have asks : Asks plainHost benchFailExit .sweep { benchOptions with failExit := true } [] :=
    ⟨by decide +kernel, .inl rfl⟩
  have agree : benchOptions.Agrees { benchOptions with failExit := true } :=
    ⟨rfl, rfl, rfl, rfl, rfl, rfl⟩
  have passed := (checked_of_agrees agree plainHost benchFiles).trans bench_checked
  obtain ⟨s, -, starts, -⟩ :=
    starts_of_checked [] noStores asks rfl ⟨rfl, rfl, rfl, rfl, rfl, rfl⟩ passed
  obtain ⟨-, exits⟩ := reports_agree_on_failures
    ((s.withExecutor brokenExecute).run {} { files := benchFiles }).ledger.results
  obtain ⟨-, ended⟩ := exits plainHost benchFailExit [] benchFiles noStores _ s starts
  have status := ended brokenExecute benchFiles rfl
  refine ⟨s, starts, status.trans ?_⟩
  constructor
  · rintro (failed | ⟨-, failures⟩)
    · exact absurd rfl failed
    · exact failures
  · exact fun failures => .inr ⟨rfl, failures⟩

end KernelSweep.CommandLine
