import KernelSweep.Proofs.CommandLine.Validation
import KernelSweep.Proofs.Text.Lines

set_option autoImplicit false

namespace KernelSweep

/-- The line the run behind a result is announced by. -/
def Result.planLine (r : Result) : String :=
  r.kernel.suite ++ " " ++ r.kernel.text ++ " " ++ r.setting.text

/-- The result of the run a job stands for. -/
structure Result.Realizes (r : Result) (job : Job) : Prop where
  kernel : r.kernel = job.kernel
  setting : r.setting = job.kernel.apply job.setting

theorem Result.Realizes.planLine {r : Result} {job : Job} (real : r.Realizes job)
    (suite : job.kernel.suite = job.suite) : r.planLine = job.text := by
  rw [Result.planLine, real.kernel, real.setting, suite, Job.text]

theorem Result.map_planLine {jobs : List Job} {results : List Result}
    (paired : List.Forall₂ (fun job r => r.Realizes job) jobs results)
    (suite : ∀ job ∈ jobs, job.kernel.suite = job.suite) :
    results.map Result.planLine = jobs.map Job.text := by
  induction paired with
  | nil => rfl
  | cons here _ ih =>
    have later := ih fun job member => suite job (by simp [member])
    rw [List.map_cons, List.map_cons, here.planLine (suite _ (by simp)), later]

/-- Without those the search added. -/
def primaries (results : List Result) : List Result := results.filter fun r => !r.followUp

/-- One line for each primary result and one for their number. -/
def planLines (results : List Result) : List String :=
  (primaries results).map Result.planLine ++ [toString (primaries results).length ++ " runs"]

namespace Sweep

variable {s : Sweep}

/-- Of what a job records, one result is primary. -/
theorem primaries_jobTrials (job : Job) (st : SweepState) :
    primaries ((s.jobTrials job st).map Trial.result) = [(s.primaryTrial job st).result] := by
  obtain ⟨taken, -, traced, -⟩ :=
    s.followUps_begun job (s.stepsFrom (s.found job st)) (s.measured job st)
  have added : primaries ((s.followUpTrials job (s.stepsFrom (s.found job st))
      (s.measured job st)).map Trial.result) = [] := by
    rw [primaries, List.filter_eq_nil_iff]
    intro r member
    obtain ⟨t, known, rfl⟩ := List.mem_map.mp member
    obtain ⟨step, recorded⟩ := traced.isFollowUp t known
    rw [recorded.searching]
    exact Bool.false_ne_true
  rw [primaries] at added
  rw [jobTrials, List.map_cons, primaries, List.filter_cons_of_pos, added]
  rw [(s.isPrimary_primaryTrial job st).asked]
  rfl

/-- As long as it was not cancelled, a run has a primary result for each job, in their order. -/
theorem primaries_trials (jobs : List Job) (st : SweepState)
    (live : (s.runJobs jobs st).2.cancelled = false) :
    List.Forall₂ (fun job r => r.Realizes job) jobs
      (primaries ((s.trials jobs st).map Trial.result)) := by
  induction jobs generalizing st with
  | nil => exact .nil
  | cons job rest ih =>
    cases going : st.cancelled with
    | true =>
      -- The flag never goes down again, so a run that stopped here would still show it.
      rw [(s.runJobs_of_cancelled (job :: rest) going).2, going] at live
      cases live
    | false =>
      rw [s.runJobs_of_live job rest going] at live
      have first := s.primaries_jobTrials job st
      have later := ih (s.runJob job st).2 live
      have primary := s.isPrimary_primaryTrial job st
      rw [primaries] at first later ⊢
      rw [s.trials_of_live job rest going, List.map_append, List.filter_append, first,
        List.singleton_append]
      exact .cons ⟨primary.kernel, primary.setting⟩ later

theorem runJobs_cancelled (quiet : s.execute.NeverCancels) (jobs : List Job) (st : SweepState) :
    (s.runJobs jobs st).2.cancelled = st.cancelled := by
  induction jobs generalizing st with
  | nil => rfl
  | cons job rest ih =>
    cases live : st.cancelled with
    | true => rw [(s.runJobs_of_cancelled (job :: rest) live).2, live]
    | false =>
      rw [s.runJobs_of_live job rest live]
      exact (ih _).trans ((runJob_cancelled quiet job st).trans live)

end Sweep

namespace CommandLine

open Success

/-- What a run records is what is printed of its jobs. -/
theorem matrixText_eq_unlines {c : Config} {applyModel : Bool} {s : Sweep}
    (prepared : PreparedFrom c applyModel s) {files : FileSystem}
    (live : (s.run {} { files }).state.cancelled = false) :
    matrixText s = Text.unlines (planLines (s.run {} { files }).ledger.results) := by
  have paired := Sweep.primaries_trials s.jobs { files } live
  rw [← (s.run_tells { files }).results] at paired
  have lines := Result.map_planLine paired fun job member => prepared.suite_of_mem member
  rw [matrixText, planLines, lines, ← paired.length_eq, Text.unlines, List.map_append,
    String.join_append, List.map_map]
  simp only [List.map_cons, List.map_nil, String.join_cons, String.join_nil, String.append_empty,
    String.append_assoc]
  rfl

theorem lines_of_planLines {results : List Result}
    (whole : ∀ r ∈ primaries results, '\n' ∉ r.planLine.toList) :
    Text.lines (Text.unlines (planLines results)) = planLines results ++ [""] := by
  apply Text.lines_unlines
  intro line member
  rcases List.mem_append.mp member with planned | counted
  · obtain ⟨r, primary, rfl⟩ := List.mem_map.mp planned
    exact whole r primary
  · rw [List.mem_singleton.mp counted, String.toList_append, List.mem_append]
    rintro (digit | letter)
    · exact absurd (Text.isDigit_of_mem_toString digit) (by decide)
    · exact absurd letter (by decide)

theorem matrixText_of_jobs {s s' : Sweep} (same : s.jobs = s'.jobs) :
    matrixText s = matrixText s' := by
  rw [matrixText, matrixText, same]

/-- Neither the parent nor the executor has a part in which jobs there are. -/
theorem jobs_of_prepare {c : Config} {applyModel : Bool} {inherited inherited' : List Text.Bytes}
    {execute execute' : Executor} {s s' : Sweep}
    (prepared : prepare c applyModel inherited execute = .ok s)
    (prepared' : prepare c applyModel inherited' execute' = .ok s') : s.jobs = s'.jobs := by
  obtain ⟨spec, binder, groups, -, -, read, rfl⟩ := prepare_eq_ok_iff.mp prepared
  obtain ⟨spec', binder', groups', -, -, read', rfl⟩ := prepare_eq_ok_iff.mp prepared'
  cases read.symm.trans read'
  rfl

/-- The printed plan is the executed plan. With the same configuration in the same mode, the list of
the jobs is one line for each primary result of the sweep that gets started, in their order, and one
with their number; whatever the executor does to the files it finds, as long as the sweep was not
cancelled. The jobs of that sweep are those of the configuration. -/
theorem matrix_prints_primaries (host : Host)
    {matrixArgs sweepArgs matrixOperands sweepOperands : List String}
    {matrixOptions sweepOptions listed started : Options} {files files' : FileSystem} {c : Config}
    (lists : Asks host matrixArgs .matrix matrixOptions matrixOperands)
    (sweeps : Asks host sweepArgs .sweep sweepOptions sweepOperands)
    (told : matrixOptions.withOperands matrixOperands = .ok listed)
    (told' : sweepOptions.withOperands sweepOperands = .ok started)
    (mode : listed.applyModel = started.applyModel)
    (passed : matrixOptions.checked host files = .ok c)
    (passed' : sweepOptions.checked host files' = .ok c)
    (inherited inherited' : List Text.Bytes) (stores stores' : host.stores.State) :
    ∃ s, Starts host sweepArgs inherited' files' started s ∧
      run host sweepArgs inherited' files' stores' = runSweep host started s files' stores' ∧
      PreparedFrom c started.applyModel s ∧
      ∀ (execute : Executor) (start : FileSystem),
        let report := (s.withExecutor execute).run {} { files := start }
        let text := Text.unlines (planLines report.ledger.results)
        report.state.cancelled = false →
          run host matrixArgs inherited files stores =
            { output := Text.encode text, files, stores } ∧
          ((∀ r ∈ primaries report.ledger.results, '\n' ∉ r.planLine.toList) →
            Text.lines text = planLines report.ledger.results ++ [""]) := by
  obtain ⟨_, same, agree⟩ := withOperands_of_asks lists
  cases told.symm.trans same
  obtain ⟨_, same', agree'⟩ := withOperands_of_asks sweeps
  cases told'.symm.trans same'
  obtain ⟨printing, prepared, printed⟩ :=
    run_matrix_of_checked inherited stores lists told agree passed
  obtain ⟨s, prepared', starts, ran⟩ :=
    starts_of_checked inherited' stores' sweeps told' agree' passed'
  refine ⟨s, starts, ran, preparedFrom_of_prepare prepared', ?_⟩
  intro execute start report text live
  -- Two sweeps, made by two commands below two parents, with the same jobs.
  have swept := prepare_withExecutor prepared' execute
  rw [Options.prepared, mode] at prepared
  have listed : matrixText printing = text := by
    rw [matrixText_of_jobs (jobs_of_prepare prepared swept)]
    exact matrixText_eq_unlines (preparedFrom_of_prepare swept) live
  rw [printed, listed]
  exact ⟨rfl, lines_of_planLines⟩

theorem bench_prints_primaries :
    ∃ s, Starts plainHost benchSweep [Text.encode "HOME=/"] benchFiles
        { benchOptions with table := true, applyModel := true } s ∧
      run plainHost benchMatrix [] benchFiles noStores =
        { output := Text.encode (Text.unlines (planLines
            ((s.withExecutor brokenExecute).run {} { files := .standard }).ledger.results))
          files := benchFiles
          stores := noStores } := by
  have agree : benchOptions.Agrees { benchOptions with table := true, applyModel := true } :=
    ⟨rfl, rfl, rfl, rfl, rfl, rfl⟩
  have passed := (checked_of_agrees agree plainHost benchFiles).trans bench_checked
  obtain ⟨s, starts, -, -, prints⟩ := matrix_prints_primaries plainHost bench_asks_matrix
    bench_asks_sweep rfl rfl rfl bench_checked passed [] [Text.encode "HOME=/"] noStores noStores
  have live : ((s.withExecutor brokenExecute).run {} { files := .standard }).state.cancelled =
      false := Sweep.runJobs_cancelled (fun _ _ _ => rfl) s.jobs { files := .standard }
  exact ⟨s, starts, (prints brokenExecute .standard live).1⟩

end CommandLine

end KernelSweep
