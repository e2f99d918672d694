import KernelSweep.CommandLine.PlainHost
import KernelSweep.Proofs.CommandLine.Prepare

set_option autoImplicit false

namespace KernelSweep.CommandLine

open Success

/-- The operands a command takes: the sweep and the list of its jobs may be told to use the
model. -/
def Subcommand.Accepts : Subcommand → List String → Prop
  | .validate, operands => operands = []
  | .sweep, operands | .matrix, operands => operands = [] ∨ operands = [modelOperand]

/-- The arguments ask for a command, with flags and operands it accepts. -/
structure Asks (host : Host) (args : List String) (command : Subcommand) (o : Options)
    (operands : List String) : Prop where
  parsed : host.parse Subcommand.usage args = .run command o operands
  accepted : command.Accepts operands

/-- The flags of every command say the same, the one for the model aside. -/
structure Options.Agrees (o other : Options) : Prop where
  logLevel : other.logLevel = o.logLevel
  config : other.config = o.config
  arch : other.arch = o.arch
  occupancyReduction : other.occupancyReduction = o.occupancyReduction
  threadLevel : other.threadLevel = o.threadLevel
  timeout : other.timeout = o.timeout

/-- What every command looks at before its own work. -/
def Options.checked (o : Options) (host : Host) (files : FileSystem) :
    Except CommandError Config := do
  let _ ← (host.level o.logLevel).mapError .logLevel
  o.loadConfig host.yaml files

/-- The sweep these options describe. -/
def Options.prepared (o : Options) (host : Host) (inherited : List Text.Bytes) (c : Config) :
    Except CommandError Sweep :=
  prepare c o.applyModel inherited (Program.executor host.system (o.setup c inherited))

/-- The arguments lead to the run of this sweep. -/
structure Starts (host : Host) (args : List String) (inherited : List Text.Bytes)
    (files : FileSystem) (o : Options) (s : Sweep) : Prop where
  request : ∃ asked operands level, host.parse Subcommand.usage args = .run .sweep asked operands ∧
    host.level asked.logLevel = .ok level ∧ asked.withOperands operands = .ok o
  prepared : ∃ c, o.loadConfig host.yaml files = .ok c ∧ o.prepared host inherited c = .ok s

/-- What a configuration that was let through can be made into, in either mode, below any parent and
with any executor. -/
structure Runnable (c : Config) : Prop where
  entries : ∀ s ∈ c.suites, ∃ kernels, s.parsed = .ok kernels
  binder : ∀ applyModel inherited, ∃ spec b,
    c.binderSpec applyModel inherited = .ok spec ∧ spec.build = .ok b
  sweep : ∀ applyModel inherited execute, ∃ s,
    prepare c applyModel inherited execute = .ok s ∧ s.jobs ≠ [] ∧
      s.jobs.length = c.entryCount * c.directions.length * (c.factorsFor applyModel).length *
        c.strides.length

theorem runnable_of_accepted {c : Config} (accepted : c.Accepted) : Runnable c where
  entries := accepted.entries
  binder := accepted.binder
  sweep applyModel inherited execute := by
    obtain ⟨s, prepared⟩ := prepare_of_accepted accepted applyModel inherited execute
    have made := preparedFrom_of_prepare prepared
    exact ⟨s, prepared, made.jobs_ne_nil accepted, made.jobs_length⟩

section Loading

variable {o : Options} {yaml : Yaml.Library} {files : FileSystem} {c : Config}

theorem loadConfig_eq_ok_iff : o.loadConfig yaml files = .ok c ↔
    ∃ read, o.readConfig yaml files = .ok read ∧ c = o.override read ∧ c.problems = [] := by
  unfold Options.loadConfig
  cases o.readConfig yaml files with
  | error e => simp
  | ok read =>
    simp only [Except.ok.injEq, exists_eq_left']
    constructor
    · intro loaded
      split at loaded
      · rename_i sound
        cases loaded
        exact ⟨rfl, sound⟩
      · cases loaded
    · rintro ⟨rfl, sound⟩
      simp only [sound]

theorem accepted_of_loadConfig (loaded : o.loadConfig yaml files = .ok c) : c.Accepted := by
  obtain ⟨read, -, -, sound⟩ := loadConfig_eq_ok_iff.mp loaded
  exact Config.accepted_of_problems sound

/-- Flags leave the profiles of the file as they are. -/
theorem namesDistinct_of_loadConfig (loaded : o.loadConfig yaml files = .ok c)
    (distinct : ∀ read, o.readConfig yaml files = .ok read → read.NamesDistinct) :
    c.NamesDistinct := by
  obtain ⟨read, found, rfl, -⟩ := loadConfig_eq_ok_iff.mp loaded
  exact distinct read found

theorem loadConfig_of_agrees {other : Options} (agree : o.Agrees other) (yaml : Yaml.Library)
    (files : FileSystem) : other.loadConfig yaml files = o.loadConfig yaml files := by
  simp only [Options.loadConfig, Options.readConfig, Options.override, agree.config, agree.arch,
    agree.occupancyReduction, agree.threadLevel, agree.timeout]

theorem checked_of_agrees {other : Options} (agree : o.Agrees other) (host : Host)
    (files : FileSystem) : other.checked host files = o.checked host files := by
  rw [Options.checked, Options.checked, loadConfig_of_agrees agree, agree.logLevel]

/-- An operand has no part in how the configuration is loaded. -/
theorem withOperands_of_accepts {operands : List String}
    (accepts : operands = [] ∨ operands = [modelOperand]) :
    ∃ o', o.withOperands operands = .ok o' ∧ o.Agrees o' := by
  rcases accepts with rfl | rfl
  · exact ⟨o, rfl, rfl, rfl, rfl, rfl, rfl, rfl⟩
  · exact ⟨{ o with applyModel := true }, rfl, rfl, rfl, rfl, rfl, rfl, rfl⟩

end Loading

section Commands

variable {host : Host} {args operands : List String} {command : Subcommand} {o o' : Options}
  {files : FileSystem} {c : Config} (inherited : List Text.Bytes) (stores : host.stores.State)

theorem withOperands_of_asks (asks : Asks host args command o operands) :
    ∃ o', o.withOperands operands = .ok o' ∧ o.Agrees o' := by
  have accepted := asks.accepted
  cases command with
  | validate => exact withOperands_of_accepts (.inl accepted)
  | sweep | matrix => exact withOperands_of_accepts accepted

/-- What a command does with its configuration. -/
def work (command : Subcommand) (o : Options) (inherited : List Text.Bytes) (files : FileSystem)
    (stores : host.stores.State) (c : Config) : Except CommandError (Ending host) :=
  match command with
  | .validate => .ok { output := Text.encode validText, files, stores }
  | .matrix => do
    let s ← o.prepared host inherited c
    return { output := Text.encode (matrixText s), files, stores }
  | .sweep => do
    let s ← o.prepared host inherited c
    return runSweep host o s files stores

/-- All commands check first and then do their work. -/
theorem perform_eq_work (told : o.withOperands operands = .ok o') (agree : o.Agrees o') :
    perform host ⟨command, o, operands⟩ inherited files stores =
      o.checked host files >>= work command o' inherited files stores := by
  rw [Options.checked, bind_assoc, perform]
  cases command with
  | validate => rfl
  | sweep | matrix =>
    rw [← loadConfig_of_agrees agree]
    simp only [Request.sweep, told, bind_assoc]
    rfl

/-- What a command ends with, given its answer. -/
def Ending.answering (files : FileSystem) (stores : host.stores.State) :
    Except CommandError (Ending host) → Ending host
  | .error e => .failed host files stores [] e
  | .ok ending => ending

theorem run_of_asks (asks : Asks host args command o operands)
    (told : o.withOperands operands = .ok o') (agree : o.Agrees o') :
    run host args inherited files stores = .answering files stores
      (o.checked host files >>= work command o' inherited files stores) := by
  rw [← perform_eq_work inherited stores told agree, run, asks.parsed]
  dsimp only
  cases perform host ⟨command, o, operands⟩ inherited files stores <;> rfl

theorem run_of_refused {e : CommandError} (asks : Asks host args command o operands)
    (refused : o.checked host files = .error e) :
    run host args inherited files stores = .failed host files stores [] e := by
  obtain ⟨o', told, agree⟩ := withOperands_of_asks asks
  rw [run_of_asks inherited stores asks told agree, refused]
  rfl

theorem loadConfig_of_checked (passed : o.checked host files = .ok c) :
    o.loadConfig host.yaml files = .ok c := by
  obtain ⟨level, -, loaded⟩ := bind_eq_ok.mp passed
  exact loaded

theorem run_validate_of_checked (asks : Asks host args .validate o operands)
    (passed : o.checked host files = .ok c) :
    run host args inherited files stores = { output := Text.encode validText, files, stores } := by
  obtain ⟨o', told, agree⟩ := withOperands_of_asks asks
  rw [run_of_asks inherited stores asks told agree, passed]
  rfl

theorem run_matrix_of_checked (asks : Asks host args .matrix o operands)
    (told : o.withOperands operands = .ok o') (agree : o.Agrees o')
    (passed : o.checked host files = .ok c) :
    ∃ s, o'.prepared host inherited c = .ok s ∧
      run host args inherited files stores =
        { output := Text.encode (matrixText s), files, stores } := by
  have accepted := accepted_of_loadConfig (loadConfig_of_checked passed)
  obtain ⟨s, prepared⟩ := prepare_of_accepted accepted o'.applyModel inherited
    (Program.executor host.system (o'.setup c inherited))
  rw [← Options.prepared] at prepared
  refine ⟨s, prepared, ?_⟩
  rw [run_of_asks inherited stores asks told agree, passed]
  show Ending.answering files stores (work .matrix o' inherited files stores c) = _
  rw [work, prepared]
  rfl

theorem starts_of_checked (asks : Asks host args .sweep o operands)
    (told : o.withOperands operands = .ok o') (agree : o.Agrees o')
    (passed : o.checked host files = .ok c) :
    ∃ s, o'.prepared host inherited c = .ok s ∧ Starts host args inherited files o' s ∧
      run host args inherited files stores = runSweep host o' s files stores := by
  obtain ⟨level, known, loaded⟩ := bind_eq_ok.mp passed
  rw [mapError_eq_ok] at known
  obtain ⟨s, prepared⟩ := prepare_of_accepted (accepted_of_loadConfig loaded) o'.applyModel
    inherited (Program.executor host.system (o'.setup c inherited))
  rw [← Options.prepared] at prepared
  rw [← loadConfig_of_agrees agree] at loaded
  refine ⟨s, prepared, ⟨⟨o, operands, level, asks.parsed, known, told⟩, c, loaded, prepared⟩, ?_⟩
  rw [run_of_asks inherited stores asks told agree, passed]
  show Ending.answering files stores (work .sweep o' inherited files stores c) = _
  rw [work, prepared]
  rfl

/-- A sweep gets started only with a configuration that passed the check. -/
theorem checked_of_starts {s : Sweep} (asks : Asks host args .sweep o operands)
    (starts : Starts host args inherited files o' s) : ∃ c, o.checked host files = .ok c := by
  obtain ⟨asked, given, level, parsed, known, told⟩ := starts.request
  obtain ⟨c, loaded, -⟩ := starts.prepared
  obtain ⟨agreed, told', agree⟩ := withOperands_of_asks asks
  cases asks.parsed.symm.trans parsed
  cases told.symm.trans told'
  rw [loadConfig_of_agrees agree] at loaded
  exact ⟨c, bind_eq_ok.mpr ⟨level, mapError_eq_ok.mpr known, loaded⟩⟩

end Commands

/-- The check is sound. Whatever it lets through can be run, in either mode and in whatever order
its profiles are taken; and with the same flags validating succeeds exactly when the jobs can be
printed and exactly when the sweep gets started. If one of the three fails before that, all fail
with the same error, nothing printed and no file changed. -/
theorem loadConfig_sound (host : Host) (o : Options) (files : FileSystem)
    (distinct : ∀ read, o.readConfig host.yaml files = .ok read → read.NamesDistinct) :
    (∀ c, o.loadConfig host.yaml files = .ok c → ∀ other, c.Reorders other →
      other.problems = [] ∧ Runnable other) ∧
    ∀ (validateArgs matrixArgs sweepArgs matrixOperands sweepOperands : List String)
      (inherited : List Text.Bytes) (stores : host.stores.State)
      (matrixOptions sweepOptions : Options),
      Asks host validateArgs .validate o [] →
      Asks host matrixArgs .matrix matrixOptions matrixOperands →
      Asks host sweepArgs .sweep sweepOptions sweepOperands →
      o.Agrees matrixOptions → o.Agrees sweepOptions →
      ((run host validateArgs inherited files stores).error = none ↔
        (run host matrixArgs inherited files stores).error = none) ∧
      ((run host validateArgs inherited files stores).error = none ↔
        ∃ o' s, Starts host sweepArgs inherited files o' s ∧
          run host sweepArgs inherited files stores = runSweep host o' s files stores) ∧
      ((run host validateArgs inherited files stores).error ≠ none →
        ∃ e, run host validateArgs inherited files stores = .failed host files stores [] e ∧
          run host matrixArgs inherited files stores = .failed host files stores [] e ∧
          run host sweepArgs inherited files stores = .failed host files stores [] e) := by
  constructor
  · intro c loaded other reordered
    have distinct' := namesDistinct_of_loadConfig loaded distinct
    obtain ⟨read, -, -, sound⟩ := loadConfig_eq_ok_iff.mp loaded
    have sound' : other.problems = [] := by
      rw [Config.problems_of_reorders distinct' reordered, sound]
    exact ⟨sound', runnable_of_accepted (Config.accepted_of_problems sound')⟩
  · intro validateArgs matrixArgs sweepArgs matrixOperands sweepOperands inherited stores
      matrixOptions sweepOptions validates lists sweeps agree agree'
    have same := checked_of_agrees agree host files
    have same' := checked_of_agrees agree' host files
    cases passed : o.checked host files with
    | error e =>
      rw [passed] at same same'
      have refused := run_of_refused inherited stores validates passed
      have refused' := run_of_refused inherited stores lists same
      have stopped : ¬ ∃ o' s, Starts host sweepArgs inherited files o' s ∧
          run host sweepArgs inherited files stores = runSweep host o' s files stores := by
        rintro ⟨o', s, starts, -⟩
        obtain ⟨c, checked⟩ := checked_of_starts inherited sweeps starts
        rw [same'] at checked
        cases checked
      refine ⟨?_, ?_, ?_⟩
      · rw [refused, refused']
      · rw [refused]
        constructor
        · intro succeeded
          cases succeeded
        · exact fun starts => absurd starts stopped
      · exact fun _ => ⟨e, refused, refused', run_of_refused inherited stores sweeps same'⟩
    | ok c =>
      rw [passed] at same same'
      have valid := run_validate_of_checked inherited stores validates passed
      obtain ⟨listed, told, agreed⟩ := withOperands_of_asks lists
      obtain ⟨started, told', agreed'⟩ := withOperands_of_asks sweeps
      obtain ⟨s, -, printed⟩ := run_matrix_of_checked inherited stores lists told agreed same
      obtain ⟨s', -, starts, ran⟩ := starts_of_checked inherited stores sweeps told' agreed' same'
      rw [valid, printed]
      exact ⟨⟨fun _ => rfl, fun _ => rfl⟩, ⟨fun _ => ⟨started, s', starts, ran⟩, fun _ => rfl⟩,
        fun failed => absurd rfl failed⟩

/-- Two profiles of one's own, and options without anything to fill in. -/
def benchFiles : FileSystem :=
  FileSystem.standard.insert ["tmp", "bench"]
    (.file (Text.encode ("architectures: \x7bTiny: \x7b\x7d, wide: \x7b\x7d\x7d\n" ++
      "templates: \x7bcompiler: -tc, clr: -clr, occupancy: -ored\x7d\n")) 0o644)

def benchOptions : Options := { config := "/tmp/bench", arch := some "Kepler" }

def emptyProfile : Profile := ⟨"", 0, 0, 0, 0, 0, 0⟩

def benchRead : Config :=
  { Config.standard with
    architectures := [("Tiny", emptyProfile), ("wide", emptyProfile)]
    templates := ⟨"-tc", "-clr", "-ored"⟩ }

def benchConfig : Config := benchOptions.override benchRead

theorem bench_read : benchOptions.readConfig plainHost.yaml benchFiles = .ok benchRead :=
  toOption_eq_some.mp (by decide +kernel)

theorem bench_checked : benchOptions.checked plainHost benchFiles = .ok benchConfig := by
  have loaded : benchOptions.loadConfig plainHost.yaml benchFiles = .ok benchConfig :=
    loadConfig_eq_ok_iff.mpr ⟨benchRead, bench_read, rfl, by decide +kernel⟩
  have known : plainHost.level benchOptions.logLevel = .ok .info :=
    toOption_eq_some.mp (by decide +kernel)
  exact bind_eq_ok.mpr ⟨.info, mapError_eq_ok.mpr known, loaded⟩

def benchValidate : List String := ["validate", "-c", "/tmp/bench", "--arch=Kepler"]
def benchMatrix : List String :=
  ["-c", "/tmp/bench", "matrix", modelOperand, "--arch", "Kepler"]
def benchSweep : List String :=
  ["--table", "-c/tmp/bench", "--apply-model", "--arch", "Kepler"]

theorem bench_asks_validate : Asks plainHost benchValidate .validate benchOptions [] :=
  ⟨by decide +kernel, rfl⟩

theorem bench_asks_matrix : Asks plainHost benchMatrix .matrix benchOptions [modelOperand] :=
  ⟨by decide +kernel, .inr rfl⟩

theorem bench_asks_sweep :
    Asks plainHost benchSweep .sweep { benchOptions with table := true, applyModel := true } [] :=
  ⟨by decide +kernel, .inl rfl⟩

/-- Every run fails. -/
def brokenExecute : Executor := fun _ _ files => { outcome := { exit := 1 }, files }

/-- Before anything is stored. -/
def noStores : plainHost.stores.State := ({ files := .standard } : ResultStore.Disk)

theorem bench_sound :
    Runnable benchConfig ∧
      Runnable { benchConfig with architectures := benchConfig.architectures.reverse } ∧
      (run plainHost benchValidate [] benchFiles noStores).error = none ∧
      (run plainHost benchMatrix [] benchFiles noStores).error = none ∧
      ∃ o' s, Starts plainHost benchSweep [] benchFiles o' s ∧
        run plainHost benchSweep [] benchFiles noStores =
          runSweep plainHost o' s benchFiles noStores := by
  have distinct : ∀ read, benchOptions.readConfig plainHost.yaml benchFiles = .ok read →
      read.NamesDistinct := by
    intro read found
    rw [bench_read] at found
    cases found
    decide +kernel
  obtain ⟨runnable, commands⟩ := loadConfig_sound plainHost benchOptions benchFiles distinct
  obtain ⟨printed, started, -⟩ := commands benchValidate benchMatrix benchSweep [modelOperand] [] []
    noStores benchOptions { benchOptions with table := true, applyModel := true }
    bench_asks_validate bench_asks_matrix bench_asks_sweep ⟨rfl, rfl, rfl, rfl, rfl, rfl⟩
    ⟨rfl, rfl, rfl, rfl, rfl, rfl⟩
  have valid : (run plainHost benchValidate [] benchFiles noStores).error = none := by
    rw [run_validate_of_checked [] noStores bench_asks_validate bench_checked]
  have runnable' := runnable benchConfig (loadConfig_of_checked bench_checked)
  exact ⟨(runnable' _ (.refl _)).2, (runnable' _ ⟨List.reverse_perm _, rfl⟩).2, valid,
    printed.mp valid, started.mp valid⟩

end KernelSweep.CommandLine
