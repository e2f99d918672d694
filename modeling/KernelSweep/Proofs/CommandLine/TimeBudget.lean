import KernelSweep.Proofs.CommandLine.Validation
import KernelSweep.Proofs.Duration

set_option autoImplicit false

namespace KernelSweep

open Number

theorem CommandLine.bench_accepted : benchConfig.problems = [] := by
  obtain ⟨read, -, -, sound⟩ := loadConfig_eq_ok_iff.mp (loadConfig_of_checked bench_checked)
  exact sound

namespace Config

variable {c : Config}

/-- With some number of seconds there would be nothing to report. -/
def ValidBesidesTimeout (c : Config) : Prop :=
  ∃ seconds : Int64, { c with timeoutSeconds := seconds }.problems = []

/-- No other check looks at the seconds. -/
theorem problems_of_validBesidesTimeout (valid : c.ValidBesidesTimeout) :
    c.problems = scalarProblems "timeoutSeconds" c.timeoutSeconds := by
  obtain ⟨seconds, sound⟩ := valid
  have binder : binderProblems { c with timeoutSeconds := seconds } = binderProblems c := rfl
  simp only [problems, binder, List.append_eq_nil_iff] at sound
  obtain ⟨⟨⟨⟨⟨⟨⟨⟨⟨⟨listed, suites⟩, directions⟩, factors⟩, strides⟩, modelFactors⟩, maxFactor⟩,
    warpSize⟩, cacheLineSize⟩, -⟩, last⟩ := sound
  simp only [problems, listed, suites, directions, factors, strides, modelFactors, maxFactor,
    warpSize, cacheLineSize, last, List.nil_append, List.append_nil]

/-- A run has some time, and as many seconds of it as the configuration says. -/
structure HasBudget (c : Config) : Prop where
  positive : 0 < c.timeout.nanoseconds
  asSet : c.timeout.nanoseconds.toInt = c.timeoutSeconds.toInt * 1000000000

theorem hasBudget_iff_isWord (positive : 0 < c.timeoutSeconds) :
    c.HasBudget ↔ IsWord (c.timeoutSeconds.toInt * 1000000000) := by
  rw [Int64.lt_iff_toInt_lt, Int64.toInt_zero] at positive
  constructor
  · intro budget
    exact Duration.toInt_ofSeconds_eq_iff.mp budget.asSet
  · intro fits
    have value : c.timeout.nanoseconds.toInt = c.timeoutSeconds.toInt * 1000000000 :=
      Duration.toInt_ofSeconds_eq_iff.mpr fits
    refine ⟨?_, value⟩
    rw [Int64.lt_iff_toInt_lt, Int64.toInt_zero, value]
    omega

/-- Among the configurations that are accepted, those with up to 9223372036 seconds have the budget
they ask for; with more the product wraps. -/
theorem hasBudget_iff_seconds_le (accepted : c.problems = []) :
    c.HasBudget ↔ c.timeoutSeconds ≤ 9223372036 := by
  have positive : 0 < c.timeoutSeconds :=
    scalars_pos_of_problems accepted ("timeoutSeconds", c.timeoutSeconds) (by simp [scalars])
  have most : (9223372036 : Int64).toInt = 9223372036 := rfl
  rw [hasBudget_iff_isWord positive, isWord_iff, Int64.le_iff_toInt_le, most]
  rw [Int64.lt_iff_toInt_lt, Int64.toInt_zero] at positive
  omega

/-- The configuration of the bench with a number of seconds of one's own. -/
def benchSeconds (seconds : Int64) : Config :=
  { CommandLine.benchConfig with timeoutSeconds := seconds }

theorem benchSeconds_accepted {seconds : Int64} (positive : 0 < seconds) :
    (benchSeconds seconds).problems = [] := by
  have valid : (benchSeconds seconds).ValidBesidesTimeout :=
    ⟨CommandLine.benchConfig.timeoutSeconds, CommandLine.bench_accepted⟩
  rw [problems_of_validBesidesTimeout valid, scalarProblems]
  exact if_neg (Int64.not_le.mpr positive)

theorem bench_hasBudget :
    (benchSeconds 9223372036).problems = [] ∧ (benchSeconds 9223372036).HasBudget := by
  have accepted : (benchSeconds 9223372036).problems = [] := benchSeconds_accepted (by decide)
  exact ⟨accepted, (hasBudget_iff_seconds_le accepted).mpr (by decide)⟩

/-- One second more is accepted and leaves less than no time, and about twice as many leave a third
of a second. -/
theorem bench_not_hasBudget :
    ((benchSeconds 9223372037).problems = [] ∧
      (benchSeconds 9223372037).timeout = ⟨-9223372036709551616⟩ ∧
      ¬ (benchSeconds 9223372037).HasBudget) ∧
    (benchSeconds 18446744074).problems = [] ∧
      (benchSeconds 18446744074).timeout = ⟨290448384⟩ ∧
      ¬ (benchSeconds 18446744074).HasBudget := by
  refine ⟨⟨benchSeconds_accepted (by decide), rfl, ?_⟩, benchSeconds_accepted (by decide), rfl, ?_⟩
  · intro budget
    exact absurd budget.positive (by decide)
  · intro budget
    exact absurd budget.asSet (by decide)

end Config

namespace CommandLine

variable {o : Options} {yaml : Yaml.Library} {files : FileSystem} {d : Duration} {read : Config}

/-- The budget that comes of a span given by the flag: whole seconds, enough for the span and less
than a second longer. -/
structure BudgetFor (d : Duration) (c : Config) : Prop where
  seconds : c.timeoutSeconds = d.wholeSeconds
  budget : c.HasBudget
  enough : d.nanoseconds.toInt ≤ c.timeout.nanoseconds.toInt
  close : c.timeout.nanoseconds.toInt < d.nanoseconds.toInt + 1000000000

theorem budgetFor_of_canRoundUp {c : Config} (up : d.CanRoundUp)
    (seconds : c.timeoutSeconds = d.wholeSeconds) : BudgetFor d c := by
  have positive : 0 < c.timeoutSeconds := by
    rw [seconds]
    exact Duration.wholeSeconds_pos_iff.mpr up
  have bounds := Duration.wholeSeconds_bounds up
  have fits : IsWord (c.timeoutSeconds.toInt * 1000000000) := by
    rw [Duration.canRoundUp_iff] at up
    rw [seconds, isWord_iff]
    omega
  have budget := (Config.hasBudget_iff_isWord positive).mpr fits
  refine ⟨seconds, budget, ?_, ?_⟩
  · rw [budget.asSet, seconds]
    exact bounds.1
  · rw [budget.asSet, seconds]
    exact bounds.2

theorem loadConfig_of_problem {problem : Config.Problem} {rest : List Config.Problem}
    (found : o.readConfig yaml files = .ok read)
    (reported : (o.override read).problems = problem :: rest) :
    o.loadConfig yaml files = .error (.invalid (problem :: rest)) := by
  simp only [Options.loadConfig, found, reported]

/-- A span given by the flag, where nothing else is wrong with the configuration: it is accepted
exactly when it can be rounded up to seconds, and is then the budget of a run; of any other span it
is reported that there is no time in it. -/
theorem loadConfig_timeout (given : o.timeout = some d) (found : o.readConfig yaml files = .ok read)
    (otherwise : (o.override read).ValidBesidesTimeout) :
    ((∃ c, o.loadConfig yaml files = .ok c) ↔ d.CanRoundUp) ∧
      (∀ c, o.loadConfig yaml files = .ok c → BudgetFor d c) ∧
      (¬ d.CanRoundUp → o.loadConfig yaml files =
        .error (.invalid [.scalarNotPositive "timeoutSeconds" d.wholeSeconds])) := by
  have seconds : (o.override read).timeoutSeconds = d.wholeSeconds := by
    rw [Options.override, given]
    rfl
  have problems := Config.problems_of_validBesidesTimeout otherwise
  rw [seconds, Config.scalarProblems] at problems
  by_cases up : d.CanRoundUp
  · have positive := Duration.wholeSeconds_pos_iff.mpr up
    rw [if_neg (Int64.not_le.mpr positive)] at problems
    have loaded : o.loadConfig yaml files = .ok (o.override read) :=
      loadConfig_eq_ok_iff.mpr ⟨read, found, rfl, problems⟩
    refine ⟨⟨fun _ => up, fun _ => ⟨_, loaded⟩⟩, ?_, fun beyond => absurd up beyond⟩
    intro c also
    cases loaded.symm.trans also
    exact budgetFor_of_canRoundUp up seconds
  · have nonpos := mt Duration.wholeSeconds_pos_iff.mp up
    rw [if_pos (Int64.not_lt.mp nonpos)] at problems
    have refused := loadConfig_of_problem found problems
    refine ⟨⟨?_, fun possible => absurd possible up⟩, ?_, fun _ => refused⟩
    · rintro ⟨c, loaded⟩
      cases refused.symm.trans loaded
    · intro c loaded
      cases refused.symm.trans loaded

/-- The options of the bench with a time limit. -/
def benchLimited (nanoseconds : Int64) : Options :=
  { benchOptions with timeout := some ⟨nanoseconds⟩ }

theorem benchLimited_otherwise (nanoseconds : Int64) :
    ((benchLimited nanoseconds).override benchRead).ValidBesidesTimeout :=
  ⟨benchConfig.timeoutSeconds, bench_accepted⟩

/-- The shortest span and the longest ones, on both sides of the limit. -/
theorem bench_timeout :
    (∃ c, (benchLimited 1).loadConfig plainHost.yaml benchFiles = .ok c ∧
        c.timeout = ⟨1000000000⟩) ∧
      (∃ c, (benchLimited 9223372035854775808).loadConfig plainHost.yaml benchFiles = .ok c ∧
        c.timeout = ⟨9223372036000000000⟩) ∧
      (benchLimited 9223372035854775809).loadConfig plainHost.yaml benchFiles =
        .error (.invalid [.scalarNotPositive "timeoutSeconds" (-9223372036)]) := by
  have shortest := loadConfig_timeout (o := benchLimited 1) rfl bench_read
    (benchLimited_otherwise _)
  have longest := loadConfig_timeout (o := benchLimited 9223372035854775808) rfl bench_read
    (benchLimited_otherwise _)
  have beyond := loadConfig_timeout (o := benchLimited 9223372035854775809) rfl bench_read
    (benchLimited_otherwise _)
  obtain ⟨c, loaded⟩ := shortest.1.mpr (by decide)
  obtain ⟨c', loaded'⟩ := longest.1.mpr (by decide)
  refine ⟨⟨c, loaded, ?_⟩, ⟨c', loaded', ?_⟩, beyond.2.2 (by decide)⟩
  · rw [Config.timeout, (shortest.2.1 c loaded).seconds]
    rfl
  · rw [Config.timeout, (longest.2.1 c' loaded').seconds]
    rfl

end CommandLine

end KernelSweep
