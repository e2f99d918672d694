import KernelSweep.Config.Validate
import KernelSweep.Proofs.Binder.Build
import KernelSweep.Proofs.Number.IntegerText
import KernelSweep.Proofs.Registry
import Mathlib.Data.Finset.Card
import Mathlib.Data.List.Dedup

set_option autoImplicit false

namespace KernelSweep.Config

open Number Success

/-- A text that stands for a word above zero. -/
def IsPositive (value : String) : Prop := ∃ n : Int64, IsInteger value.toList n ∧ 0 < n

theorem isPositive_iff {value : String} : isPositive value = true ↔ IsPositive value := by
  unfold isPositive IsPositive
  simp only [← readInt64_eq_some_iff]
  cases readInt64 value.toList <;> simp

instance (value : String) : Decidable (IsPositive value) := decidable_of_iff _ isPositive_iff

/-- A list of values a sweep goes through, and whether they have to be numbers above zero. -/
structure Dimension where
  name : String
  positive : Bool
  values : List String

def dimensions (c : Config) : List Dimension :=
  [⟨"directions", false, c.directions⟩, ⟨"factors", true, c.factors⟩, ⟨"strides", true, c.strides⟩,
    ⟨"modelFactors", true, c.modelFactors⟩]

/-- The numbers that have to be above zero, by name. -/
def scalars (c : Config) : List (String × Int64) :=
  [("maxCoarseningFactor", c.maxCoarseningFactor), ("warpSize", c.warpSize),
    ("cacheLineSize", c.cacheLineSize), ("timeoutSeconds", c.timeoutSeconds)]

/-- The option templates in use: those of the configuration, defaults where it has none. -/
def options (c : Config) : List (String × String) := (c.templates.orElse .defaults).named

structure WellFormed (c : Config) : Prop where
  listed : c.suites ≠ []
  suites : ∀ s ∈ c.suites, s.path ≠ "" ∧ s.kernels ≠ [] ∧
    ∀ entry ∈ s.kernels, ∃ k, Kernel.parse s.path entry = .ok k
  dimensions : ∀ d ∈ c.dimensions, d.values ≠ [] ∧ d.values.Nodup ∧
    (d.positive = true → ∀ v ∈ d.values, IsPositive v)
  scalars : ∀ s ∈ c.scalars, 0 < s.2
  profile : ∃ p, c.Chooses p ∧ p.IsValid
  options : ∀ t ∈ c.options, OptionTemplate.Works t

/-- What a suite is reported for: its path, that it has no entries, and the first entry that cannot
be read. -/
inductive SuiteReported (index : Nat) (s : Suite) : List Problem → Prop
  | intro {bad : Option EntryError}
    (first : FirstFault (fun entry => ∃ k, Kernel.parse s.path entry = .ok k)
      (fun entry e => Kernel.parse s.path entry = .error e) s.kernels bad) :
    SuiteReported index s
      ((if s.path = "" then [.noPath index] else []) ++
        (if s.kernels = [] then [.noKernels s.path] else []) ++ bad.toList.map .badEntry)

def Problem.isRepeated : Problem → Bool
  | .repeatedValue _ _ => true
  | _ => false

def Problem.isRefused : Problem → Bool
  | .notPositive _ _ => true
  | _ => false

/-- What a value is reported for, given the values before it. -/
def valueReport (d : Dimension) (earlier : List String) (v : String) : List Problem :=
  (if v ∈ earlier then [.repeatedValue d.name v] else []) ++
    (if d.positive = true ∧ ¬ IsPositive v then [.notPositive d.name v] else [])

/-- What a dimension is reported for: that it is empty, and each of its values in order. All
occurrences of a value but one are repeated, and every occurrence of one that is no positive number
is refused. -/
structure DimensionReported (d : Dimension) (ps : List Problem) : Prop where
  listed : ps = (if d.values = [] then [.emptyDimension d.name] else []) ++
    d.values.zipIdx.flatMap fun (v, i) => valueReport d (d.values.take i) v
  repeated : ps.countP Problem.isRepeated = d.values.length - d.values.toFinset.card
  refused : ps.countP Problem.isRefused =
    d.values.countP fun v => d.positive && !decide (IsPositive v)

/-- What is reported last, one thing at most: the profile that is not known, its first limit that is
not positive, or the first template that does not work. -/
inductive BinderReported (c : Config) : List Problem → Prop
  | unknown (unchosen : ∀ p, ¬ c.Chooses p) :
    BinderReported c [.unknownProfile ⟨c.arch, c.registry.names⟩]
  | limit {p : Profile} {e : LimitError} (chosen : c.Chooses p)
    (first : FirstFault (fun l => 0 < p.limit l)
      (fun l e => p.limit l ≤ 0 ∧ e = ⟨p.name, l, p.limit l⟩) Limit.all (some e)) :
    BinderReported c [.binder (.limit e)]
  | option {p : Profile} {e : OptionError} (chosen : c.Chooses p) (valid : p.IsValid)
    (first : FirstFault OptionTemplate.Works OptionTemplate.Breaks c.options (some e)) :
    BinderReported c [.binder (.option e)]
  | sound {p : Profile} (chosen : c.Chooses p) (valid : p.IsValid)
    (all : ∀ t ∈ c.options, OptionTemplate.Works t) : BinderReported c []

/-- Everything a configuration is reported for, in the order of its fields. -/
inductive Reported (c : Config) : List Problem → Prop
  | intro {suites dimensions : List (List Problem)} {binder : List Problem}
    (each : List.Forall₂ (fun entry => SuiteReported entry.2 entry.1) c.suites.zipIdx suites)
    (every : List.Forall₂ DimensionReported c.dimensions dimensions)
    (last : BinderReported c binder) :
    Reported c
      ((if c.suites = [] then [.noSuites] else []) ++ suites.flatten ++ dimensions.flatten ++
        (c.scalars.flatMap fun (name, value) =>
          if value ≤ 0 then [.scalarNotPositive name value] else []) ++ binder)

section Suites

theorem suiteProblems_eq (index : Nat) (s : Suite) :
    suiteProblems index s =
      (if s.path = "" then [.noPath index] else []) ++
        (if s.kernels = [] then [.noKernels s.path] else []) ++
        (failure? (s.kernels.mapM (Kernel.parse s.path))).toList.map .badEntry := by
  simp only [suiteProblems, Suite.parsed, Kernel.parseAll, List.isEmpty_iff]
  cases s.kernels.mapM (Kernel.parse s.path) <;> rfl

theorem suiteProblems_eq_iff {index : Nat} {s : Suite} {ps : List Problem} :
    suiteProblems index s = ps ↔ SuiteReported index s ps := by
  rw [suiteProblems_eq]
  constructor
  · rintro rfl
    exact .intro (failure?_mapM_eq_iff.mp rfl)
  · rintro ⟨first⟩
    rw [failure?_mapM_eq_iff.mpr first]

theorem suitesProblems_eq (index : Nat) (suites : List Suite) :
    suitesProblems index suites =
      ((suites.zipIdx index).map fun entry => suiteProblems entry.2 entry.1).flatten := by
  induction suites generalizing index with
  | nil => rfl
  | cons s rest ih =>
    simp only [suitesProblems, ih, List.zipIdx_cons, List.map_cons, List.flatten_cons]

theorem suiteProblems_eq_nil_iff {index : Nat} {s : Suite} :
    suiteProblems index s = [] ↔
      s.path ≠ "" ∧ s.kernels ≠ [] ∧
        ∀ entry ∈ s.kernels, ∃ k, Kernel.parse s.path entry = .ok k := by
  have read : failure? (s.kernels.mapM (Kernel.parse s.path)) = none ↔
      ∀ entry ∈ s.kernels, ∃ k, Kernel.parse s.path entry = .ok k :=
    failure?_mapM_eq_iff.trans firstFault_none_iff
  simp [suiteProblems_eq, read]

theorem suitesProblems_eq_nil_iff {index : Nat} {suites : List Suite} :
    suitesProblems index suites = [] ↔
      ∀ s ∈ suites, s.path ≠ "" ∧ s.kernels ≠ [] ∧
        ∀ entry ∈ s.kernels, ∃ k, Kernel.parse s.path entry = .ok k := by
  induction suites generalizing index with
  | nil => simp [suitesProblems]
  | cons s rest ih =>
    rw [suitesProblems, List.append_eq_nil_iff, suiteProblems_eq_nil_iff, ih, List.forall_mem_cons]

end Suites

section Dimensions

variable (d : Dimension)

/-- The values seen so far are those before the present one, in another order. -/
theorem valueProblems_eq (seen before rest : List String) (same : ∀ v, v ∈ seen ↔ v ∈ before) :
    valueProblems d.name d.positive seen rest =
      (rest.zipIdx before.length).flatMap fun (v, i) =>
        valueReport d ((before ++ rest).take i) v := by
  -- The scan puts what it has seen in front, so all that is kept of the order is membership.
  induction rest generalizing seen before with
  | nil => rfl
  | cons v rest ih =>
    have later := ih (v :: seen) (before ++ [v]) (by simp [same, or_comm])
    rw [List.length_append, List.length_singleton, List.append_assoc, List.singleton_append]
      at later
    rw [valueProblems, later, List.zipIdx_cons, List.flatMap_cons]
    simp only [List.take_left, valueReport, List.contains_iff_mem, same, Bool.and_eq_true,
      Bool.not_eq_true', ← Bool.not_eq_true, isPositive_iff]

theorem countP_repeated (name : String) (positive : Bool) (seen rest : List String) :
    (valueProblems name positive seen rest).countP Problem.isRepeated +
        (seen ++ rest).toFinset.card =
      rest.length + seen.toFinset.card := by
  induction rest generalizing seen with
  | nil => simp [valueProblems]
  | cons v rest ih =>
    have later := ih (v :: seen)
    have all : (v :: seen ++ rest).toFinset = (seen ++ v :: rest).toFinset := by
      ext w
      simp
    have repeated : List.countP Problem.isRepeated
        (if seen.contains v then [Problem.repeatedValue name v] else []) =
          if v ∈ seen then 1 else 0 := by
      simp only [List.contains_iff_mem]
      split <;> rfl
    have refused : List.countP Problem.isRepeated
        (if positive && !isPositive v then [Problem.notPositive name v] else []) = 0 := by
      split <;> rfl
    rw [all, List.toFinset_cons] at later
    rw [valueProblems, List.countP_append, List.countP_append, repeated, refused, List.length_cons]
    by_cases known : v ∈ seen
    · rw [Finset.insert_eq_of_mem (List.mem_toFinset.mpr known)] at later
      rw [if_pos known]
      omega
    · rw [Finset.card_insert_of_notMem (mt List.mem_toFinset.mp known)] at later
      rw [if_neg known]
      omega

theorem countP_refused (name : String) (positive : Bool) (seen rest : List String) :
    (valueProblems name positive seen rest).countP Problem.isRefused =
      rest.countP fun v => positive && !decide (IsPositive v) := by
  induction rest generalizing seen with
  | nil => rfl
  | cons v rest ih =>
    have repeated : List.countP Problem.isRefused
        (if seen.contains v then [Problem.repeatedValue name v] else []) = 0 := by
      split <;> rfl
    have positive_iff : decide (IsPositive v) = isPositive v := by
      rw [Bool.eq_iff_iff, decide_eq_true_iff, isPositive_iff]
    rw [valueProblems, List.countP_append, List.countP_append, repeated, ih, List.countP_cons,
      positive_iff]
    cases positive <;> cases isPositive v <;> simp [Problem.isRefused, Nat.add_comm]

theorem dimensionProblems_eq_iff {ps : List Problem} :
    dimensionProblems d.name d.positive d.values = ps ↔ DimensionReported d ps := by
  have listed := valueProblems_eq d [] [] d.values (by simp)
  rw [List.nil_append, List.length_nil] at listed
  have repeated := countP_repeated d.name d.positive [] d.values
  have refused := countP_refused d.name d.positive [] d.values
  rw [List.nil_append, List.toFinset_nil, Finset.card_empty, Nat.add_zero] at repeated
  have empty : ∀ kind : Problem → Bool, kind (.emptyDimension d.name) = false →
      List.countP kind (if d.values = [] then [Problem.emptyDimension d.name] else []) = 0 := by
    intro kind other
    split <;> simp [other]
  simp only [dimensionProblems, List.isEmpty_iff]
  constructor
  · rintro rfl
    refine ⟨by rw [listed], ?_, ?_⟩
    · rw [List.countP_append, empty _ rfl]
      omega
    · rw [List.countP_append, empty _ rfl, refused, Nat.zero_add]
  · rintro ⟨rfl, -, -⟩
    rw [listed]

theorem valueProblems_eq_nil_iff {name : String} {positive : Bool} {seen rest : List String} :
    valueProblems name positive seen rest = [] ↔
      (∀ v ∈ rest, v ∉ seen) ∧ rest.Nodup ∧ (positive = true → ∀ v ∈ rest, IsPositive v) := by
  induction rest generalizing seen with
  | nil => simp [valueProblems]
  | cons v rest ih =>
    have fresh : (if seen.contains v then [Problem.repeatedValue name v] else []) = [] ↔
        v ∉ seen := by
      simp
    have fits : (if positive && !isPositive v then [Problem.notPositive name v] else []) = [] ↔
        (positive = true → IsPositive v) := by
      simp [← isPositive_iff]
    rw [valueProblems, List.append_eq_nil_iff, List.append_eq_nil_iff, ih, fresh, fits]
    rw [List.forall_mem_cons, List.forall_mem_cons, List.nodup_cons]
    constructor
    · rintro ⟨⟨new, here⟩, others, distinct, later⟩
      have once : v ∉ rest := fun again => others v again List.mem_cons_self
      exact ⟨⟨new, fun w member => List.not_mem_of_not_mem_cons (others w member)⟩,
        ⟨once, distinct⟩, fun needed => ⟨here needed, later needed⟩⟩
    · rintro ⟨⟨new, others⟩, ⟨once, distinct⟩, all⟩
      refine ⟨⟨new, fun needed => (all needed).1⟩, fun w member => ?_, distinct,
        fun needed => (all needed).2⟩
      rw [List.mem_cons, not_or]
      exact ⟨fun same => once (same ▸ member), others w member⟩

theorem dimensionProblems_eq_nil_iff :
    dimensionProblems d.name d.positive d.values = [] ↔
      d.values ≠ [] ∧ d.values.Nodup ∧ (d.positive = true → ∀ v ∈ d.values, IsPositive v) := by
  rw [dimensionProblems, List.append_eq_nil_iff, valueProblems_eq_nil_iff]
  simp

end Dimensions

section Binder

theorem fault?_eq_iff {p : Profile} {found : Option LimitError} :
    p.fault? = found ↔
      FirstFault (fun l => 0 < p.limit l) (fun l e => p.limit l ≤ 0 ∧ e = ⟨p.name, l, p.limit l⟩)
        Limit.all found := by
  unfold Profile.fault?
  induction Limit.all with
  | nil => rw [firstFault_nil_iff, eq_comm]; rfl
  | cons l rest ih =>
    rw [firstFault_cons_iff, ← ih, List.find?_cons]
    by_cases low : p.limit l ≤ 0
    · simp [low, Int64.not_lt.mpr low, eq_comm]
    · simp [low, Int64.not_le.mp low]

theorem failure?_options_eq_iff {c : Config} {found : Option OptionError} :
    failure? (c.options.mapM fun t => OptionTemplate.parse t.1 t.2) = found ↔
      FirstFault OptionTemplate.Works OptionTemplate.Breaks c.options found := by
  simp only [failure?_mapM_eq_iff, OptionTemplate.exists_parse_iff,
    OptionTemplate.parse_eq_error_iff]

variable {c : Config} {p : Profile}

theorem binderProblems_of_unknown {e : UnknownProfile} (failed : c.profile = .error e) :
    binderProblems c = [.unknownProfile e] := by
  rw [binderProblems, binderSpec, failed]
  rfl

/-- What the binder that is tried is made of. -/
theorem exists_binderSpec (found : c.profile = .ok p) :
    ∃ spec, c.binderSpec false [] = .ok spec ∧ spec.profile = p ∧
      spec.templates = c.templates.orElse .defaults := by
  rw [binderSpec, found]
  exact ⟨_, rfl, rfl, rfl⟩

theorem binderProblems_of_fault (found : c.profile = .ok p) {e : LimitError}
    (low : p.fault? = some e) : binderProblems c = [.binder (.limit e)] := by
  obtain ⟨spec, made, profile, -⟩ := exists_binderSpec found
  rw [← profile] at low
  simp only [binderProblems, made, BinderSpec.build_of_fault low]

theorem binderProblems_of_valid (found : c.profile = .ok p) (valid : p.IsValid) :
    binderProblems c =
      (failure? (c.options.mapM fun t => OptionTemplate.parse t.1 t.2)).toList.map
        fun e => .binder (.option e) := by
  obtain ⟨spec, made, profile, templates⟩ := exists_binderSpec found
  rw [← profile] at valid
  have built := BinderSpec.failure?_build valid
  have tried : binderProblems c = (failure? spec.build).toList.map .binder := by
    simp only [binderProblems, made]
    cases spec.build <;> rfl
  rw [tried, built, templates, ← options, Option.toList_map, List.map_map]
  rfl

theorem binderProblems_eq_iff (distinct : c.NamesDistinct) {ps : List Problem} :
    binderProblems c = ps ↔ BinderReported c ps := by
  have chooses : ∀ {p}, c.profile = .ok p ↔ c.Chooses p := profile_eq_ok_iff distinct
  constructor
  · rintro rfl
    cases found : c.profile with
    | error e =>
      rw [binderProblems_of_unknown found, eq_of_profile_eq_error found]
      refine .unknown fun p chosen => ?_
      rw [chooses.mpr chosen] at found
      cases found
    | ok p =>
      have chosen := chooses.mp found
      cases low : p.fault? with
      | some e =>
        rw [binderProblems_of_fault found low]
        exact .limit chosen (fault?_eq_iff.mp low)
      | none =>
        have valid := p.fault?_eq_none_iff.mp low
        rw [binderProblems_of_valid found valid]
        cases broken : failure? (c.options.mapM fun t => OptionTemplate.parse t.1 t.2) with
        | some e => exact .option chosen valid (failure?_options_eq_iff.mp broken)
        | none =>
          cases failure?_options_eq_iff.mp broken with
          | none all => exact .sound chosen valid all
  · rintro (unchosen | ⟨chosen, first⟩ | ⟨chosen, valid, first⟩ | ⟨chosen, valid, all⟩)
    · cases found : c.profile with
      | error e => rw [binderProblems_of_unknown found, eq_of_profile_eq_error found]
      | ok p => exact absurd (chooses.mp found) (unchosen p)
    · exact binderProblems_of_fault (chooses.mpr chosen) (fault?_eq_iff.mpr first)
    · rw [binderProblems_of_valid (chooses.mpr chosen) valid, failure?_options_eq_iff.mpr first]
      rfl
    · rw [binderProblems_of_valid (chooses.mpr chosen) valid,
        failure?_options_eq_iff.mpr (.none all)]
      rfl

end Binder

section Whole

variable {c : Config}

theorem forall₂_iff_eq_map {α β : Type} {f : α → β} {R : α → β → Prop}
    (decides : ∀ x y, f x = y ↔ R x y) {xs : List α} {ys : List β} :
    List.Forall₂ R xs ys ↔ xs.map f = ys := by
  obtain rfl : (fun x y => f x = y) = R := funext₂ fun x y => propext (decides x y)
  rw [← List.forall₂_map_left_iff (R := Eq), List.forall₂_eq_eq_eq]

theorem problems_eq (c : Config) :
    c.problems =
      (if c.suites = [] then [.noSuites] else []) ++
        (c.suites.zipIdx.map fun entry => suiteProblems entry.2 entry.1).flatten ++
        (c.dimensions.map fun d => dimensionProblems d.name d.positive d.values).flatten ++
        (c.scalars.flatMap fun (name, value) =>
          if value ≤ 0 then [.scalarNotPositive name value] else []) ++ binderProblems c := by
  simp only [problems, suitesProblems_eq, List.isEmpty_iff, dimensions, scalars, scalarProblems,
    List.map_cons, List.map_nil, List.flatten_cons, List.flatten_nil, List.flatMap_cons,
    List.flatMap_nil, List.append_assoc, List.append_nil]

theorem problems_eq_iff (distinct : c.NamesDistinct) {ps : List Problem} :
    c.problems = ps ↔ c.Reported ps := by
  have suites : ∀ parts, List.Forall₂ (fun entry => SuiteReported entry.2 entry.1)
      c.suites.zipIdx parts ↔
        (c.suites.zipIdx.map fun entry => suiteProblems entry.2 entry.1) = parts :=
    fun parts => forall₂_iff_eq_map fun entry ps => suiteProblems_eq_iff
  have dimensions : ∀ parts, List.Forall₂ DimensionReported c.dimensions parts ↔
      (c.dimensions.map fun d => dimensionProblems d.name d.positive d.values) = parts :=
    fun parts => forall₂_iff_eq_map fun d ps => dimensionProblems_eq_iff d
  rw [problems_eq]
  constructor
  · rintro rfl
    exact .intro ((suites _).mpr rfl) ((dimensions _).mpr rfl)
      ((binderProblems_eq_iff distinct).mp rfl)
  · rintro ⟨each, every, last⟩
    rw [(suites _).mp each, (dimensions _).mp every, (binderProblems_eq_iff distinct).mpr last]

theorem binderProblems_eq_nil_iff (distinct : c.NamesDistinct) :
    binderProblems c = [] ↔
      (∃ p, c.Chooses p ∧ p.IsValid) ∧ ∀ t ∈ c.options, OptionTemplate.Works t := by
  rw [binderProblems_eq_iff distinct]
  constructor
  · intro reported
    cases reported with
    | sound chosen valid all => exact ⟨⟨_, chosen, valid⟩, all⟩
  · rintro ⟨⟨p, chosen, valid⟩, all⟩
    exact .sound chosen valid all

theorem problems_eq_nil_iff (distinct : c.NamesDistinct) : c.problems = [] ↔ c.WellFormed := by
  rw [problems_eq, ← suitesProblems_eq]
  simp only [List.append_eq_nil_iff, suitesProblems_eq_nil_iff, List.flatten_eq_nil_iff,
    List.forall_mem_map, dimensionProblems_eq_nil_iff, List.flatMap_eq_nil_iff,
    binderProblems_eq_nil_iff distinct]
  constructor
  · rintro ⟨⟨⟨⟨listed, suites⟩, dimensions⟩, scalars⟩, profile, options⟩
    refine ⟨by simpa using listed, suites, dimensions, ?_, profile, options⟩
    simpa using scalars
  · rintro ⟨listed, suites, dimensions, scalars, profile, options⟩
    refine ⟨⟨⟨⟨by simpa using listed, suites⟩, dimensions⟩, ?_⟩, profile, options⟩
    simpa using scalars

/-- The order of the profiles is not among the things that are checked. -/
theorem problems_of_agree {c other : Config} (agree : c.LimitsAgree)
    (reordered : c.Reorders other) : other.problems = c.problems := by
  have binder : other.binderProblems = c.binderProblems := by
    rw [binderProblems, binderProblems, binderSpec_of_reorders agree reordered]
  rw [problems, problems, binder, reordered.besides]

theorem problems_of_reorders {c other : Config} (distinct : c.NamesDistinct)
    (reordered : c.Reorders other) : other.problems = c.problems :=
  problems_of_agree distinct.limitsAgree reordered

end Whole

/-- Validation is exact: there is nothing to report of a well-formed configuration and of no other
one, what is reported is settled field by field, and the order in which the profiles are listed does
not matter. -/
theorem problems_exact {c : Config} (distinct : c.NamesDistinct) :
    (c.problems = [] ↔ c.WellFormed) ∧ (∀ ps, c.problems = ps ↔ c.Reported ps) ∧
      ∀ other, c.Reorders other → other.problems = c.problems :=
  ⟨problems_eq_nil_iff distinct, fun _ => problems_eq_iff distinct,
    fun _ reordered => problems_of_reorders distinct reordered⟩

/-- A configuration with something wrong in most of its fields. -/
def muddled : Config :=
  { standard with
    suites := [⟨"", []⟩, ⟨"mm/mm", ["mm", "mm:", ":1"]⟩]
    arch := "Volta"
    architectures := [("wide", .pascal), ("Tiny", .kepler)]
    directions := []
    factors := ["2", "x", "2", "x"]
    warpSize := 0 }

theorem muddled_reported :
    muddled.NamesDistinct ∧
      muddled.Reported
        [.noPath 0, .noKernels "", .badEntry ⟨"mm/mm", "mm:", .emptyDirection⟩,
          .emptyDimension "directions", .notPositive "factors" "x", .repeatedValue "factors" "2",
          .repeatedValue "factors" "x", .notPositive "factors" "x", .scalarNotPositive "warpSize" 0,
          .unknownProfile ⟨"Volta", ["kepler", "maxwell", "pascal", "tiny", "wide"]⟩] := by
  have distinct : muddled.NamesDistinct := by decide +kernel
  exact ⟨distinct, ((problems_exact distinct).2.1 _).mp (by decide +kernel)⟩

end KernelSweep.Config
