import KernelSweep.Binder
import KernelSweep.Proofs.Environment
import KernelSweep.Proofs.Success

set_option autoImplicit false

namespace KernelSweep

open Success
open Text (Bytes)

/-- A binder is built exactly when its profile is valid and its templates can be read. -/
theorem BinderSpec.build_eq_ok_iff {s : BinderSpec} {b : Binder} :
    s.build = .ok b ↔
      b.spec = s ∧
        OptionTemplate.parse "compiler" s.templates.compiler = .ok b.compiler ∧
        OptionTemplate.parse "clr" s.templates.cacheLine = .ok b.cacheLine ∧
        OptionTemplate.parse "occupancy" s.templates.occupancy = .ok b.occupancy := by
  unfold build
  split
  · rename_i e checked
    constructor
    · intro built
      cases built
    · rintro ⟨rfl, -⟩
      rw [b.spec.profile.fault?_eq_none_iff.mpr b.valid] at checked
      cases checked
  · simp only [bind_eq_ok, mapError_eq_ok, pure_eq_ok]
    constructor
    · rintro ⟨compiler, readCompiler, cacheLine, readCacheLine, occupancy, readOccupancy, rfl⟩
      exact ⟨rfl, readCompiler, readCacheLine, readOccupancy⟩
    · rintro ⟨rfl, readCompiler, readCacheLine, readOccupancy⟩
      exact ⟨_, readCompiler, _, readCacheLine, _, readOccupancy, rfl⟩

/-- Whether a binder is built depends on its profile and its templates alone. -/
theorem BinderSpec.build_of_same {s : BinderSpec} {b : Binder} (built : s.build = .ok b)
    (other : BinderSpec) (profile : other.profile = s.profile)
    (templates : other.templates = s.templates) : ∃ b', other.build = .ok b' := by
  obtain ⟨rfl, compiler, cacheLine, occupancy⟩ := build_eq_ok_iff.mp built
  have valid : other.profile.IsValid := profile ▸ b.valid
  rw [← templates] at compiler cacheLine occupancy
  exact ⟨⟨other, b.compiler, b.cacheLine, b.occupancy, valid⟩,
    build_eq_ok_iff.mpr ⟨rfl, compiler, cacheLine, occupancy⟩⟩

/-- The option templates by name, in the order they are read. -/
def OptionTexts.named (t : OptionTexts) : List (String × String) :=
  [("compiler", t.compiler), ("clr", t.cacheLine), ("occupancy", t.occupancy)]

namespace OptionTemplate

/-- A template under its name that can be read, and rendered with nothing filled in. -/
def Works (t : String × String) : Prop :=
  ∃ set text, Template.parse t.1 t.2 = .ok set ∧
    Template.render set (OptionData.value {}) = .ok text

/-- What is wrong with a template that does not work. -/
inductive Breaks (t : String × String) : OptionError → Prop
  | parse {e : Template.ParseError} (failed : Template.parse t.1 t.2 = .error e) :
    Breaks t (.parse t.1 e)
  | render {set : Template.TemplateSet} {e : Template.RenderError}
    (read : Template.parse t.1 t.2 = .ok set)
    (failed : Template.render set (OptionData.value {}) = .error e) : Breaks t (.render t.1 e)

theorem exists_parse_iff {t : String × String} : (∃ o, parse t.1 t.2 = .ok o) ↔ Works t := by
  unfold parse Works
  cases Template.parse t.1 t.2 with
  | error e => simp [Except.mapError, bind, Except.bind]
  | ok set =>
    cases rendered : Template.render set (OptionData.value {}) <;>
      simp [Except.mapError, bind, Except.bind, pure, Except.pure, render, rendered]

theorem parse_eq_error_iff {t : String × String} {e : OptionError} :
    parse t.1 t.2 = .error e ↔ Breaks t e := by
  unfold parse
  constructor
  · intro failed
    cases read : Template.parse t.1 t.2 with
    | error reason =>
      rw [read] at failed
      cases failed
      exact .parse read
    | ok set =>
      cases rendered : Template.render set (OptionData.value {}) with
      | error reason =>
        simp only [read, Except.mapError, bind, Except.bind, render, rendered] at failed
        cases failed
        exact .render read rendered
      | ok text =>
        simp [read, Except.mapError, bind, Except.bind, pure, Except.pure, render, rendered]
          at failed
  · rintro (failed | ⟨read, failed⟩)
    · rw [failed]
      rfl
    · simp only [read, Except.mapError, bind, Except.bind, render, failed]

end OptionTemplate

/-- With a valid profile, it is the first template that does not work that is in the way. -/
theorem BinderSpec.failure?_build {s : BinderSpec} (valid : s.profile.IsValid) :
    failure? s.build =
      (failure? (s.templates.named.mapM fun t => OptionTemplate.parse t.1 t.2)).map .option := by
  unfold build
  split
  · rename_i e checked
    rw [s.profile.fault?_eq_none_iff.mpr valid] at checked
    cases checked
  · simp only [OptionTexts.named, List.mapM_cons, List.mapM_nil]
    cases OptionTemplate.parse "compiler" s.templates.compiler with
    | error e => rfl
    | ok compiler =>
      cases OptionTemplate.parse "clr" s.templates.cacheLine with
      | error e => rfl
      | ok cacheLine => cases OptionTemplate.parse "occupancy" s.templates.occupancy <;> rfl

theorem BinderSpec.build_of_fault {s : BinderSpec} {e : LimitError}
    (low : s.profile.fault? = some e) : s.build = .error (.limit e) := by
  unfold build
  split
  · rename_i found
    rw [low] at found
    cases found
    rfl
  · rename_i unread
    rw [low] at unread
    cases unread

namespace Binder

/-- What the options of a run are filled in with: the setting it runs at and the memory it
reserves. -/
def optionsAt (b : Binder) (kernel : String) (setting : Setting) (reserved : Int64) :
    OptionData where
  library := b.spec.paths.library
  optimization := b.spec.paths.optimization
  kernel
  direction := setting.direction
  factor := setting.factor
  stride := setting.stride
  warpSize := b.spec.warpSize
  cacheLineSize := b.spec.cacheLineSize
  sharedMemory := reserved

theorem data_eq (b : Binder) (r : BindRequest) :
    b.data r = b.optionsAt r.kernel.name (r.kernel.apply r.setting) r.reserved := rfl

/-- The two variables of the occupancy search, by the phase of the request. -/
inductive Phased (b : Binder) (r : BindRequest) (env : Environment) : Prop
  | plain (phase : r.phase = .plain) (setup : env.lookup Variable.occupancySetup = none)
    (reduction : env.lookup Variable.occupancyReduction = none)
  | measure (phase : r.phase = .measure) (path : r.reportPath ≠ "")
    (setup : env.lookup Variable.occupancySetup = some (Text.encode r.reportPath))
    (reduction : env.lookup Variable.occupancyReduction = none)
  | reduce (phase : r.phase = .reduce) (setup : env.lookup Variable.occupancySetup = none)
    {options : Bytes} (rendered : b.occupancy.render (b.data r) = .ok options)
    (reduction : env.lookup Variable.occupancyReduction = some options)

/-- What a request that was bound has in its environment. -/
structure Binds (b : Binder) (r : BindRequest) (env : Environment) : Prop where
  inherited : env.inherited = b.spec.inherited
  managed : ∀ name ∈ env.keys, name ∈ Variable.managed
  kernelName : env.lookup Variable.kernelName = some (Text.encode r.kernel.name)
  compiler : ∃ options, b.compiler.render (b.data r) = .ok options ∧
    env.lookup Variable.compilerOptions = some options
  cacheLine : ∃ options, b.cacheLine.render (b.data r) = .ok options ∧
    env.lookup Variable.cacheLineOptions = some options
  phase : b.Phased r env

section Steps

variable {b : Binder} {r : BindRequest} {env : Environment}

@[simp] theorem inherited_withThreadLevel :
    (b.withThreadLevel env).inherited = env.inherited := by
  unfold withThreadLevel
  split <;> rfl

@[simp] theorem inherited_withMaxFactor : (b.withMaxFactor env).inherited = env.inherited := by
  unfold withMaxFactor
  split <;> rfl

theorem lookup_withThreadLevel {name : String} (other : name ≠ Variable.threadLevel) :
    (b.withThreadLevel env).lookup name = env.lookup name := by
  unfold withThreadLevel
  split
  · rw [Environment.lookup_set, if_neg other]
  · rfl

theorem lookup_withMaxFactor {name : String} (other : name ≠ Variable.maxFactor) :
    (b.withMaxFactor env).lookup name = env.lookup name := by
  unfold withMaxFactor
  split
  · rfl
  · rw [Environment.lookup_set, if_neg other]

/-- The keys are names a binder may bind. -/
def Within (env : Environment) : Prop := ∀ name ∈ env.keys, name ∈ Variable.managed

theorem Within.set (within : Within env) {name : String} (managed : name ∈ Variable.managed)
    (value : Bytes) : Within (env.set name value) := by
  intro other member
  rw [Environment.mem_keys_iff, Environment.lookup_set] at member
  split at member
  next same => exact same ▸ managed
  next => exact within other (Environment.mem_keys_iff env |>.mpr member)

theorem within_common (compiler cacheLine : Bytes) : Within (b.common r compiler cacheLine) := by
  intro name member
  rw [(Environment.keys_perm _).mem_iff] at member
  simp only [common, List.map_cons, List.map_nil] at member
  revert name
  decide

theorem Within.withThreadLevel (within : Within env) : Within (b.withThreadLevel env) := by
  unfold Binder.withThreadLevel
  split
  · exact within.set (by decide) _
  · exact within

theorem Within.withMaxFactor (within : Within env) : Within (b.withMaxFactor env) := by
  unfold Binder.withMaxFactor
  split
  · exact within
  · exact within.set (by decide) _

/-- Entering a phase sets at most one variable, and that belongs to the occupancy search. -/
structure Enters (b : Binder) (r : BindRequest) (before after : Environment) : Prop where
  inherited : after.inherited = before.inherited
  within : Within before → Within after
  lookup : ∀ name, name ≠ Variable.occupancySetup → name ≠ Variable.occupancyReduction →
    after.lookup name = before.lookup name
  phased : before.lookup Variable.occupancySetup = none →
    before.lookup Variable.occupancyReduction = none → b.Phased r after

theorem enters_of_enterPhase {before after : Environment}
    (entered : b.enterPhase r before = .ok after) : b.Enters r before after := by
  unfold enterPhase at entered
  split at entered
  next phase =>
    cases entered
    exact ⟨rfl, id, fun _ _ _ => rfl, .plain phase⟩
  next phase =>
    split at entered
    next => cases entered
    next path =>
      cases entered
      refine ⟨rfl, fun within => within.set (by decide) _, ?_, fun _ unreduced => ?_⟩
      · intro name setup _
        rw [Environment.lookup_set, if_neg setup]
      · refine .measure phase path ?_ ?_
        · rw [Environment.lookup_set, if_pos rfl]
        · rw [Environment.lookup_set, if_neg (by decide), unreduced]
  next phase =>
    split at entered
    next options rendered =>
      cases entered
      refine ⟨rfl, fun within => within.set (by decide) _, ?_, fun unmeasured _ => ?_⟩
      · intro name _ reduction
        rw [Environment.lookup_set, if_neg reduction]
      · refine .reduce phase ?_ rendered ?_
        · rw [Environment.lookup_set, if_neg (by decide), unmeasured]
        · rw [Environment.lookup_set, if_pos rfl]
    next => cases entered
  next => cases entered

theorem Phased.congr {other : Environment} (phased : b.Phased r env)
    (setup : other.lookup Variable.occupancySetup = env.lookup Variable.occupancySetup)
    (reduction :
      other.lookup Variable.occupancyReduction = env.lookup Variable.occupancyReduction) :
    b.Phased r other := by
  cases phased with
  | plain phase unmeasured unreduced =>
    exact .plain phase (setup.trans unmeasured) (reduction.trans unreduced)
  | measure phase path measured unreduced =>
    exact .measure phase path (setup.trans measured) (reduction.trans unreduced)
  | reduce phase unmeasured rendered reduced =>
    exact .reduce phase (setup.trans unmeasured) rendered (reduction.trans reduced)

end Steps

theorem binds_of_bind {b : Binder} {r : BindRequest} {env : Environment}
    (bound : b.bind r = .ok env) : b.Binds r env := by
  simp only [bind, bind_eq_ok, mapError_eq_ok, pure_eq_ok] at bound
  obtain ⟨compiler, rendered, cacheLine, rendered', after, entered, rfl⟩ := bound
  have enters := enters_of_enterPhase entered
  -- The variables set last are none of those the fields speak of.
  have kept {name : String} (level : name ≠ Variable.threadLevel)
      (factor : name ≠ Variable.maxFactor) :
      (b.withMaxFactor (b.withThreadLevel after)).lookup name = after.lookup name := by
    rw [lookup_withMaxFactor factor, lookup_withThreadLevel level]
  have common {name : String} (level : name ≠ Variable.threadLevel)
      (factor : name ≠ Variable.maxFactor) (setup : name ≠ Variable.occupancySetup)
      (reduction : name ≠ Variable.occupancyReduction) :
      (b.withMaxFactor (b.withThreadLevel after)).lookup name =
        (b.common r compiler cacheLine).lookup name :=
    (kept level factor).trans (enters.lookup name setup reduction)
  refine ⟨?_, ?_, ?_, ⟨compiler, rendered, ?_⟩, ⟨cacheLine, rendered', ?_⟩, ?_⟩
  · simp only [inherited_withMaxFactor, inherited_withThreadLevel, enters.inherited]
    rfl
  · exact (enters.within (within_common compiler cacheLine)).withThreadLevel.withMaxFactor
  · exact common (by decide) (by decide) (by decide) (by decide)
  · exact common (by decide) (by decide) (by decide) (by decide)
  · exact common (by decide) (by decide) (by decide) (by decide)
  · exact (enters.phased rfl rfl).congr (kept (by decide) (by decide))
      (kept (by decide) (by decide))

end Binder

end KernelSweep
