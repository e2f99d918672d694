import KernelSweep.Proofs.Binder.Build
import KernelSweep.Proofs.Template.Filled
import KernelSweep.Proofs.Text.Utf8

set_option autoImplicit false

namespace KernelSweep

open Template (Hole Straight)
open Text (Bytes)

namespace OptionData

/-- What an option template can refer to, by name, and the text that stands there. -/
def texts (d : OptionData) : List (String × String) :=
  [("Lib", d.library), ("Optimization", d.optimization), ("Kernel", d.kernel),
    ("Direction", d.direction), ("Factor", d.factor), ("Stride", d.stride),
    ("WarpSize", Number.decimal d.warpSize), ("CacheLineSize", Number.decimal d.cacheLineSize),
    ("SharedMem", Number.decimal d.sharedMemory)]

def names : List String :=
  ["Lib", "Optimization", "Kernel", "Direction", "Factor", "Stride", "WarpSize", "CacheLineSize",
    "SharedMem"]

theorem exists_fields (d : OptionData) :
    ∃ type fields, d.value = .record type fields ∧ Hole.Agree fields d.texts := by
  refine ⟨_, _, rfl, ?_⟩
  simp [Hole.Agree, texts, Template.Value.ofString, Template.Value.placed,
    Template.Value.shown_text, Template.Value.shown_int]

end OptionData

namespace Template.Straight

/-- Every hole refers to a field there is, and every integer is a word. -/
def Fillable (t : Straight) : Prop := ∀ h ∈ t.holes, h.RefersTo OptionData.names ∧ h.Fits

/-- The options a template stands for. -/
def options (t : Straight) (d : OptionData) : Bytes := t.fill d.texts

/-- A template that can be filled is read, and then rendered whatever the data are. -/
theorem WellFormed.render_of_fillable {t : Straight} (formed : t.WellFormed)
    (fillable : t.Fillable) (name : String) :
    ∃ set, parse name (String.ofList t.source) = .ok set ∧
      ∀ d : OptionData, render set d.value = .ok (t.fill d.texts) := by
  have filled (d : OptionData) : ∃ type fields, d.value = .record type fields ∧
      t.filled? fields = some (t.fill d.texts) := by
    obtain ⟨type, fields, value, agree⟩ := d.exists_fields
    exact ⟨type, fields, value, (filled?_eq_some_iff agree).mpr ⟨fillable, rfl⟩⟩
  cases read : t.nodes? .start with
  | none =>
    obtain ⟨_, fields, -, filled⟩ := filled {}
    rw [filled?_of_broken formed read fields] at filled
    cases filled
  | some ns =>
    refine ⟨_, formed.parse_of_nodes name read, fun d => ?_⟩
    obtain ⟨type, fields, value, filled⟩ := filled d
    rw [value, ← Success.toOption_eq_some, formed.toOption_render read, filled]

/-- No data help a template that cannot be filled: it is not read, or not rendered. -/
theorem WellFormed.not_render_of_not_fillable {t : Straight} (formed : t.WellFormed)
    (broken : ¬ t.Fillable) {name : String} {set : TemplateSet}
    (read : parse name (String.ofList t.source) = .ok set) (d : OptionData) (bytes : Bytes) :
    render set d.value ≠ .ok bytes := by
  intro rendered
  obtain ⟨type, fields, value, agree⟩ := d.exists_fields
  apply broken
  cases nodes : t.nodes? .start with
  | none =>
    obtain ⟨e, failed⟩ := formed.parse_of_broken name nodes
    rw [failed] at read
    cases read
  | some ns =>
    rw [formed.parse_of_nodes name nodes] at read
    cases read
    have filled := formed.toOption_render nodes (Text.encode name) type fields
    rw [← value, rendered] at filled
    exact ((filled?_eq_some_iff agree).mp filled.symm).1

end Template.Straight

namespace OptionTemplate

theorem exists_parse_straight_iff {t : Straight} (formed : t.WellFormed) (name : String) :
    (∃ o, parse name (String.ofList t.source) = .ok o) ↔ t.Fillable := by
  rw [exists_parse_iff (t := (name, String.ofList t.source))]
  constructor
  · rintro ⟨set, bytes, read, rendered⟩
    by_contra broken
    exact formed.not_render_of_not_fillable broken read {} bytes rendered
  · intro fillable
    obtain ⟨set, read, renders⟩ := formed.render_of_fillable fillable name
    exact ⟨set, _, read, renders {}⟩

/-- The one trial on empty data stands for all data. -/
theorem render_of_parse_straight {t : Straight} (formed : t.WellFormed) {name : String}
    {o : OptionTemplate} (read : parse name (String.ofList t.source) = .ok o) (d : OptionData) :
    o.render d = .ok (t.options d) := by
  have fillable := (exists_parse_straight_iff formed name).mp ⟨o, read⟩
  obtain ⟨set, parsed, renders⟩ := formed.render_of_fillable fillable name
  simp only [parse, Success.bind_eq_ok, Success.mapError_eq_ok, Success.pure_eq_ok, parsed]
    at read
  obtain ⟨_, same, _, -, rfl⟩ := read
  cases same
  simp only [render, renders]
  rfl

end OptionTemplate

/-- Option templates without control. -/
structure StraightOptions where
  compiler : Straight
  cacheLine : Straight
  occupancy : Straight

namespace StraightOptions

def all (t : StraightOptions) : List Straight := [t.compiler, t.cacheLine, t.occupancy]

def texts (t : StraightOptions) : OptionTexts where
  compiler := String.ofList t.compiler.source
  cacheLine := String.ofList t.cacheLine.source
  occupancy := String.ofList t.occupancy.source

end StraightOptions

namespace BinderSpec

variable {s : BinderSpec} {t : StraightOptions} {b : Binder}

theorem exists_build_iff (valid : s.profile.IsValid) (formed : ∀ u ∈ t.all, u.WellFormed)
    (written : s.templates = t.texts) : (∃ b, s.build = .ok b) ↔ ∀ u ∈ t.all, u.Fillable := by
  simp only [StraightOptions.all, List.forall_mem_cons] at formed
  obtain ⟨first, second, third, -⟩ := formed
  simp only [StraightOptions.all, List.forall_mem_cons,
    ← OptionTemplate.exists_parse_straight_iff first "compiler",
    ← OptionTemplate.exists_parse_straight_iff second "clr",
    ← OptionTemplate.exists_parse_straight_iff third "occupancy", build_eq_ok_iff, written,
    StraightOptions.texts]
  constructor
  · rintro ⟨b, -, readCompiler, readCacheLine, readOccupancy⟩
    exact ⟨⟨_, readCompiler⟩, ⟨_, readCacheLine⟩, ⟨_, readOccupancy⟩, by simp⟩
  · rintro ⟨⟨compiler, readCompiler⟩, ⟨cacheLine, readCacheLine⟩, ⟨occupancy, readOccupancy⟩, -⟩
    exact ⟨⟨s, compiler, cacheLine, occupancy, valid⟩, rfl, readCompiler, readCacheLine,
      readOccupancy⟩

end BinderSpec

/-- The options of a request, with its own setting and the memory it reserves in them. -/
structure Binder.Fills (b : Binder) (t : StraightOptions) (r : BindRequest) (env : Environment) :
    Prop where
  compiler : env.lookup Variable.compilerOptions =
    some (t.compiler.options (b.optionsAt r.kernel.name (r.kernel.apply r.setting) r.reserved))
  cacheLine : env.lookup Variable.cacheLineOptions =
    some (t.cacheLine.options (b.optionsAt r.kernel.name (r.kernel.apply r.setting) r.reserved))
  occupancy : r.phase = .reduce → env.lookup Variable.occupancyReduction =
    some (t.occupancy.options (b.optionsAt r.kernel.name (r.kernel.apply r.setting) r.reserved))

namespace Binder

variable {b : Binder} {t : StraightOptions}

/-- A binder whose templates render on all data. -/
structure Renders (b : Binder) (t : StraightOptions) : Prop where
  compiler : ∀ d, b.compiler.render d = .ok (t.compiler.options d)
  cacheLine : ∀ d, b.cacheLine.render d = .ok (t.cacheLine.options d)
  occupancy : ∀ d, b.occupancy.render d = .ok (t.occupancy.options d)

theorem renders_of_build {s : BinderSpec} (formed : ∀ u ∈ t.all, u.WellFormed)
    (written : s.templates = t.texts) (built : s.build = .ok b) : b.Renders t := by
  obtain ⟨-, compiler, cacheLine, occupancy⟩ := BinderSpec.build_eq_ok_iff.mp built
  rw [written] at compiler cacheLine occupancy
  simp only [StraightOptions.all, List.forall_mem_cons] at formed
  obtain ⟨first, second, third, -⟩ := formed
  exact ⟨OptionTemplate.render_of_parse_straight first compiler,
    OptionTemplate.render_of_parse_straight second cacheLine,
    OptionTemplate.render_of_parse_straight third occupancy⟩

/-- With such templates it is the phase alone that decides whether a request is bound. -/
theorem Renders.exists_bind_iff (renders : b.Renders t) (r : BindRequest) :
    (∃ env, b.bind r = .ok env) ↔
      r.phase = .plain ∨ r.phase = .reduce ∨ r.phase = .measure ∧ r.reportPath ≠ "" := by
  have phase : (∃ env, b.bind r = .ok env) ↔ ∃ env, b.enterPhase r (b.common r
      (t.compiler.options (b.data r)) (t.cacheLine.options (b.data r))) = .ok env := by
    unfold bind
    rw [renders.compiler, renders.cacheLine]
    simp only [Success.bind_eq_ok, Success.mapError_eq_ok, Success.pure_eq_ok, Except.ok.injEq,
      exists_eq_left']
    constructor
    · rintro ⟨_, env, entered, -⟩
      exact ⟨env, entered⟩
    · rintro ⟨env, entered⟩
      exact ⟨_, env, entered, rfl⟩
  rw [phase, enterPhase]
  cases r.phase with
  | plain => simp
  | measure => split_ifs with path <;> simp [path]
  | reduce => simp [renders.occupancy]
  | other code => simp

theorem Renders.fills (renders : b.Renders t) {r : BindRequest} {env : Environment}
    (bound : b.bind r = .ok env) : b.Fills t r env := by
  have binds := binds_of_bind bound
  obtain ⟨compiler, rendered, valued⟩ := binds.compiler
  obtain ⟨cacheLine, rendered', valued'⟩ := binds.cacheLine
  rw [renders.compiler] at rendered
  rw [renders.cacheLine] at rendered'
  cases rendered
  cases rendered'
  refine ⟨valued, valued', fun reduce => ?_⟩
  cases binds.phase with
  | plain phase => rw [phase] at reduce; cases reduce
  | measure phase => rw [phase] at reduce; cases reduce
  | reduce phase setup rendered reduction =>
    rw [renders.occupancy] at rendered
    cases rendered
    exact reduction

end Binder

namespace Template.Straight

instance (text : List Char) : Decidable (Opens text) := inferInstanceAs (Decidable (_ <:+: _))

/-- Stretches of text, each with a field behind it, and the text at the end. -/
def ofFields : List (String × String) → String → Straight
  | [], ending => last ending.toList
  | (text, name) :: rest, ending =>
    action text.toList ⟨[], .field name.toList, []⟩ (ofFields rest ending)

theorem wellFormed_ofFields {pieces : List (String × String)} {ending : String}
    (texts : ∀ piece ∈ pieces, ¬ Opens (piece.1.toList ++ ['{']))
    (names : ∀ piece ∈ pieces, piece.2.toList.all Scan.isWord = true ∧
      piece.2.toList.head?.any (!·.isDigit) = true)
    (apart : ¬ Opens ending.toList) : (ofFields pieces ending).WellFormed := by
  induction pieces with
  | nil => exact apart
  | cons piece rest ih =>
    obtain ⟨text, name⟩ := piece
    obtain ⟨here, later⟩ := List.forall_mem_cons.mp texts
    obtain ⟨⟨word, start⟩, names⟩ := List.forall_mem_cons.mp names
    refine ⟨here, ⟨by simp, .field (List.all_eq_true.mp word) ?_, by simp⟩, ih later names⟩
    cases first : name.toList.head? with
    | none => simp [first] at start
    | some c => exact ⟨c, rfl, by simpa [first] using start⟩

theorem fillable_ofFields {pieces : List (String × String)} {ending : String}
    (known : ∀ piece ∈ pieces, piece.2 ∈ OptionData.names) :
    (ofFields pieces ending).Fillable := by
  induction pieces with
  | nil => exact nofun
  | cons piece rest ih =>
    obtain ⟨here, later⟩ := List.forall_mem_cons.mp known
    refine List.forall_mem_cons.mpr ⟨⟨?_, trivial⟩, ih later⟩
    rw [Hole.RefersTo, String.ofList_toList]
    exact here

end Template.Straight

/-- The default templates. -/
def StraightOptions.defaults : StraightOptions where
  compiler := .ofFields
    [("-mem2reg -load ", "Lib"),
      (" -structurizecfg -instnamer -be -tc -coarsening-factor ", "Factor"),
      (" -coarsening-direction ", "Direction"), (" -coarsening-stride ", "Stride"),
      (" -div-region-mgt classic -kernel-name ", "Kernel"),
      (" -simplifycfg -loop-instsimplify -early-cse -load-combine -licm ", "Optimization")] ""
  cacheLine := .ofFields
    [("-load ", "Lib"),
      (" -assumeRestrictArgs -domtree -gvn -basicaa -loop-simplify -indvars -load-combine" ++
        " -early-cse -clr -kernel-name ", "Kernel"),
      (" -warp-size ", "WarpSize"), (" -cache-line-size ", "CacheLineSize")] ""
  occupancy := .ofFields
    [("-load ", "Lib"), (" -ored -kernel-name ", "Kernel"), (" -shmem ", "SharedMem")] ""

theorem StraightOptions.texts_defaults : defaults.texts = OptionTexts.defaults := by
  decide +kernel

theorem StraightOptions.wellFormed_defaults : ∀ u ∈ defaults.all, u.WellFormed := by
  simp only [all, List.forall_mem_cons, List.not_mem_nil, false_implies, implies_true, and_true]
  refine ⟨?_, ?_, ?_⟩
  all_goals
    exact Template.Straight.wellFormed_ofFields (by decide +kernel) (by decide +kernel) (by decide)

theorem StraightOptions.fillable_defaults : ∀ u ∈ defaults.all, u.Fillable := by
  simp only [all, List.forall_mem_cons, List.not_mem_nil, false_implies, implies_true, and_true]
  refine ⟨?_, ?_, ?_⟩
  all_goals exact Template.Straight.fillable_ofFields (by decide)

/-- For templates without control the one trial tells all. A binder is built exactly when they refer
to fields there are and to integers that are words; then every request is bound whose phase is
plain, reducing, or measuring with a place for the report, and its options are the templates with
every hole filled in. -/
theorem BinderSpec.trial_tells_all (s : BinderSpec) (t : StraightOptions)
    (valid : s.profile.IsValid) (formed : ∀ u ∈ t.all, u.WellFormed)
    (written : s.templates = t.texts) :
    ((∃ b, s.build = .ok b) ↔ ∀ u ∈ t.all, u.Fillable) ∧
      ∀ b, s.build = .ok b → b.spec = s ∧
        (∀ r, (∃ env, b.bind r = .ok env) ↔
          r.phase = .plain ∨ r.phase = .reduce ∨ r.phase = .measure ∧ r.reportPath ≠ "") ∧
        ∀ r env, b.bind r = .ok env → b.Fills t r env := by
  refine ⟨exists_build_iff valid formed written, fun b built => ?_⟩
  have renders := Binder.renders_of_build formed written built
  exact ⟨(build_eq_ok_iff.mp built).1, renders.exists_bind_iff,
    fun _ _ bound => renders.fills bound⟩

def defaultRequest : BindRequest where
  kernel := ⟨"mm/mm", "mm", some "1"⟩
  setting := ⟨"0", "2", "32"⟩
  phase := .reduce
  reserved := 1024

theorem defaults_tell_all :
    ({} : BinderSpec).profile.IsValid ∧ (∀ u ∈ StraightOptions.defaults.all, u.WellFormed) ∧
      ({} : BinderSpec).templates = StraightOptions.defaults.texts ∧
      ∃ b env, ({} : BinderSpec).build = .ok b ∧ b.bind defaultRequest = .ok env ∧
        env.lookup Variable.occupancyReduction =
          some (Text.encode "-load  -ored -kernel-name mm -shmem 1024") := by
  have valid : ({} : BinderSpec).profile.IsValid :=
    (Profile.fault?_eq_none_iff _).mp (by decide +kernel)
  have formed := StraightOptions.wellFormed_defaults
  have written : ({} : BinderSpec).templates = StraightOptions.defaults.texts :=
    StraightOptions.texts_defaults.symm
  obtain ⟨built, binds⟩ :=
    BinderSpec.trial_tells_all {} StraightOptions.defaults valid formed written
  have fillable := StraightOptions.fillable_defaults
  obtain ⟨b, built⟩ := built.mpr fillable
  obtain ⟨whole, phases, fills⟩ := binds b built
  obtain ⟨env, bound⟩ := (phases defaultRequest).mpr (.inr (.inl rfl))
  refine ⟨valid, formed, written, b, env, built, bound, ?_⟩
  rw [(fills _ _ bound).occupancy rfl, Binder.optionsAt, whole]
  decide +kernel

/-- Templates that show one integer and refer to no field. -/
def StraightOptions.showing (spelling : String) (value : Int) : StraightOptions where
  compiler := .action [] ⟨[], .integer spelling.toList value, []⟩ (.last [])
  cacheLine := .last "-clr".toList
  occupancy := .last "-ored".toList

/-- That every field is there is not enough for an integer beyond the words, and an integer need not
stand in the options as it is written. -/
theorem integers_break_options :
    (∃ t : StraightOptions, (∀ u ∈ t.all, u.WellFormed) ∧
      (∀ u ∈ t.all, ∀ h ∈ u.holes, h.RefersTo OptionData.names) ∧
      t.texts.compiler = "\x7b\x7b9223372036854775808\x7d\x7d" ∧
      ∀ b, ({ templates := t.texts } : BinderSpec).build ≠ .ok b) ∧
    ∃ t : StraightOptions, (∀ u ∈ t.all, u.WellFormed) ∧
      t.texts.compiler = "\x7b\x7b-0xefffffff\x7d\x7d" ∧
      ∃ b env, ({ templates := t.texts } : BinderSpec).build = .ok b ∧
        b.bind defaultRequest = .ok env ∧
        env.lookup Variable.compilerOptions = some (Text.encode "-4.026531839e+09") := by
  have formed {spelling : String} {value : Int}
      (means : Number.readLiteral spelling.toList = some value) :
      ∀ u ∈ (StraightOptions.showing spelling value).all, u.WellFormed := by
    simp only [StraightOptions.all, List.forall_mem_cons, List.not_mem_nil, false_implies,
      implies_true, and_true]
    refine ⟨⟨?_, ⟨by simp, .integer means, by simp⟩, ?_⟩, ?_, ?_⟩
    all_goals
      show ¬ Template.Straight.Opens _
      decide
  refine ⟨⟨.showing "9223372036854775808" 9223372036854775808, formed (by decide +kernel), ?_,
    by decide +kernel, ?_⟩, ⟨.showing "-0xefffffff" (-4026531839), formed (by decide +kernel),
    by decide +kernel, ?_⟩⟩
  · intro u member h hole
    have only : h = .integer "9223372036854775808".toList 9223372036854775808 := by
      rcases List.mem_cons.mp member with rfl | later
      · simpa [StraightOptions.showing, Template.Straight.holes] using hole
      · rcases List.mem_cons.mp later with rfl | later
        · cases hole
        · obtain rfl := List.mem_singleton.mp later
          cases hole
    rw [only]
    trivial
  · intro b built
    have refused : ({ templates := (StraightOptions.showing "9223372036854775808"
        9223372036854775808).texts } : BinderSpec).build.toOption.isSome = false := by
      decide +kernel
    rw [built] at refused
    cases refused
  · have shown : (({ templates := (StraightOptions.showing "-0xefffffff" (-4026531839)).texts } :
        BinderSpec).build.toOption.bind fun b => (b.bind defaultRequest).toOption.bind fun env =>
          env.lookup Variable.compilerOptions) = some (Text.encode "-4.026531839e+09") := by
      decide +kernel
    obtain ⟨b, built, bound⟩ := Option.bind_eq_some_iff.mp shown
    obtain ⟨env, bound, options⟩ := Option.bind_eq_some_iff.mp bound
    rw [Success.toOption_eq_some] at built bound
    exact ⟨b, env, built, bound, options⟩

end KernelSweep
