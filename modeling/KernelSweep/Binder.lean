import KernelSweep.Environment
import KernelSweep.Kernel
import KernelSweep.Profile
import KernelSweep.Template.Parse
import KernelSweep.Template.Render

set_option autoImplicit false

namespace KernelSweep

open Text (Bytes)

/-- How a run takes part in the search for lower occupancy. -/
inductive Phase where
  | plain
  | measure
  | reduce
  | other (code : Int64)
  deriving DecidableEq, Repr

namespace Phase

def ofCode (code : Int64) : Phase :=
  if code = 0 then .plain
  else if code = 1 then .measure
  else if code = 2 then .reduce
  else .other code

def text : Phase → String
  | .plain => "none"
  | .measure => "measure"
  | .reduce => "reduce"
  | .other code => "Phase(" ++ Number.decimal code ++ ")"

end Phase

/-- Where the parts of the toolchain are. -/
structure ToolPaths where
  header : String := ""
  library : String := ""
  preload : String := ""
  optimization : String := ""
  deriving DecidableEq, Repr

/-- The texts of the option templates; an empty one stands for the default. -/
structure OptionTexts where
  compiler : String := ""
  cacheLine : String := ""
  occupancy : String := ""
  deriving DecidableEq, Repr

namespace OptionTexts

def placeholder (name : String) : String := "\x7b\x7b." ++ name ++ "\x7d\x7d"

def defaults : OptionTexts where
  compiler :=
    "-mem2reg -load " ++ placeholder "Lib" ++
      " -structurizecfg -instnamer -be -tc -coarsening-factor " ++ placeholder "Factor" ++
      " -coarsening-direction " ++ placeholder "Direction" ++ " -coarsening-stride " ++
      placeholder "Stride" ++ " -div-region-mgt classic -kernel-name " ++ placeholder "Kernel" ++
      " -simplifycfg -loop-instsimplify -early-cse -load-combine -licm " ++
      placeholder "Optimization"
  cacheLine :=
    "-load " ++ placeholder "Lib" ++
      " -assumeRestrictArgs -domtree -gvn -basicaa -loop-simplify -indvars -load-combine" ++
      " -early-cse -clr -kernel-name " ++ placeholder "Kernel" ++ " -warp-size " ++
      placeholder "WarpSize" ++ " -cache-line-size " ++ placeholder "CacheLineSize"
  occupancy :=
    "-load " ++ placeholder "Lib" ++ " -ored -kernel-name " ++ placeholder "Kernel" ++
      " -shmem " ++ placeholder "SharedMem"

/-- Takes the other side where a text is empty. -/
def orElse (t other : OptionTexts) : OptionTexts where
  compiler := if t.compiler = "" then other.compiler else t.compiler
  cacheLine := if t.cacheLine = "" then other.cacheLine else t.cacheLine
  occupancy := if t.occupancy = "" then other.occupancy else t.occupancy

end OptionTexts

/-- What an option template can refer to. -/
structure OptionData where
  library : String := ""
  optimization : String := ""
  kernel : String := ""
  direction : String := ""
  factor : String := ""
  stride : String := ""
  warpSize : Int64 := 0
  cacheLineSize : Int64 := 0
  sharedMemory : Int64 := 0
  deriving DecidableEq, Repr

def OptionData.value (d : OptionData) : Template.Value :=
  .record "env.TemplateData"
    [("Lib", .ofString d.library), ("Optimization", .ofString d.optimization),
      ("Kernel", .ofString d.kernel), ("Direction", .ofString d.direction),
      ("Factor", .ofString d.factor), ("Stride", .ofString d.stride),
      ("WarpSize", .int d.warpSize), ("CacheLineSize", .int d.cacheLineSize),
      ("SharedMem", .int d.sharedMemory)]

inductive OptionError where
  | parse (name : String) (e : Template.ParseError)
  | render (name : String) (e : Template.RenderError)
  deriving DecidableEq, Repr

def OptionError.message : OptionError → String
  | .parse name e => name ++ " option template: " ++ e.message name
  | .render name e => "rendering " ++ name ++ " options: " ++ e.message name

structure OptionTemplate where
  name : String
  templates : Template.TemplateSet

namespace OptionTemplate

def render (t : OptionTemplate) (d : OptionData) : Except OptionError Bytes :=
  (Template.render t.templates d.value).mapError (.render t.name)

/-- Reads a template. A reference to an unknown field shows only when the template is rendered, so
it is rendered once with nothing filled in. -/
def parse (name text : String) : Except OptionError OptionTemplate := do
  let templates ← (Template.parse name text).mapError (.parse name)
  let t : OptionTemplate := ⟨name, templates⟩
  let _ ← t.render {}
  return t

end OptionTemplate

/-- Everything a binder is made of. -/
structure BinderSpec where
  paths : ToolPaths := {}
  templates : OptionTexts := .defaults
  warpSize : Int64 := 32
  cacheLineSize : Int64 := 32
  profile : Profile := .pascal
  /-- Empty for the default device of the profile. -/
  device : String := ""
  threadLevel : Bool := false
  /-- Empty to leave the coarsening model off. -/
  maxFactor : String := ""
  inherited : List Bytes := []

inductive BinderError where
  | limit (e : LimitError)
  | option (e : OptionError)
  deriving DecidableEq, Repr

def BinderError.message : BinderError → String
  | .limit e => e.message
  | .option e => e.message

structure Binder where
  spec : BinderSpec
  compiler : OptionTemplate
  cacheLine : OptionTemplate
  occupancy : OptionTemplate
  valid : spec.profile.IsValid

structure BindRequest where
  kernel : Kernel
  setting : Setting
  phase : Phase
  /-- Where a measured run leaves its report. -/
  reportPath : String := ""
  /-- Shared memory to reserve for each block. -/
  reserved : Int64 := 0

inductive BindError where
  | option (e : OptionError)
  | noReportPath (kernel : String)
  | unknownPhase (kernel : String) (phase : Phase)
  deriving DecidableEq, Repr

def BindError.message : BindError → String
  | .option e => e.message
  | .noReportPath kernel => "kernel " ++ kernel ++ ": measurement run without a report path"
  | .unknownPhase kernel phase => "kernel " ++ kernel ++ ": unknown phase " ++ phase.text

/-- Checks the profile, then reads the templates in order. -/
def BinderSpec.build (s : BinderSpec) : Except BinderError Binder :=
  match checked : s.profile.fault? with
  | some e => .error (.limit e)
  | none => do
    let compiler ← (OptionTemplate.parse "compiler" s.templates.compiler).mapError .option
    let cacheLine ← (OptionTemplate.parse "clr" s.templates.cacheLine).mapError .option
    let occupancy ← (OptionTemplate.parse "occupancy" s.templates.occupancy).mapError .option
    return ⟨s, compiler, cacheLine, occupancy, s.profile.fault?_eq_none_iff.mp checked⟩

namespace Binder

def profile (b : Binder) : Profile := b.spec.profile

theorem profile_valid (b : Binder) : b.profile.IsValid := b.valid

def device (b : Binder) : String :=
  if b.spec.device = "" then b.profile.defaultDevice else b.spec.device

/-- The data of a request: the kernel's own direction replaces the one of the setting. -/
def data (b : Binder) (r : BindRequest) : OptionData :=
  let setting := r.kernel.apply r.setting
  { library := b.spec.paths.library
    optimization := b.spec.paths.optimization
    kernel := r.kernel.name
    direction := setting.direction
    factor := setting.factor
    stride := setting.stride
    warpSize := b.spec.warpSize
    cacheLineSize := b.spec.cacheLineSize
    sharedMemory := r.reserved }

/-- The variables that every run has. -/
def common (b : Binder) (r : BindRequest) (compiler cacheLine : Bytes) : Environment where
  inherited := b.spec.inherited
  vars :=
    [(Variable.header, Text.encode b.spec.paths.header),
      (Variable.kernelName, Text.encode r.kernel.name),
      (Variable.preload, Text.encode b.spec.paths.preload),
      (Variable.compilerOptions, compiler),
      (Variable.cacheLineOptions, cacheLine),
      (Variable.computeUnits, Text.encode (Number.decimal b.profile.computeUnits)),
      (Variable.activeThreads, Text.encode (Number.decimal b.profile.maxThreads)),
      (Variable.groups, Text.encode (Number.decimal b.profile.maxGroups)),
      (Variable.registers, Text.encode (Number.decimal b.profile.maxRegisters)),
      (Variable.sharedMemory, Text.encode (Number.decimal b.profile.maxSharedMemory)),
      (Variable.visibleDevices, Text.encode b.device),
      (Variable.cacheDisable, Text.encode "1")]
  distinct := by
    simp only [List.map_cons, List.map_nil]
    decide

/-- Adds the variable of the phase: the report to write or the reservation to make. -/
def enterPhase (b : Binder) (r : BindRequest) (env : Environment) :
    Except BindError Environment :=
  match r.phase with
  | .plain => .ok env
  | .measure =>
    if r.reportPath = "" then .error (.noReportPath r.kernel.name)
    else .ok (env.set Variable.occupancySetup (Text.encode r.reportPath))
  | .reduce =>
    match b.occupancy.render (b.data r) with
    | .ok options => .ok (env.set Variable.occupancyReduction options)
    | .error e => .error (.option e)
  | .other code => .error (.unknownPhase r.kernel.name (.other code))

def withThreadLevel (b : Binder) (env : Environment) : Environment :=
  if b.spec.threadLevel then env.set Variable.threadLevel (Text.encode "true") else env

def withMaxFactor (b : Binder) (env : Environment) : Environment :=
  if b.spec.maxFactor = "" then env
  else env.set Variable.maxFactor (Text.encode b.spec.maxFactor)

/-- The environment of one run. -/
def bind (b : Binder) (r : BindRequest) : Except BindError Environment := do
  let compiler ← (b.compiler.render (b.data r)).mapError .option
  let cacheLine ← (b.cacheLine.render (b.data r)).mapError .option
  let env ← b.enterPhase r (b.common r compiler cacheLine)
  return b.withMaxFactor (b.withThreadLevel env)

end Binder

end KernelSweep
