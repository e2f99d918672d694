import KernelSweep.Binder
import KernelSweep.Duration
import KernelSweep.Occupancy.Store
import KernelSweep.Registry

set_option autoImplicit false

namespace KernelSweep

/-- One test binary and the kernel entries it is run for. -/
structure Suite where
  path : String := ""
  kernels : List String := []
  deriving DecidableEq, Repr

structure ConfigPaths where
  header : String := ""
  library : String := ""
  preload : String := ""
  optimization : String := ""
  /-- The directory above the test binaries. -/
  binaries : String := ""
  /-- Where occupancy reports are left. -/
  reports : String := ""
  deriving DecidableEq, Repr

structure Config where
  suites : List Suite
  arch : String
  /-- Profiles beside the built-in ones. -/
  architectures : List (String × Profile)
  device : String
  paths : ConfigPaths
  templates : OptionTexts
  directions : List String
  factors : List String
  strides : List String
  /-- The factors of a sweep in which the model chooses. -/
  modelFactors : List String
  maxCoarseningFactor : Int64
  warpSize : Int64
  cacheLineSize : Int64
  timeoutSeconds : Int64
  threadLevel : Bool
  occupancyReduction : Bool
  deriving DecidableEq, Repr

namespace Config

def polybench (name : String) : String := "polybench/OpenCL/" ++ name ++ "/" ++ name

/-- The suites of the reference laboratory. -/
def defaultSuites : List Suite :=
  [⟨"memset/memset", ["memset2D"]⟩,
    ⟨"memcpy/memcpy", ["rmrrmw", "cmrcmw"]⟩,
    ⟨"mm/mm", ["mm"]⟩,
    ⟨"mt/mt", ["mt"]⟩,
    ⟨"mv/mv", ["MatVecMulUncoalesced0", "MatVecMulUncoalesced1", "MatVecMulCoalesced0"]⟩,
    ⟨"divRegion/divRegion", ["divRegion"]⟩,
    ⟨polybench "2DCONV", ["Convolution2D_kernel"]⟩,
    ⟨polybench "2MM", ["mm2_kernel1"]⟩,
    ⟨polybench "3DCONV", ["Convolution3D_kernel"]⟩,
    ⟨polybench "3MM", ["mm3_kernel1"]⟩,
    ⟨polybench "ATAX", ["atax_kernel1", "atax_kernel2"]⟩,
    ⟨polybench "BICG", ["bicgKernel1"]⟩,
    ⟨polybench "CORR", ["mean_kernel", "std_kernel", "reduce_kernel"]⟩,
    ⟨polybench "COVAR", ["mean_kernel", "reduce_kernel", "covar_kernel"]⟩,
    ⟨polybench "FDTD-2D", ["fdtd_kernel1", "fdtd_kernel2", "fdtd_kernel3"]⟩,
    ⟨polybench "GEMM", ["gemm"]⟩,
    ⟨polybench "GESUMMV", ["gesummv_kernel"]⟩,
    ⟨polybench "GRAMSCHM", ["gramschmidt_kernel1", "gramschmidt_kernel2", "gramschmidt_kernel3"]⟩,
    ⟨polybench "MVT", ["mvt_kernel1"]⟩,
    ⟨polybench "SYR2K", ["syr2k_kernel"]⟩,
    ⟨polybench "SYRK", ["syrk_kernel"]⟩]

/-- The setup of the reference laboratory. -/
def standard : Config where
  suites := defaultSuites
  arch := Profile.pascal.name
  architectures := []
  device := ""
  paths :=
    { header := "/data/code/autocoarsening/thrud/include/opencl_spir.h"
      library := "/data/build/autocoarsening/thrud/lib/libThrud.so"
      preload :=
        "/data/build/autocoarsening/opencl_tools/function_overload/libaxtorwrapper.so"
      optimization := "-O3"
      binaries := "/data/build/autocoarsening/tests"
      reports := Occupancy.defaultDirectory }
  templates := {}
  directions := ["0"]
  factors := ["1", "2", "4", "8", "16", "32"]
  strides := ["32"]
  modelFactors := ["1"]
  maxCoarseningFactor := 32
  warpSize := 32
  cacheLineSize := 32
  timeoutSeconds := 3000
  threadLevel := false
  occupancyReduction := false

/-- The built-in profiles and those of the configuration. -/
def registry (c : Config) : Registry :=
  c.architectures.foldl (fun r (name, p) => r.add name p) .builtIn

def profile (c : Config) : Except UnknownProfile Profile := c.registry.lookup c.arch

/-- The time budget of one run. -/
def timeout (c : Config) : Duration := .ofSeconds c.timeoutSeconds

/-- The settings to sweep. -/
def grid (c : Config) (applyModel : Bool) : List Setting :=
  Setting.grid c.directions (if applyModel then c.modelFactors else c.factors) c.strides

/-- What to build the binder from; the parent's entries come from outside. -/
def binderSpec (c : Config) (applyModel : Bool) (inherited : List Text.Bytes) :
    Except UnknownProfile BinderSpec := do
  let profile ← c.profile
  return {
    paths := ⟨c.paths.header, c.paths.library, c.paths.preload, c.paths.optimization⟩
    templates := c.templates.orElse .defaults
    warpSize := c.warpSize
    cacheLineSize := c.cacheLineSize
    profile
    device := c.device
    threadLevel := c.threadLevel
    maxFactor := if applyModel then Number.decimal c.maxCoarseningFactor else ""
    inherited }

end Config

def Suite.parsed (s : Suite) : Except EntryError (List Kernel) := Kernel.parseAll s.path s.kernels

end KernelSweep
