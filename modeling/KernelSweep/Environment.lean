import KernelSweep.Text.Utf8

set_option autoImplicit false

namespace KernelSweep

open Text (Bytes)

namespace Variable

def header : String := "OCL_HEADER"
def kernelName : String := "TC_KERNEL_NAME"
def preload : String := "LD_PRELOAD"
def compilerOptions : String := "OCL_COMPILER_OPTIONS"
def cacheLineOptions : String := "CLR_OPTIONS"
def occupancyReduction : String := "OCCUPANCY_REDUCTION"
def occupancySetup : String := "OCCUPANCY_REDUCTION_SETUP"
def threadLevel : String := "THREAD_LEVEL_COARSENING"
def maxFactor : String := "MAX_COARSENING_FACTOR"
def computeUnits : String := "ARCH_COMPUTE_UNITS"
def activeThreads : String := "ARCH_ACTIVE_THREADS_PER_CU"
def groups : String := "ARCH_GROUPS_PER_CU"
def registers : String := "ARCH_REGS_PER_CU"
def sharedMemory : String := "ARCH_SMEM_PER_CU"
def visibleDevices : String := "CUDA_VISIBLE_DEVICES"
def cacheDisable : String := "CUDA_CACHE_DISABLE"

/-- Every name a binder may bind. What the parent process holds under one of them never reaches a
run. -/
def managed : List String :=
  [header, kernelName, preload, compilerOptions, cacheLineOptions, occupancyReduction,
    occupancySetup, threadLevel, maxFactor, computeUnits, activeThreads, groups, registers,
    sharedMemory, visibleDevices, cacheDisable]

end Variable

/-- The variables of one run. -/
structure Environment where
  /-- Entries of the parent process, byte for byte. -/
  inherited : List Bytes
  vars : List (String × Bytes)
  distinct : (vars.map Prod.fst).Nodup

namespace Environment

/-- Puts a value under a name, in the place of one that is there already. -/
def assign (name : String) (value : Bytes) : List (String × Bytes) → List (String × Bytes)
  | [] => [(name, value)]
  | (other, old) :: rest =>
    if other = name then (name, value) :: rest else (other, old) :: assign name value rest

theorem mem_map_fst_assign {name other : String} {value : Bytes} {vars : List (String × Bytes)} :
    other ∈ (assign name value vars).map Prod.fst ↔ other = name ∨ other ∈ vars.map Prod.fst := by
  induction vars with
  | nil => simp [assign]
  | cons var rest ih =>
    rw [assign]
    split
    next same => simp [same]
    next => rw [List.map_cons, List.mem_cons, ih, List.map_cons, List.mem_cons]; grind

theorem nodup_assign {vars : List (String × Bytes)} (distinct : (vars.map Prod.fst).Nodup)
    (name : String) (value : Bytes) : ((assign name value vars).map Prod.fst).Nodup := by
  induction vars with
  | nil => simp [assign]
  | cons var rest ih =>
    rw [List.map_cons, List.nodup_cons] at distinct
    rw [assign]
    split
    next same => simpa [same] using distinct
    next other =>
      rw [List.map_cons, List.nodup_cons, mem_map_fst_assign, not_or]
      exact ⟨⟨other, distinct.1⟩, ih distinct.2⟩

def lookup (e : Environment) (name : String) : Option Bytes := e.vars.lookup name

/-- One more variable, or another value of it. -/
def set (e : Environment) (name : String) (value : Bytes) : Environment :=
  ⟨e.inherited, assign name value e.vars, nodup_assign e.distinct name value⟩

/-- The names of the bound variables in ascending order. -/
def keys (e : Environment) : List String :=
  (e.vars.map Prod.fst).mergeSort fun name other => decide (name ≤ other)

/-- The bytes before the first equals sign. -/
def entryKey (entry : Bytes) : Bytes := entry.takeWhile (· != '='.toUInt8)

def isManaged (key : Bytes) : Bool := Variable.managed.any fun name => Text.encode name == key

/-- The entry a bound variable is handed on as. -/
def assignment (name : String) (value : Bytes) : Bytes :=
  Text.encode name ++ '='.toUInt8 :: value

/-- Inherited entries under other names, as they are, then the bound variables. -/
def entries (e : Environment) : List Bytes :=
  e.inherited.filter (fun entry => !isManaged (entryKey entry)) ++
    e.keys.map fun name => assignment name ((e.lookup name).getD [])

end Environment

end KernelSweep
