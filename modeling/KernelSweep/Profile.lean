import KernelSweep.Number.Integer
import KernelSweep.Text.Quoted

set_option autoImplicit false

namespace KernelSweep

structure Profile where
  name : String
  computeUnits : Int64
  /-- Threads resident on one unit. -/
  maxThreads : Int64
  /-- Block groups resident on one unit. -/
  maxGroups : Int64
  /-- Registers of one unit. -/
  maxRegisters : Int64
  /-- Shared memory of one unit, in bytes. -/
  maxSharedMemory : Int64
  /-- Shared memory one block may take, in bytes. -/
  maxBlockMemory : Int64
  deriving DecidableEq, Repr

inductive Limit where
  | computeUnits
  | threads
  | groups
  | registers
  | sharedMemory
  | blockMemory
  deriving DecidableEq, Repr

namespace Limit

/-- In the order they are checked. -/
def all : List Limit := [.computeUnits, .threads, .groups, .registers, .sharedMemory, .blockMemory]

def name : Limit → String
  | .computeUnits => "computeUnits"
  | .threads => "maxActiveThreadsPerCU"
  | .groups => "maxGroupsPerCU"
  | .registers => "maxRegsPerCU"
  | .sharedMemory => "maxSMemPerCU"
  | .blockMemory => "maxSMemPerBlock"

end Limit

structure LimitError where
  profile : String
  limit : Limit
  value : Int64
  deriving DecidableEq, Repr

def LimitError.message (e : LimitError) : String :=
  "profile " ++ Text.quoted e.profile ++ ": " ++ e.limit.name ++ " must be positive, got " ++
    Number.decimal e.value

namespace Profile

def limit (p : Profile) : Limit → Int64
  | .computeUnits => p.computeUnits
  | .threads => p.maxThreads
  | .groups => p.maxGroups
  | .registers => p.maxRegisters
  | .sharedMemory => p.maxSharedMemory
  | .blockMemory => p.maxBlockMemory

/-- The first limit that is not positive, if any. -/
def fault? (p : Profile) : Option LimitError :=
  (Limit.all.find? fun l => decide (p.limit l ≤ 0)).map fun l => ⟨p.name, l, p.limit l⟩

def IsValid (p : Profile) : Prop := ∀ l : Limit, 0 < p.limit l

def validate (p : Profile) : Except LimitError Unit :=
  match p.fault? with
  | some e => .error e
  | none => .ok ()

theorem limit_mem_all (l : Limit) : l ∈ Limit.all := by
  cases l <;> decide

theorem fault?_eq_none_iff (p : Profile) : p.fault? = none ↔ p.IsValid := by
  simp only [fault?, Option.map_eq_none_iff, List.find?_eq_none, decide_eq_true_eq, IsValid]
  constructor
  · intro h l
    exact Int64.not_le.mp (h l (limit_mem_all l))
  · intro h l _
    exact Int64.not_le.mpr (h l)

def kepler : Profile := ⟨"kepler", 15, 2048, 16, 65536, 49152, 49152⟩
def maxwell : Profile := ⟨"maxwell", 24, 2048, 32, 65536, 98304, 49152⟩
def pascal : Profile := ⟨"pascal", 20, 2048, 32, 65536, 98304, 49152⟩

/-- The device slot used when none is chosen: Kepler boards sit in the second one. -/
def defaultDevice (p : Profile) : String := if p.name = kepler.name then "1" else "0"

end Profile

end KernelSweep
