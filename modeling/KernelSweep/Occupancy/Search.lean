import KernelSweep.Occupancy.Record
import KernelSweep.Profile

set_option autoImplicit false

namespace KernelSweep.Occupancy

open KernelSweep.Number

/-- The only fault of the arithmetic. -/
inductive Fault where
  | divisionByZero
  deriving DecidableEq, Repr

def Fault.message : Fault → String
  | .divisionByZero => "runtime error: integer divide by zero"

/-- The label of a run without a report. -/
def unmeasuredLabel : String := "0/0@0"

def label (blocks resident threads : Int64) : String :=
  decimal blocks ++ "/" ++ decimal resident ++ "@" ++ decimal threads

structure Step where
  /-- Blocks left on a unit. -/
  blocks : Int64
  /-- Blocks on a unit when nothing is reserved. -/
  resident : Int64
  threads : Int64
  /-- Shared memory reserved for each block, in bytes. -/
  reserved : Int64
  deriving DecidableEq, Repr

def Step.label (s : Step) : String := Occupancy.label s.blocks s.resident s.threads

/-- The largest word not above a number; what no word can hold becomes the smallest word. -/
def floorWord (x : Binary64) : Int64 :=
  if x.isFinite then (toInt64? x.floorInt).getD Int64.minValue else Int64.minValue

/-- Blocks resident on a unit at the measured occupancy, never below one. -/
def residentBlocks (r : Record) (p : Profile) : Int64 :=
  if r.threads ≤ 0 then 1
  else
    let blocks := floorWord
      ((r.occupancy.mul (.ofInt p.maxThreads.toInt)).div (.ofInt r.threads.toInt))
    if blocks < 1 then 1 else blocks

/-- The block count the search stays above. It drops to zero when the split of the shared memory
already allows as many blocks as were measured. -/
def lowerBound (p : Profile) (resident : Int64) : Except Fault Int64 :=
  if p.maxBlockMemory = 0 then .error .divisionByZero
  else
    let bound := p.maxSharedMemory / p.maxBlockMemory - 1
    .ok (if resident ≤ bound then 0 else bound)

/-- The smallest reservation that keeps `slots` blocks from fitting on a unit. -/
def reservationFor (p : Profile) (existing slots : Int64) : Int64 :=
  floorDiv (p.maxSharedMemory - slots * existing) slots + 1

/-- The smallest reservation that leaves room for no more than `blocks` blocks. -/
def reservation (p : Profile) (existing blocks : Int64) : Except Fault Int64 :=
  if blocks + 1 = 0 then .error .divisionByZero else .ok (reservationFor p existing (blocks + 1))

def measuredLabel (r : Record) (p : Profile) : String :=
  label (residentBlocks r p) (residentBlocks r p) r.threads

def stepAt (r : Record) (p : Profile) (blocks : Int64) : Step :=
  ⟨blocks, residentBlocks r p, r.threads, reservationFor p r.sharedMemory (blocks + 1)⟩

/-- `count` words downward from `top`. -/
def descending (top : Int64) (count : Nat) : List Int64 :=
  (List.range count).map fun i => top - Int64.ofNat i

/-- One step for each block count below the resident one and above the lower bound, largest first.
A bound below minus one would take the search past the step that leaves no slot at all. -/
def plan (r : Record) (p : Profile) : Except Fault (List Step) := do
  let resident := residentBlocks r p
  let bound ← lowerBound p resident
  if bound < -1 then throw .divisionByZero
  let count := (resident.toInt - 1 - bound.toInt).toNat
  return (descending (resident - 1) count).map (stepAt r p)

end KernelSweep.Occupancy
