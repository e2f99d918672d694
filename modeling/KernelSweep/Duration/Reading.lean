import KernelSweep.Duration
import KernelSweep.Number.Binary64
import KernelSweep.Text.Quoted

set_option autoImplicit false

namespace KernelSweep.Duration

open KernelSweep.Number

inductive ReadCause where
  | invalid
  | missingUnit
  | unknownUnit (unit : String)
  deriving DecidableEq, Repr

structure ReadError where
  text : String
  cause : ReadCause
  deriving DecidableEq, Repr

def ReadError.message (e : ReadError) : String :=
  let text := Text.quotedAscii e.text
  match e.cause with
  | .invalid => "time: invalid duration " ++ text
  | .missingUnit => "time: missing unit in duration " ++ text
  | .unknownUnit unit =>
    "time: unknown unit " ++ Text.quotedAscii unit ++ " in duration " ++ text

/-- Nanoseconds in a unit. Both signs for micro are known. -/
def unit? : String → Option Nat
  | "ns" => some 1
  | "us" | "µs" | "μs" => some 1000
  | "ms" => some 1000000
  | "s" => some 1000000000
  | "m" => some 60000000000
  | "h" => some 3600000000000
  | _ => none

/-- No part and no sum may be above this. -/
def readLimit : Nat := 9223372036854775808

/-- The digits of a fraction as a number and how many there are; those that would leave the limit
behind do not count. -/
def fractionDigits : Nat → Nat → List Char → Nat × Nat
  | value, count, [] => (value, count)
  | value, count, c :: rest =>
    let next := value * 10 + (digit? 10 c).getD 0
    if (readLimit - 1) / 10 < value ∨ readLimit < next then (value, count)
    else fractionDigits next (count + 1) rest

/-- Nanoseconds of a fraction, in floating point and then cut off. -/
def fractionOf (digits : List Char) (unit : Nat) : Nat :=
  let (value, count) := fractionDigits 0 0 digits
  if value = 0 then 0
  else
    ((Binary64.ofInt value).mul
      ((Binary64.ofInt unit).div (Binary64.ofInt (Nat.pow 10 count)))).truncInt.toNat

/-- One number with its unit, in nanoseconds, and what follows. -/
def readPart (cs : List Char) : Except ReadCause (Nat × List Char) :=
  let whole := cs.takeWhile Char.isDigit
  let rest := cs.dropWhile Char.isDigit
  let (fraction, rest) := match rest with
    | '.' :: after => (after.takeWhile Char.isDigit, after.dropWhile Char.isDigit)
    | _ => ([], rest)
  let inUnit (c : Char) := !(c == '.' || c.isDigit)
  let name := String.ofList (rest.takeWhile inUnit)
  let value := (readDigits 10 0 whole).getD 0
  if readLimit < value then .error .invalid
  else if whole.isEmpty && fraction.isEmpty then .error .invalid
  else if name = "" then .error .missingUnit
  else
    match unit? name with
    | none => .error (.unknownUnit name)
    | some unit =>
      let total := value * unit + fractionOf fraction unit
      if readLimit < value * unit ∨ readLimit < total then .error .invalid
      else .ok (total, rest.dropWhile inUnit)

/-- The sum of the parts. The first argument bounds their number. -/
def readParts : Nat → Nat → List Char → Except ReadCause Nat
  | _, sum, [] => .ok sum
  | 0, _, _ => .error .invalid
  | fuel + 1, sum, cs => do
    let (n, rest) ← readPart cs
    if readLimit < sum + n then throw .invalid
    readParts fuel (sum + n) rest

def readMagnitude (cs : List Char) : Except ReadCause Nat :=
  if cs = ['0'] then .ok 0
  else if cs.isEmpty then .error .invalid
  else readParts (cs.length + 1) 0 cs

def parse (text : String) : Except ReadError Duration :=
  let (negative, rest) := splitSign text.toList
  match readMagnitude rest with
  | .error cause => .error ⟨text, cause⟩
  | .ok n =>
    match toInt64? (signed negative n) with
    | some word => .ok ⟨word⟩
    | none => .error ⟨text, .invalid⟩

end KernelSweep.Duration
