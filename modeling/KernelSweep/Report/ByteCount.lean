import KernelSweep.Number.Binary64

set_option autoImplicit false

namespace KernelSweep.ByteCount

open KernelSweep.Number

/-- A unit is this many times the one before. -/
def base : UInt64 := 1024

/-- The divisor and the number of the unit. -/
structure Scale where
  divisor : UInt64
  unit : Nat
  deriving DecidableEq, Repr

theorem div_base_lt {n : UInt64} (large : base ≤ n) : (n / base).toNat < n.toNat := by
  have positive : base.toNat ≤ n.toNat := UInt64.le_iff_toNat_le.mp large
  have size : base.toNat = 1024 := rfl
  rw [UInt64.toNat_div, size]
  omega

/-- Moves on by one unit while the quotient is not below the base. -/
def scaleFrom (s : Scale) (quotient : UInt64) : Scale :=
  if _large : base ≤ quotient then
    scaleFrom ⟨s.divisor * base, s.unit + 1⟩ (quotient / base)
  else s
termination_by quotient.toNat
decreasing_by exact div_base_lt _large

/-- The unit for a count that is not below the base. -/
def scale (n : UInt64) : Scale := scaleFrom ⟨base, 0⟩ (n / base)

def units : List String := ["K", "M", "G", "T", "P", "E"]

/-- One decimal place, a half going to the even digit. -/
def oneDecimal (x : Binary64) : String :=
  let tenths := Binary64.roundHalfEven (x.ratio.1 * 10) x.ratio.2
  toString (tenths / 10) ++ "." ++ toString (tenths % 10)

def text (n : UInt64) : String :=
  if n < base then toString n.toNat ++ " B"
  else
    let s := scale n
    let quotient := (Binary64.ofInt n.toNat).div (.ofInt s.divisor.toNat)
    oneDecimal quotient ++ " " ++ units[s.unit]?.getD "" ++ "iB"

end KernelSweep.ByteCount
