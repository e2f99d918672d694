set_option autoImplicit false

namespace KernelSweep.Number

structure Binary64 where
  bits : UInt64
  deriving DecidableEq, Repr

namespace Binary64

/-- Two to the 52nd: fractions are below it, and it is the leading bit of a normal number. -/
def fractionSize : Nat := 4503599627370496

/-- Two to the 63rd: the weight of the sign among the bits. -/
def signWeight : Nat := 9223372036854775808

def isNegative (x : Binary64) : Bool := x.bits.toNat / signWeight == 1
def exponentField (x : Binary64) : Nat := x.bits.toNat / fractionSize % 2048
def fraction (x : Binary64) : Nat := x.bits.toNat % fractionSize
def isFinite (x : Binary64) : Bool := x.exponentField != 2047
def isNaN (x : Binary64) : Bool := x.exponentField == 2047 && x.fraction != 0
def isInfinite (x : Binary64) : Bool := x.exponentField == 2047 && x.fraction == 0
def isZero (x : Binary64) : Bool := x.exponentField == 0 && x.fraction == 0

/-- The bits of a number from its sign and the bits of its absolute value. -/
def ofMagnitude (negative : Bool) (magnitude : Nat) : Binary64 :=
  ⟨UInt64.ofNat ((if negative then signWeight else 0) + magnitude)⟩

def infinityBits : Nat := 2047 * fractionSize
def infinity (negative : Bool) : Binary64 := ofMagnitude negative infinityBits
def zero (negative : Bool) : Binary64 := ofMagnitude negative 0
def nan : Binary64 := ⟨0x7ff8000000000001⟩

/-- A finite number is `mantissa` times two to the `exponent`, its sign aside. -/
def mantissa (x : Binary64) : Nat :=
  if x.exponentField = 0 then x.fraction else fractionSize + x.fraction

def exponent (x : Binary64) : Int :=
  if x.exponentField = 0 then -1074 else (x.exponentField : Int) - 1075

/-- Absolute value of a finite number as an exact quotient. -/
def ratio (x : Binary64) : Nat × Nat :=
  if 0 ≤ x.exponent then (x.mantissa * Nat.pow 2 x.exponent.toNat, 1)
  else (x.mantissa, Nat.pow 2 (-x.exponent).toNat)

/-- Multiplies the quotient `num / den` by two to the `shift`. -/
def scale (num den : Nat) (shift : Int) : Nat × Nat :=
  if 0 ≤ shift then (num * Nat.pow 2 shift.toNat, den)
  else (num, den * Nat.pow 2 (-shift).toNat)

/-- The nearest natural to a quotient, a tie going to the even one. -/
def roundHalfEven (num den : Nat) : Nat :=
  let q := num / den
  let r := num % den
  if den < 2 * r ∨ (2 * r = den ∧ q % 2 = 1) then q + 1 else q

/-- The exponent that leaves 53 bits of the quotient before the binary point, never below the
smallest one. -/
def exponentOf (num den : Nat) : Int :=
  let guess : Int := (num.log2 : Int) - den.log2
  let (n, d) := scale num den (-guess)
  max (if d ≤ n then guess - 52 else guess - 53) (-1074)

/-- Bits of the absolute value nearest to a quotient; past the largest number they are those of
infinity. -/
def magnitudeOf (num den : Nat) : Nat :=
  if num = 0 then 0
  else
    let e := exponentOf num den
    let (n, d) := scale num den (-e)
    min ((e + 1074).toNat * fractionSize + roundHalfEven n d) infinityBits

/-- The number nearest to plus or minus `num / den`. -/
def ofRatio (negative : Bool) (num den : Nat) : Binary64 :=
  ofMagnitude negative (magnitudeOf num den)

def ofInt (n : Int) : Binary64 := ofRatio (decide (n < 0)) n.natAbs 1

def mul (x y : Binary64) : Binary64 :=
  let negative := x.isNegative != y.isNegative
  if x.isNaN || y.isNaN then nan
  else if x.isInfinite || y.isInfinite then
    if x.isZero || y.isZero then nan else infinity negative
  else ofRatio negative (x.ratio.1 * y.ratio.1) (x.ratio.2 * y.ratio.2)

def div (x y : Binary64) : Binary64 :=
  let negative := x.isNegative != y.isNegative
  if x.isNaN || y.isNaN then nan
  else if x.isInfinite then if y.isInfinite then nan else infinity negative
  else if y.isInfinite then zero negative
  else if y.isZero then if x.isZero then nan else infinity negative
  else ofRatio negative (x.ratio.1 * y.ratio.2) (x.ratio.2 * y.ratio.1)

/-- The largest integer not above a finite number. -/
def floorInt (x : Binary64) : Int :=
  let (n, d) := x.ratio
  if x.isNegative then -(((n + d - 1) / d : Nat) : Int) else ((n / d : Nat) : Int)

/-- The integer part, toward zero, of a finite number. -/
def truncInt (x : Binary64) : Int :=
  let (n, d) := x.ratio
  if x.isNegative then -((n / d : Nat) : Int) else ((n / d : Nat) : Int)

/-- Below zero in the numeric order: neither zero is, nor is a NaN. -/
def isBelowZero (x : Binary64) : Bool := x.isNegative && !x.isZero && !x.isNaN

end Binary64

end KernelSweep.Number
