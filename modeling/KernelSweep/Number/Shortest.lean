import KernelSweep.Number.Binary64

set_option autoImplicit false

namespace KernelSweep.Number

/-- The decimal number `digits` times ten to the `exponent`. -/
structure Decimal where
  digits : Nat
  exponent : Int
  deriving DecidableEq, Repr

namespace Decimal

def ratio (d : Decimal) : Nat × Nat :=
  if 0 ≤ d.exponent then (d.digits * Nat.pow 10 d.exponent.toNat, 1)
  else (d.digits, Nat.pow 10 (-d.exponent).toNat)

def toBinary64 (negative : Bool) (d : Decimal) : Binary64 :=
  Binary64.ofRatio negative d.ratio.1 d.ratio.2

/-- Removes zeros at the end, at most `fuel` of them. -/
def strip : Nat → Decimal → Decimal
  | 0, d => d
  | fuel + 1, d =>
    if d.digits ≠ 0 ∧ d.digits % 10 = 0 then strip fuel ⟨d.digits / 10, d.exponent + 1⟩ else d

end Decimal

/-- Number of decimal digits of a natural; zero has one. -/
def digitCount (n : Nat) : Nat := (Nat.toDigits 10 n).length

/-- The power of ten just above `num / den`: the quotient lies in `[10 ^ (k - 1), 10 ^ k)`. -/
def decimalPoint (num den : Nat) : Int :=
  let guess : Int := (digitCount num : Int) - digitCount den
  let below (k : Int) : Bool :=
    if 0 ≤ k then num < den * Nat.pow 10 k.toNat else num * Nat.pow 10 (-k).toNat < den
  if below guess then guess else guess + 1

/-- The two decimals of `places` digits around the quotient, the nearer first. -/
def neighbours (num den : Nat) (point : Int) (places : Nat) : List Decimal :=
  let exponent := point - places
  let (n, d) :=
    if 0 ≤ exponent then (num, den * Nat.pow 10 exponent.toNat)
    else (num * Nat.pow 10 (-exponent).toNat, den)
  let low := n / d
  let r := n % d
  if 2 * r < d ∨ (2 * r = d ∧ low % 2 = 0) then [⟨low, exponent⟩, ⟨low + 1, exponent⟩]
  else [⟨low + 1, exponent⟩, ⟨low, exponent⟩]

/-- Every binary number is a decimal: the quotient by a power of two with powers of five moved
above the line. -/
def exactDecimal (x : Binary64) : Decimal :=
  if 0 ≤ x.exponent then ⟨x.mantissa * Nat.pow 2 x.exponent.toNat, 0⟩
  else ⟨x.mantissa * Nat.pow 5 (-x.exponent).toNat, x.exponent⟩

/-- The shortest decimal that reads back as the absolute value of a finite, non-zero number. -/
def shortest (x : Binary64) : Decimal :=
  let (num, den) := x.ratio
  let point := decimalPoint num den
  let found := (List.range 17).findSome? fun k =>
    (neighbours num den point (k + 1)).find? fun d => d.toBinary64 x.isNegative == x
  (found.getD (exactDecimal x)).strip 800

/-- When a power of ten is written, and with how many digits at least. -/
structure ExponentFormat where
  lowest : Int
  highest : Int
  places : Nat

/-- Exponents from -4 to 5 are positional; any other has a sign and at least two digits. -/
def ExponentFormat.report : ExponentFormat := ⟨-4, 5, 2⟩

def padLeft (places : Nat) (s : String) : String :=
  String.ofList (List.replicate (places - s.length) '0') ++ s

/-- Digits with the decimal point after the first `point` of them. -/
def positional (digits : List Char) (point : Int) : String :=
  if point ≤ 0 then
    "0." ++ String.ofList (List.replicate (-point).toNat '0' ++ digits)
  else if digits.length ≤ point.toNat then
    String.ofList (digits ++ List.replicate (point.toNat - digits.length) '0')
  else
    String.ofList (digits.take point.toNat) ++ "." ++ String.ofList (digits.drop point.toNat)

def scientific (places : Nat) (digits : List Char) (exponent : Int) : String :=
  let head := String.ofList (digits.take 1)
  let tail := digits.drop 1
  let point := if tail.isEmpty then "" else "." ++ String.ofList tail
  let sign := if exponent < 0 then "-" else "+"
  head ++ point ++ "e" ++ sign ++ padLeft places (toString exponent.natAbs)

def Decimal.text (format : ExponentFormat) (d : Decimal) : String :=
  let digits := Nat.toDigits 10 d.digits
  let point : Int := d.exponent + digits.length
  if format.lowest ≤ point - 1 ∧ point - 1 ≤ format.highest then positional digits point
  else scientific format.places digits (point - 1)

/-- The text of a number in reports, messages and logs. -/
def Binary64.text (x : Binary64) : String :=
  let sign := if x.isNegative then "-" else ""
  if x.isNaN then "NaN"
  else if x.isInfinite then (if x.isNegative then "-Inf" else "+Inf")
  else if x.isZero then sign ++ "0"
  else sign ++ (shortest x).text ExponentFormat.report

end KernelSweep.Number
