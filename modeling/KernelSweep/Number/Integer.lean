set_option autoImplicit false

namespace KernelSweep.Number

/-- The value of a digit in bases up to sixteen, either case. -/
def digit? (base : Nat) (c : Char) : Option Nat :=
  let value :=
    if '0' ≤ c ∧ c ≤ '9' then c.toNat - '0'.toNat
    else if 'a' ≤ c ∧ c ≤ 'f' then c.toNat - 'a'.toNat + 10
    else if 'A' ≤ c ∧ c ≤ 'F' then c.toNat - 'A'.toNat + 10
    else base
  if value < base then some value else none

/-- Continues the number `acc` with more digits; `none` at the first character that is none. -/
def readDigits (base : Nat) : Nat → List Char → Option Nat
  | acc, [] => some acc
  | acc, c :: rest =>
    match digit? base c with
    | some d => readDigits base (acc * base + d) rest
    | none => none

/-- A non-empty run of digits. -/
def readNat (base : Nat) : List Char → Option Nat
  | [] => none
  | cs => readDigits base 0 cs

/-- Splits off a sign, `true` for minus. -/
def splitSign : List Char → Bool × List Char
  | '+' :: rest => (false, rest)
  | '-' :: rest => (true, rest)
  | cs => (false, cs)

def signed (negative : Bool) (n : Nat) : Int := if negative then -(n : Int) else n

/-- Two to the 63rd: words lie below it and not below its negative. -/
def wordLimit : Int := 9223372036854775808

/-- The word with this value, when there is one. -/
def toInt64? (n : Int) : Option Int64 :=
  if Int64.minValue.toInt ≤ n ∧ n ≤ Int64.maxValue.toInt then some (Int64.ofInt n) else none

/-- An optional sign and decimal digits, within the range of a word. -/
def readInt64 (cs : List Char) : Option Int64 :=
  let (negative, digits) := splitSign cs
  (readNat 10 digits).bind fun n => toInt64? (signed negative n)

def decimal (n : Int64) : String := toString n.toInt

/-- Rounds the quotient toward minus infinity; a zero divisor is the caller's error. -/
def floorDiv (a b : Int64) : Int64 :=
  let q := a / b
  if a % b ≠ 0 ∧ (decide (a < 0) ≠ decide (b < 0)) then q - 1 else q

end KernelSweep.Number
