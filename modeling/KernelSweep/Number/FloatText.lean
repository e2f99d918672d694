import KernelSweep.Number.Shortest

set_option autoImplicit false

namespace KernelSweep.Number

/-- The forms a number can be written in. -/
inductive FloatForm where
  | exponent
  | positional
  /-- Positional for moderate sizes. -/
  | general
  | hexadecimal
  | binary
  deriving DecidableEq, Repr

/-- Significant digits without zeros at the end, and the place of the point counted from the
first of them. Zero has no digits. -/
structure DigitRun where
  digits : List Char
  point : Int
  deriving DecidableEq, Repr

namespace DigitRun

def empty : DigitRun := ⟨[], 0⟩

def dropZeros (cs : List Char) : List Char := (cs.reverse.dropWhile (· == '0')).reverse

/-- The digits of `n`, the last of which has the weight ten to the `exponent`. -/
def ofNat (n : Nat) (exponent : Int) : DigitRun :=
  if n = 0 then empty
  else
    let ds := Nat.toDigits 10 n
    ⟨dropZeros ds, exponent + ds.length⟩

def ofShortest (x : Binary64) : DigitRun :=
  if x.isZero then empty
  else
    let d := shortest x
    ofNat d.digits d.exponent

/-- Rounds to a multiple of ten to the `exponent`. -/
def roundAt (x : Binary64) (exponent : Int) : DigitRun :=
  let (num, den) := x.ratio
  let (n, d) :=
    if 0 ≤ exponent then (num, den * Nat.pow 10 exponent.toNat)
    else (num * Nat.pow 10 (-exponent).toNat, den)
  ofNat (Binary64.roundHalfEven n d) exponent

/-- Rounds to a count of significant digits. -/
def roundTo (x : Binary64) (count : Nat) : DigitRun :=
  if x.isZero then empty
  else
    let (num, den) := x.ratio
    roundAt x (decimalPoint num den - count)

def get (r : DigitRun) (i : Int) : Char :=
  if i < 0 then '0' else (r.digits[i.toNat]?).getD '0'

/-- The digits at some places, zeros where there are none. -/
def slice (r : DigitRun) (start : Int) (count : Nat) : List Char :=
  (List.range count).map fun (i : Nat) => r.get (start + (i : Int))

/-- So many places behind the point. -/
def positional (r : DigitRun) (places : Nat) : List Char :=
  let whole := if 0 < r.point then r.slice 0 r.point.toNat else ['0']
  whole ++ if places = 0 then [] else '.' :: r.slice r.point places

/-- One digit before the point, so many behind it, and a power of ten of at least two digits. -/
def scientific (mark : Char) (r : DigitRun) (places : Nat) : List Char :=
  let power : Int := if r.digits.isEmpty then 0 else r.point - 1
  r.slice 0 1 ++ (if places = 0 then [] else '.' :: r.slice 1 places) ++
    mark :: (if power < 0 then '-' else '+') :: (padLeft 2 (toString power.natAbs)).toList

end DigitRun

def upperIf (upper : Bool) (c : Char) : Char := if upper then c.toUpper else c

/-- Exponents at which a number of the fewest digits gets a power of ten. -/
def generalLimit : Int := 6

def generalText (upper : Bool) (x : Binary64) (places : Option Nat) : List Char :=
  let r := match places with
    | none => DigitRun.ofShortest x
    | some p => DigitRun.roundTo x (max p 1)
  let count : Nat := r.digits.length
  let wanted : Nat := match places with
    | none => count
    | some p => max p 1
  let limit : Int :=
    if places.isNone then generalLimit
    else if count < wanted ∧ r.point ≤ (count : Int) then (count : Int)
    else (wanted : Int)
  let power := r.point - 1
  if power < -4 ∨ limit ≤ power then
    r.scientific (upperIf upper 'e') (min wanted count - 1)
  else r.positional (max ((count : Int) - r.point) 0).toNat

/-- The mantissa shifted so that its leading bit has the weight two to the 60th, with the power of
two that belongs to it. -/
def normalized (x : Binary64) : Nat × Int :=
  if x.mantissa = 0 then (0, 0)
  else
    let shift := 60 - x.mantissa.log2
    (x.mantissa * Nat.pow 2 shift, x.exponent + 60 - shift)

/-- Rounds a mantissa of 60 bits behind the point to so many hexadecimal places. -/
def roundHex (mantissa : Nat) (exponent : Int) (places : Nat) : Nat × Int :=
  if 15 ≤ places then (mantissa, exponent)
  else
    let unit := Nat.pow 2 (60 - 4 * places)
    let rounded := Binary64.roundHalfEven mantissa unit * unit
    if Nat.pow 2 61 ≤ rounded then (rounded / 2, exponent + 1) else (rounded, exponent)

def hexText (upper : Bool) (x : Binary64) (places : Option Nat) : List Char :=
  let (m, e) := normalized x
  let (m, e) := match places with
    | none => (m, e)
    | some p => roundHex m e p
  let one := Nat.pow 2 60
  let digits := (padLeft 15 (String.ofList (Nat.toDigits 16 (m % one)))).toList
  let shown := match places with
    | none => DigitRun.dropZeros digits
    | some p => digits.take p ++ List.replicate (p - 15) '0'
  let text := ['0', 'x', if one ≤ m then '1' else '0'] ++
    (if shown.isEmpty then [] else '.' :: shown) ++
    'p' :: (if e < 0 then '-' else '+') :: (padLeft 2 (toString e.natAbs)).toList
  text.map (upperIf upper)

def binaryText (x : Binary64) : List Char :=
  (toString x.mantissa).toList ++
    'p' :: (if x.exponent < 0 then '-' else '+') :: (toString x.exponent.natAbs).toList

/-- The absolute value of a finite number. -/
def magnitudeText (form : FloatForm) (upper : Bool) (x : Binary64) (places : Option Nat) :
    List Char :=
  match form with
  | .exponent =>
    let mark := upperIf upper 'e'
    match places with
    | none =>
      let r := DigitRun.ofShortest x
      r.scientific mark (r.digits.length - 1)
    | some p => (DigitRun.roundTo x (p + 1)).scientific mark p
  | .positional =>
    match places with
    | none =>
      let r := DigitRun.ofShortest x
      r.positional (max (r.digits.length - r.point) 0).toNat
    | some p => (DigitRun.roundAt x (-(p : Int))).positional p
  | .general => generalText upper x places
  | .hexadecimal => hexText upper x places
  | .binary => binaryText x

end KernelSweep.Number
