import KernelSweep.Number.Integer

set_option autoImplicit false

namespace KernelSweep

structure Duration where
  nanoseconds : Int64
  deriving DecidableEq, Repr

namespace Duration

def zero : Duration := ⟨0⟩

def nanosecondsPerSecond : Int64 := 1000000000

/-- The product wraps like any other of words. -/
def ofSeconds (seconds : Int64) : Duration := ⟨seconds * nanosecondsPerSecond⟩

/-- The number nearest to a value among those a word can hold. -/
def clamp (n : Int) : Int64 :=
  if n < Int64.minValue.toInt then Int64.minValue
  else if Int64.maxValue.toInt < n then Int64.maxValue
  else Int64.ofInt n

/-- Whole milliseconds, a half going away from zero. -/
def roundToMilliseconds (d : Duration) : Duration :=
  let n := d.nanoseconds.toInt
  ⟨clamp (Number.signed (decide (n < 0)) ((n.natAbs + 500000) / 1000000 * 1000000))⟩

/-- Whole milliseconds toward zero. -/
def milliseconds (d : Duration) : Int64 := d.nanoseconds / 1000000

/-- Whole seconds, a fraction rounding up; the addition wraps. -/
def wholeSeconds (d : Duration) : Int64 := (d.nanoseconds + 999999999) / nanosecondsPerSecond

/-- The point and the digits of `rest` parts out of ten to the `places`, without zeros at the end;
nothing when `rest` is zero. -/
def fractionText (places rest : Nat) : String :=
  let digits := Nat.toDigits 10 rest
  let all := List.replicate (places - digits.length) '0' ++ digits
  let kept := (all.reverse.dropWhile (· == '0')).reverse
  if kept.isEmpty then "" else "." ++ String.ofList kept

/-- A number of units of ten to the `places` parts each, and the name of the unit. -/
def unitText (places n : Nat) (unit : String) : String :=
  toString (n / Nat.pow 10 places) ++ fractionText places (n % Nat.pow 10 places) ++ unit

/-- Seconds, after minutes and hours as soon as there is one of them. -/
def clockText (n : Nat) : String :=
  let minutes := n / 1000000000 / 60
  let seconds := unitText 9 (n % 60000000000) "s"
  if minutes = 0 then seconds
  else if minutes < 60 then toString minutes ++ "m" ++ seconds
  else toString (minutes / 60) ++ "h" ++ toString (minutes % 60) ++ "m" ++ seconds

def magnitudeText (n : Nat) : String :=
  if n = 0 then "0s"
  else if n < 1000 then unitText 0 n "ns"
  else if n < 1000000 then unitText 3 n "µs"
  else if n < 1000000000 then unitText 6 n "ms"
  else clockText n

def text (d : Duration) : String :=
  (if d.nanoseconds < 0 then "-" else "") ++ magnitudeText d.nanoseconds.toInt.natAbs

end Duration

end KernelSweep
