import KernelSweep.Number.Binary64
import KernelSweep.Number.Integer
import KernelSweep.Number.Shortest

set_option autoImplicit false

namespace KernelSweep.Number

/-- What stands before an underscore: nothing, a digit or base prefix, an underscore, or
something else. -/
inductive Before where
  | start
  | digit
  | underscore
  | other
  deriving DecidableEq

def underscoresOkFrom (hex : Bool) : Before → List Char → Bool
  | before, [] => before != .underscore
  | before, c :: rest =>
    if (digit? (if hex then 16 else 10) c).isSome then underscoresOkFrom hex .digit rest
    else if c = '_' then before == .digit && underscoresOkFrom hex .underscore rest
    else before != .underscore && underscoresOkFrom hex .other rest

/-- Every underscore stands between two digits, the base prefix counting as one. -/
def underscoresOk (cs : List Char) : Bool :=
  match cs with
  | '0' :: c :: rest =>
    if c.toLower = 'x' then underscoresOkFrom true .digit rest
    else if c.toLower = 'b' ∨ c.toLower = 'o' then underscoresOkFrom false .digit rest
    else underscoresOkFrom false .start cs
  | _ => underscoresOkFrom false .start cs

/-- Digits before and after the point, as one number and the count of those after it. -/
structure Significand where
  digits : Nat := 0
  count : Nat := 0
  afterPoint : Nat := 0
  sawPoint : Bool := false

/-- Takes digits, underscores and one point off the front. -/
def readSignificand (base : Nat) : Significand → List Char → Significand × List Char
  | s, [] => (s, [])
  | s, c :: rest =>
    if c = '_' then readSignificand base s rest
    else if c = '.' then
      if s.sawPoint then (s, c :: rest) else readSignificand base { s with sawPoint := true } rest
    else
      match digit? base c with
      | some d =>
        readSignificand base
          { s with
            digits := s.digits * base + d
            count := s.count + 1
            afterPoint := s.afterPoint + (if s.sawPoint then 1 else 0) } rest
      | none => (s, c :: rest)

/-- Digits of an exponent; beyond five of them its size no longer matters. -/
def readExponentDigits : Nat → List Char → Nat × List Char
  | acc, [] => (acc, [])
  | acc, c :: rest =>
    if c = '_' then readExponentDigits acc rest
    else
      match digit? 10 c with
      | some d => readExponentDigits (if acc < 10000 then acc * 10 + d else acc) rest
      | none => (acc, c :: rest)

/-- An exponent that must begin with a digit after its sign. -/
def readExponent (cs : List Char) : Option (Int × List Char) :=
  let (negative, rest) := splitSign cs
  match rest with
  | c :: _ =>
    if (digit? 10 c).isSome then
      let (n, tail) := readExponentDigits 0 rest
      some (signed negative n, tail)
    else none
  | [] => none

/-- The exponent introduced by `mark`, when it is there. -/
def readMarkedExponent (mark : Char) : List Char → Option (Option Int × List Char)
  | [] => some (none, [])
  | c :: rest =>
    if c.toLower = mark then (readExponent rest).map fun (e, tail) => (some e, tail)
    else some (none, c :: rest)

/-- Decimal exponents outside this range give zero or infinity whatever the digits are. -/
def decimalRange : Int := 800

def ofDecimalText (negative : Bool) (s : Significand) (exponent : Int) : Binary64 :=
  let e := exponent - s.afterPoint
  let size := e + digitCount s.digits
  if s.digits = 0 then Binary64.zero negative
  else if size < -decimalRange then Binary64.zero negative
  else if decimalRange < size then Binary64.infinity negative
  else Decimal.toBinary64 negative ⟨s.digits, e⟩

/-- Binary exponents outside this range give zero or infinity whatever the digits are. -/
def binaryRange : Int := 2400

def ofHexText (negative : Bool) (s : Significand) (exponent : Int) : Binary64 :=
  let e := exponent - 4 * s.afterPoint
  let size := e + s.digits.log2
  if s.digits = 0 then Binary64.zero negative
  else if size < -binaryRange then Binary64.zero negative
  else if binaryRange < size then Binary64.infinity negative
  else
    let (n, d) := Binary64.scale s.digits 1 e
    Binary64.ofRatio negative n d

/-- The number a text stands for, infinite when it is out of range; `none` for any other text. -/
def readNumeral (negative : Bool) (cs : List Char) : Option Binary64 :=
  if !underscoresOk cs then none
  else
    match cs with
    | '0' :: x :: c :: rest =>
      if x.toLower = 'x' then
        let (s, tail) := readSignificand 16 {} (c :: rest)
        match s.count, readMarkedExponent 'p' tail with
        | 0, _ => none
        | _, some (some e, []) => some (ofHexText negative s e)
        | _, _ => none
      else readDecimal cs
    | _ => readDecimal cs
where
  readDecimal (cs : List Char) : Option Binary64 :=
    let (s, tail) := readSignificand 10 {} cs
    match s.count, readMarkedExponent 'e' tail with
    | 0, _ => none
    | _, some (e, []) => some (ofDecimalText negative s (e.getD 0))
    | _, _ => none

/-- Words for the special values; only infinity takes a sign. -/
def readSpecial (cs : List Char) : Option Binary64 :=
  let word := String.ofList (cs.map Char.toLower)
  if word = "inf" ∨ word = "+inf" ∨ word = "infinity" ∨ word = "+infinity" then
    some (Binary64.infinity false)
  else if word = "-inf" ∨ word = "-infinity" then some (Binary64.infinity true)
  else if word = "nan" then some Binary64.nan
  else none

/-- A special value, or a numeral whose value is in range. -/
def readFloat (cs : List Char) : Option Binary64 :=
  match readSpecial cs with
  | some x => some x
  | none =>
    let (negative, rest) := splitSign cs
    (readNumeral negative rest).bind fun x => if x.isFinite then some x else none

end KernelSweep.Number
