import KernelSweep.Number.FloatReading
import KernelSweep.Number.Integer

set_option autoImplicit false

namespace KernelSweep.Number

/-- The base of an unsigned literal and its digits. -/
def literalBase : List Char → Nat × List Char
  | '0' :: mark :: digit :: rest =>
    match mark with
    | 'x' | 'X' => (16, digit :: rest)
    | 'o' | 'O' => (8, digit :: rest)
    | 'b' | 'B' => (2, digit :: rest)
    | _ => (8, mark :: digit :: rest)
  | '0' :: rest => (8, rest)
  | cs => (10, cs)

/-- A signed literal of any size. -/
def readLiteral (cs : List Char) : Option Int :=
  let (negative, unsigned) := splitSign cs
  if unsigned.isEmpty || !underscoresOk unsigned then none
  else
    let (base, digits) := literalBase unsigned
    (readDigits base 0 (digits.filter (· != '_'))).map (signed negative)

end KernelSweep.Number
