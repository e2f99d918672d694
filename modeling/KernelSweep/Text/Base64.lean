import KernelSweep.Text.Utf8

set_option autoImplicit false

namespace KernelSweep.Text.Base64

def letter? (c : Char) : Option Nat :=
  if c.isUpper then some (c.toNat - 'A'.toNat)
  else if c.isLower then some (c.toNat - 'a'.toNat + 26)
  else if c.isDigit then some (c.toNat - '0'.toNat + 52)
  else if c = '+' then some 62
  else if c = '/' then some 63
  else none

def byte (n : Nat) : UInt8 := UInt8.ofNat n

/-- Groups of four letters; only the last may be padded. -/
def groups : List Char → Option (List UInt8)
  | [] => some []
  | [a, b, '=', '='] => do
    let n := (← letter? a) * 64 + (← letter? b)
    return [byte (n / 16)]
  | [a, b, c, '='] => do
    let n := ((← letter? a) * 64 + (← letter? b)) * 64 + (← letter? c)
    return [byte (n / 1024), byte (n / 4 % 256)]
  | a :: b :: c :: d :: rest => do
    let n := (((← letter? a) * 64 + (← letter? b)) * 64 + (← letter? c)) * 64 + (← letter? d)
    return byte (n / 65536) :: byte (n / 256 % 256) :: byte (n % 256) :: (← groups rest)
  | _ => none

def decode (s : String) : Option (List UInt8) :=
  groups (s.toList.filter fun c => c != '\n' && c != '\r')

end KernelSweep.Text.Base64
