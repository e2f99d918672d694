import KernelSweep.Text.Utf8

set_option autoImplicit false

namespace KernelSweep.Yaml

/-- The character of a piece that is one. -/
def strictChar : Text.Piece → Option Char
  | .char c => some c
  | .stray _ => none

/-- Units of two bytes, the high one first if `big`. -/
def wideUnits (big : Bool) : Text.Bytes → Option (List Nat)
  | [] => some []
  | [_] => none
  | a :: b :: rest => do
    let (high, low) := if big then (a, b) else (b, a)
    return (high.toNat * 256 + low.toNat) :: (← wideUnits big rest)

/-- Two surrogates make one character. -/
def wideChars : List Nat → Option (List Char)
  | [] => some []
  | n :: rest =>
    if 0xdc00 ≤ n ∧ n ≤ 0xdfff then none
    else if 0xd800 ≤ n ∧ n ≤ 0xdbff then
      match rest with
      | low :: rest =>
        if 0xdc00 ≤ low ∧ low ≤ 0xdfff then do
          let c := Char.ofNat (0x10000 + (n - 0xd800) * 0x400 + (low - 0xdc00))
          return c :: (← wideChars rest)
        else none
      | [] => none
    else do return Char.ofNat n :: (← wideChars rest)

/-- The text of a file. A mark at the start tells of another encoding than the usual one.
Nothing is replaced. -/
def readText : Text.Bytes → Option String
  | 0xff :: 0xfe :: rest => wide false rest
  | 0xfe :: 0xff :: rest => wide true rest
  | content => do return String.ofList (← (Text.decode content).mapM strictChar)
where
  wide (big : Bool) (rest : Text.Bytes) : Option String := do
    let cs ← wideChars (← wideUnits big rest)
    return String.ofList ('\ufeff' :: cs)

end KernelSweep.Yaml
