import KernelSweep.Number.FloatReading
import KernelSweep.Number.Literal
import KernelSweep.Template.Value
import KernelSweep.Text.Quoted

set_option autoImplicit false

namespace KernelSweep.Template.Constant

open KernelSweep.Text (Bytes)
open KernelSweep.Number (Binary64)

/-- The character named by exactly `count` digits, and the rest. -/
def codeOf (base count limit : Nat) (cs : List Char) : Option (Nat × List Char) := do
  guard (count ≤ cs.length)
  let n ← Number.readNat base (cs.take count)
  guard (n ≤ limit)
  return (n, cs.drop count)

def isCodePoint (n : Nat) : Bool := n < 0xd800 || (0xe000 ≤ n && n ≤ 0x10ffff)

def charBytes (n : Nat) : Bytes := Text.encode (String.singleton (Char.ofNat n))

/-- The bytes of the escape after a backslash, and the rest. -/
def escape (quote : Char) : List Char → Option (Bytes × List Char)
  | [] => none
  | c :: rest =>
    let single (n : Nat) := some ([UInt8.ofNat n], rest)
    let coded (count : Nat) := do
      let (n, rest) ← codeOf 16 count 0x10ffff rest
      guard (isCodePoint n)
      return (charBytes n, rest)
    match c with
    | 'a' => single 0x07
    | 'b' => single 0x08
    | 'f' => single 0x0c
    | 'n' => single 0x0a
    | 'r' => single 0x0d
    | 't' => single 0x09
    | 'v' => single 0x0b
    | '\\' => single 0x5c
    | 'x' => (codeOf 16 2 255 rest).map fun (n, rest) => ([UInt8.ofNat n], rest)
    | 'u' => coded 4
    | 'U' => coded 8
    | _ =>
      if c = quote then single c.toNat
      else if '0' ≤ c ∧ c ≤ '7' then
        (codeOf 8 3 255 (c :: rest)).map fun (n, rest) => ([UInt8.ofNat n], rest)
      else none

/-- The bytes between the quotes. -/
def bytes (quote : Char) : Nat → List Char → Option Bytes
  | 0, _ => none
  | fuel + 1, cs =>
    match cs with
    | [] => some []
    | '\\' :: rest => do
      let (here, rest) ← escape quote rest
      let more ← bytes quote fuel rest
      return here ++ more
    | c :: rest => (bytes quote fuel rest).map (charBytes c.toNat ++ ·)

/-- The text of a constant given with its quotes. -/
def unquote (constant : String) : Option Bytes :=
  match constant.toList with
  | '"' :: rest => bytes '"' rest.length rest.dropLast
  | '\x60' :: rest => some (Text.encode (String.ofList (rest.dropLast.filter (· != '\r'))))
  | _ => none

/-- The first character between the quotes of a character constant, and what follows it there. -/
def firstCode : List Char → Option (Int × List Char)
  | [] | '\'' :: _ => none
  | '\\' :: rest => do
    let (here, rest) ← escape '\'' rest
    match Text.decode here with
    | [.char c] => return (c.toNat, rest)
    | [.stray b] => return (b.toNat, rest)
    | _ => none
  | c :: rest => some (c.toNat, rest)

inductive NumberError where
  | noCharacter
  | severalCharacters (text : String)
  | illegal (text : String)
  | overflow (text : String)
  | notComplex
  /-- One of the two parts of a complex number. -/
  | badPart (text : String) (isNumeral : Bool)
  deriving DecidableEq, Repr

def NumberError.message : NumberError → String
  | .noCharacter => "invalid syntax"
  | .severalCharacters text => "malformed character constant: " ++ text
  | .illegal text => "illegal number syntax: " ++ Text.quoted text
  | .overflow text => "integer overflow: " ++ Text.quoted text
  | .notComplex => "syntax error scanning complex number"
  | .badPart text isNumeral =>
    "strconv.ParseFloat: parsing " ++ Text.quoted text ++
      (if isNumeral then ": value out of range" else ": invalid syntax")

/-- The code point of a character constant given with its quotes. -/
def character (constant : String) : Except NumberError Value :=
  match firstCode (constant.toList.drop 1).dropLast with
  | none => .error .noCharacter
  | some (n, []) => .ok (.int (Int64.ofInt n))
  | some _ => .error (.severalCharacters constant)

/-- Marks that only numbers with a fraction or a power have. -/
def hasFloatMark (cs : List Char) : Bool := cs.any ".eEpP".toList.contains

/-- Hexadecimal from its first character on and without a power. -/
def isHexInteger : List Char → Bool
  | '0' :: x :: c :: rest => (x == 'x' || x == 'X') && !(c :: rest).any "pP".toList.contains
  | _ => false

/-- An integer that fits a word with or without a sign. Letters of its digits can look like the
mark of a power, and then it counts as a number with one. Without a value it is too large. -/
def integerValue (cs : List Char) (n : Int) : Option Value :=
  if hasFloatMark cs && !isHexInteger cs then some (.float (Binary64.ofInt n))
  else (Number.toInt64? n).map .int

/-- Whether an integer is within the range of words; only one without a sign may use the upper
half of the unsigned ones. -/
def isWord (cs : List Char) (n : Int) : Bool :=
  let hasSign := cs.head? == some '+' || cs.head? == some '-'
  decide (-Number.wordLimit ≤ n) &&
    (n < Number.wordLimit || (!hasSign && n < 2 * Number.wordLimit))

/-- The value of a number, none for an integer that is too large to be used. -/
def number (text : String) : Except NumberError (Option Value) :=
  let cs := text.toList
  let imaginary : Option Value :=
    if cs.getLast? == some 'i' then
      (Number.readFloat cs.dropLast).map fun f => .complex (Binary64.zero false) f
    else none
  match imaginary with
  | some v => .ok (some v)
  | none =>
    match (Number.readLiteral cs).filter (isWord cs) with
    | some n => .ok (integerValue cs n)
    | none =>
      match Number.readFloat cs with
      | none => .error (.illegal text)
      | some x => if hasFloatMark cs then .ok (some (.float x)) else .error (.overflow text)

/-- The longest piece that looks like a floating-point number, and the rest. -/
def cutFloat (cs : List Char) : List Char × List Char :=
  let accept (p : Char → Bool) (cs : List Char) := (cs.take 1).takeWhile p
  let sign := accept (fun c => c == '+' || c == '-') cs
  let cs := cs.drop sign.length
  let mark := match cs with
    | '0' :: x :: _ => if x == 'x' || x == 'X' then ['0', x] else []
    | _ => []
  let cs := cs.drop mark.length
  let digit (c : Char) : Bool :=
    c == '_' || (Number.digit? (if mark.isEmpty then 10 else 16) c).isSome
  let whole := cs.takeWhile digit
  let cs := cs.drop whole.length
  let point := accept (· == '.') cs
  let cs := cs.drop point.length
  let part := if point.isEmpty then [] else cs.takeWhile digit
  let cs := cs.drop part.length
  let power := accept (fun c => c == 'p' || c == 'P' || (mark.isEmpty && (c == 'e' || c == 'E'))) cs
  let cs := cs.drop power.length
  let powerSign := if power.isEmpty then [] else accept (fun c => c == '+' || c == '-') cs
  let cs := cs.drop powerSign.length
  let powerDigits := if power.isEmpty then [] else cs.takeWhile fun c => c.isDigit || c == '_'
  (sign ++ mark ++ whole ++ point ++ part ++ power ++ powerSign ++ powerDigits,
    cs.drop powerDigits.length)

def part (cs : List Char) : Except NumberError Binary64 :=
  match Number.readFloat cs with
  | some x => .ok x
  | none =>
    let (negative, digits) := Number.splitSign cs
    .error (.badPart (String.ofList cs) (Number.readNumeral negative digits).isSome)

/-- A real part and an imaginary part with a sign. -/
def complex (text : String) : Except NumberError Value := do
  let (re, rest) := cutFloat text.toList
  match rest with
  | s :: rest =>
    if s ≠ '+' ∧ s ≠ '-' then throw .notComplex
    let (im, rest) := cutFloat rest
    if rest.head? ≠ some 'i' ∨ im.isEmpty then throw .notComplex
    return .complex (← part re) (← part (s :: im))
  | [] => throw .notComplex

end KernelSweep.Template.Constant
