import KernelSweep.Number.Literal
import KernelSweep.Number.Shortest
import KernelSweep.Text.Blank
import KernelSweep.Text.Utf8

set_option autoImplicit false

namespace KernelSweep.Shell

def isOctal (c : Char) : Bool := '0' ≤ c && c ≤ '7'

/-- The byte of up to `limit` octal digits, and what follows them. -/
def octalByte (limit : Nat) (cs : List Char) : UInt8 × List Char :=
  let digits := (cs.take limit).takeWhile isOctal
  (UInt8.ofNat ((Number.readDigits 8 0 digits).getD 0), cs.drop digits.length)

/-- The byte a letter behind a backslash stands for. -/
def escapeByte? : Char → Option UInt8
  | 'a' => some 7
  | 'b' => some 8
  | 'f' => some 12
  | 'n' => some 10
  | 'r' => some 13
  | 't' => some 9
  | 'v' => some 11
  | '\\' => some 92
  | _ => none

def charBytes (c : Char) : List UInt8 := Text.encode (String.ofList [c])

/-- A text with its escapes written out, and whether a stop was among them. Octal numbers start
with a zero if `leadingZero`. The first argument bounds the number of steps. -/
def unescape (leadingZero : Bool) : Nat → List Char → List UInt8 × Bool
  | 0, _ | _, [] => ([], false)
  | fuel + 1, '\\' :: c :: rest =>
    let more (bytes : List UInt8) (rest : List Char) :=
      let (others, stop) := unescape leadingZero fuel rest
      (bytes ++ others, stop)
    if c = 'c' ∧ leadingZero then ([], true)
    else
      match escapeByte? c with
      | some b => more [b] rest
      | none =>
        if c = '0' ∧ leadingZero then
          let (b, rest) := octalByte 3 rest
          more [b] rest
        else if isOctal c then
          let (b, rest) := octalByte 3 (c :: rest)
          more [b] rest
        else if c = '"' ∧ !leadingZero then more [34] rest
        else more (92 :: charBytes c) rest
  | fuel + 1, c :: rest =>
    let (others, stop) := unescape leadingZero fuel rest
    (charBytes c ++ others, stop)

def unescaped (leadingZero : Bool) (s : String) : List UInt8 × Bool :=
  unescape leadingZero (s.length + 1) s.toList

/-- One conversion of a format. -/
structure Conversion where
  left : Bool
  zeros : Bool
  plus : Bool
  width : Nat
  precision : Option Nat
  letter : Char
  deriving DecidableEq, Repr

inductive FormatPart where
  | bytes (b : List UInt8)
  | conversion (c : Conversion)
  /-- The format ends inside a conversion. -/
  | unfinished
  deriving DecidableEq, Repr

/-- The conversion behind a percent sign. -/
def conversion? (cs : List Char) : Option (Conversion × List Char) :=
  let isFlag (c : Char) := "-+ 0#".toList.contains c
  let flags := cs.takeWhile isFlag
  let rest := cs.dropWhile isFlag
  let width := (Number.readDigits 10 0 (rest.takeWhile Char.isDigit)).getD 0
  let rest := rest.dropWhile Char.isDigit
  let (precision, rest) := match rest with
    | '.' :: after =>
      (Number.readDigits 10 0 (after.takeWhile Char.isDigit), after.dropWhile Char.isDigit)
    | _ => (none, rest)
  match rest with
  | [] => none
  | letter :: after =>
    some (⟨flags.contains '-', flags.contains '0', flags.contains '+', width, precision, letter⟩,
      after)

/-- The parts of a format. The first argument bounds their number. -/
def formatParts : Nat → List Char → List FormatPart
  | 0, _ | _, [] => []
  | fuel + 1, '%' :: '%' :: rest => .bytes [37] :: formatParts fuel rest
  | fuel + 1, '%' :: rest =>
    match conversion? rest with
    | some (c, after) => .conversion c :: formatParts fuel after
    | none => [.unfinished]
  | fuel + 1, c :: rest =>
    let plain := (c :: rest).takeWhile (· != '%')
    .bytes (unescaped false (String.ofList plain)).1 ::
      formatParts fuel ((c :: rest).dropWhile (· != '%'))

/-- Fills bytes up to the width of a conversion. -/
def padded (c : Conversion) (bytes : List UInt8) : List UInt8 :=
  let missing := c.width - bytes.length
  if c.left then bytes ++ List.replicate missing 32 else List.replicate missing 32 ++ bytes

/-- The number an argument stands for, and what is wrong with it. A quote in front asks for a
character's code; of a text that only starts as a number the start counts. -/
def argumentNumber (arg : String) : Int × Option String :=
  match arg.toList with
  | [] => (0, none)
  | '\'' :: c :: _ | '"' :: c :: _ => (c.toNat, none)
  | cs =>
    let cs := cs.dropWhile Text.isBlank
    let starts := (List.range (cs.length + 1)).reverse.filterMap fun n =>
      Number.readLiteral (cs.take n)
    match Number.readLiteral cs, starts with
    | some n, _ =>
      if n < -9223372036854775808 then (-9223372036854775808, some "Numerical result out of range")
      else if 9223372036854775807 < n then
        (9223372036854775807, some "Numerical result out of range")
      else (n, none)
    | none, n :: _ => (n, some "not completely converted")
    | none, [] => (0, some "expected numeric value")

/-- Digits with a least number of them, a sign, and zeros up to the width. -/
def numberBytes (c : Conversion) (negative : Bool) (digits : String) : List UInt8 :=
  let digits := Number.padLeft (c.precision.getD 1) digits
  let sign := if negative then "-" else if c.plus then "+" else ""
  let digits :=
    if c.zeros && !c.left && c.precision.isNone then
      Number.padLeft (c.width - sign.length) digits
    else digits
  padded c (Text.encode (sign ++ digits))

/-- An argument as a conversion writes it, and what is wrong with it. -/
def convert (c : Conversion) (arg : String) : List UInt8 × Option String :=
  let (n, problem) := argumentNumber arg
  let problem := problem.map fun text => arg ++ ": " ++ text
  let unsigned (base : Nat) := String.ofList (Nat.toDigits base (Int64.ofInt n).toUInt64.toNat)
  match c.letter with
  | 's' => (padded c (let bytes := Text.encode arg
      match c.precision with
      | some p => bytes.take p
      | none => bytes), none)
  | 'b' => (padded c (unescaped true arg).1, none)
  | 'c' => (padded c ((Text.encode arg).take 1), none)
  | 'd' | 'i' => (numberBytes c (decide (n < 0)) (toString n.natAbs), problem)
  | 'u' => (numberBytes c false (unsigned 10), problem)
  | 'o' => (numberBytes c false (unsigned 8), problem)
  | 'x' => (numberBytes c false (unsigned 16), problem)
  | 'X' => (numberBytes c false (unsigned 16).toUpper, problem)
  | _ => ([], none)

/-- The conversions there are. -/
def isConversion (letter : Char) : Bool := "sbcdiuoxX".toList.contains letter

/-- What formatted printing gives: the bytes, the problems in order, and what made it give up. -/
structure Printed where
  bytes : List UInt8 := []
  problems : List String := []
  fault : Option String := none
  deriving DecidableEq, Repr

/-- Adds what is printed next, unless printing has given up. -/
def Printed.append (p q : Printed) : Printed :=
  if p.fault.isSome then p else ⟨p.bytes ++ q.bytes, p.problems ++ q.problems, q.fault⟩

/-- Goes through a format once, taking arguments as it needs them; missing ones are empty. -/
def formatOnce : List FormatPart → List String → Printed × List String
  | [], args => ({}, args)
  | .bytes b :: rest, args =>
    let (more, args) := formatOnce rest args
    (Printed.append { bytes := b } more, args)
  | .unfinished :: _, args => ({ fault := some "missing format character" }, args)
  | .conversion c :: rest, args =>
    if isConversion c.letter then
      let (bytes, problem) := convert c (args.head?.getD "")
      let (more, left) := formatOnce rest args.tail
      (Printed.append { bytes, problems := problem.toList } more, left)
    else ({ fault := some ("%" ++ String.ofList [c.letter] ++ ": invalid directive") }, args)

def hasConversion (parts : List FormatPart) : Bool :=
  parts.any fun
    | .conversion _ => true
    | .bytes _ | .unfinished => false

/-- Goes through a format again while arguments are left. The first argument bounds how often. -/
def formatAll : Nat → List FormatPart → List String → Printed
  | 0, _, _ => {}
  | fuel + 1, parts, args =>
    let (printed, left) := formatOnce parts args
    if left.isEmpty || !hasConversion parts then printed
    else printed.append (formatAll fuel parts left)

/-- A format with its arguments. -/
def formatted (format : String) (args : List String) : Printed :=
  formatAll (args.length + 1) (formatParts (format.length + 1) format.toList) args

end KernelSweep.Shell
