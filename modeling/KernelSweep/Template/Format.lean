import KernelSweep.Number.FloatText
import KernelSweep.Template.Value
import KernelSweep.Text.Quoted

set_option autoImplicit false

namespace KernelSweep.Template

open KernelSweep.Text (Bytes Piece)
open KernelSweep.Number (Binary64 FloatForm)

/-- Flags, width and precision of a verb. -/
structure Flags where
  minus : Bool := false
  zero : Bool := false
  plus : Bool := false
  space : Bool := false
  sharp : Bool := false
  /-- Records show the names of their fields. -/
  named : Bool := false
  /-- Values are written as constants of a program. -/
  source : Bool := false
  width : Option Nat := none
  precision : Option Nat := none
  deriving DecidableEq, Repr

namespace Flags

/-- Zeros stand only on the left. -/
def filler (f : Flags) (count : Nat) : Bytes :=
  List.replicate count (if f.zero && !f.minus then 0x30 else 0x20)

/-- Fills up to the width, which counts characters. -/
def pad (f : Flags) (s : Bytes) : Bytes :=
  let missing := f.width.getD 0 - Text.charCount s
  if f.minus then s ++ f.filler missing else f.filler missing ++ s

def padText (f : Flags) (s : String) : Bytes := f.pad (Text.encode s)

/-- Fills up with blanks whatever the flags. -/
def padBlank (f : Flags) (s : String) : Bytes := { f with zero := false }.padText s

/-- The first characters, as many as the precision allows. -/
def cut (f : Flags) (s : Bytes) : Bytes :=
  match f.precision with
  | some n => ((Text.decode s).take n).flatMap Piece.bytes
  | none => s

def text (f : Flags) (s : Bytes) : Bytes := f.pad (f.cut s)

def sign (f : Flags) (negative : Bool) : String :=
  if negative then "-" else if f.plus then "+" else if f.space then " " else ""

/-- Least number of digits: the precision, or what zeros have to fill. -/
def leastDigits (f : Flags) (negative : Bool) : Nat :=
  match f.precision with
  | some p => p
  | none =>
    if f.zero && !f.minus then f.width.getD 0 - (f.sign negative).length else 0

/-- The mark of a base before the digits. -/
def baseMark (f : Flags) (base : Nat) (upper : Bool) (digits : String) : String :=
  if !f.sharp then ""
  else if base = 2 then "0b"
  else if base = 8 then if digits.startsWith "0" then "" else "0"
  else if base = 16 then if upper then "0X" else "0x"
  else ""

/-- An integer. A zero without any digits to show is blank. -/
def integer (f : Flags) (base : Nat) (upper octalMark negative : Bool) (magnitude : Nat) : Bytes :=
  if f.precision = some 0 ∧ magnitude = 0 then List.replicate (f.width.getD 0) 0x20
  else
    let shown := (Nat.toDigits base magnitude).map (Number.upperIf upper)
    let digits := Number.padLeft (f.leastDigits negative) (String.ofList shown)
    let marked := (if octalMark then "0o" else "") ++ f.baseMark base upper digits ++ digits
    f.padBlank (f.sign negative ++ marked)

/-- The replacement character stands for what is no code point. -/
def codePoint (n : Nat) : Char :=
  if n < 0xd800 || (0xe000 ≤ n && n ≤ 0x10ffff) then Char.ofNat n else '\ufffd'

def quotePlain (f : Flags) : Char → Bool := if f.plus then Text.isPlainAscii else Text.isPrintable

def character (f : Flags) (n : Nat) : Bytes := f.padText (String.singleton (codePoint n))

def quotedCharacter (f : Flags) (n : Nat) : Bytes :=
  f.padText (Text.quotedCharUnless f.quotePlain (codePoint n))

/-- A code point by its number, and with the sharp flag also by itself. -/
def numberedCharacter (f : Flags) (n : Nat) : Bytes :=
  let digits := Number.padLeft (max 4 (f.precision.getD 0))
    (String.ofList ((Nat.toDigits 16 n).map Char.toUpper))
  let shown :=
    if f.sharp && n == (codePoint n).toNat && Text.isPrintable (codePoint n) then
      " '" ++ String.singleton (codePoint n) ++ "'"
    else ""
  f.padBlank ("U+" ++ digits ++ shown)

def quoted (f : Flags) (s : Bytes) : Bytes :=
  let s := f.cut s
  if f.sharp && Text.fitsBackQuotes s then f.pad (0x60 :: s ++ [0x60])
  else f.padText (Text.quotedUnless f.quotePlain s)

/-- Two digits for each byte, apart with the space flag. -/
def hexBytes (f : Flags) (upper : Bool) (s : Bytes) : Bytes :=
  let s := match f.precision with
    | some n => s.take n
    | none => s
  let mark := if f.sharp then (if upper then "0X" else "0x") else ""
  let two (b : UInt8) : String :=
    String.ofList ((Text.hex 2 b.toNat).toList.map (Number.upperIf upper))
  if s.isEmpty then f.filler (f.width.getD 0)
  else if f.space then f.padText (String.intercalate " " (s.map fun b => mark ++ two b))
  else f.padText (mark ++ String.join (s.map two))

/-- Digits of a number with the sharp flag: a point always, and in general form also zeros up to
so many digits. -/
def withPoint (form : FloatForm) (upper : Bool) (precision : Option Nat) (digits : List Char) :
    List Char :=
  let isTail (c : Char) : Bool :=
    c == 'p' || c == 'P' || (form != .hexadecimal && (c == 'e' || c == 'E'))
  let head := digits.takeWhile (!isTail ·)
  let tail := digits.dropWhile (!isTail ·)
  let wanted :=
    if form = .general ∨ (form = .hexadecimal ∧ !upper) then precision.getD 6 else 0
  let significant :=
    ((head.filter (· != '.')).dropWhile (· == '0')).length + (if head = ['0'] then 1 else 0)
  let pointed := if head.contains '.' then head else head ++ ['.']
  pointed ++ List.replicate (wanted - significant) '0' ++ tail

/-- A number with `places` as the default precision. Zeros stand between the sign and the
digits. -/
def float (f : Flags) (form : FloatForm) (upper : Bool) (places : Option Nat) (x : Binary64) :
    Bytes :=
  let precision := f.precision.orElse fun _ => places
  if x.isNaN then f.padBlank ((if f.plus then "+" else if f.space then " " else "") ++ "NaN")
  else if x.isInfinite then
    let sign := if x.isNegative then "-" else if f.space && !f.plus then " " else "+"
    f.padBlank (sign ++ "Inf")
  else
    let plain := Number.magnitudeText form upper x precision
    let digits := String.ofList
      (if f.sharp && form != .binary then withPoint form upper precision plain else plain)
    let sign := f.sign x.isNegative
    if f.zero && !f.minus then
      Text.encode sign ++ f.filler (f.width.getD 0 - (sign ++ digits).length) ++ Text.encode digits
    else f.padText (sign ++ digits)

/-- The form, the case and the default precision a letter stands for. -/
def floatForm? : Char → Option (FloatForm × Bool × Option Nat)
  | 'v' | 'g' => some (.general, false, none)
  | 'G' => some (.general, true, none)
  | 'b' => some (.binary, false, none)
  | 'x' => some (.hexadecimal, false, none)
  | 'X' => some (.hexadecimal, true, none)
  | 'e' => some (.exponent, false, some 6)
  | 'E' => some (.exponent, true, some 6)
  | 'f' | 'F' => some (.positional, false, some 6)
  | _ => none

def floatBy? (f : Flags) (letter : Char) (x : Binary64) : Option Bytes :=
  (floatForm? letter).map fun (form, upper, places) => f.float form upper places x

/-- Real and imaginary part in parentheses, the latter always with a sign. -/
def complexBy? (f : Flags) (letter : Char) (re im : Binary64) : Option Bytes := do
  let a ← f.floatBy? letter re
  let b ← { f with plus := true }.floatBy? letter im
  return Text.encode "(" ++ a ++ b ++ Text.encode "i)"

def textBy? (f : Flags) (letter : Char) (s : Bytes) : Option Bytes :=
  match letter with
  | 'v' => some (if f.source then f.quoted s else f.text s)
  | 's' => some (f.text s)
  | 'x' => some (f.hexBytes false s)
  | 'X' => some (f.hexBytes true s)
  | 'q' => some (f.quoted s)
  | _ => none

/-- `bits` is the integer read without a sign. -/
def integerBy? (f : Flags) (letter : Char) (negative : Bool) (magnitude bits : Nat) :
    Option Bytes :=
  match letter with
  | 'v' | 'd' => some (f.integer 10 false false negative magnitude)
  | 'b' => some (f.integer 2 false false negative magnitude)
  | 'o' => some (f.integer 8 false false negative magnitude)
  | 'O' => some (f.integer 8 false true negative magnitude)
  | 'x' => some (f.integer 16 false false negative magnitude)
  | 'X' => some (f.integer 16 true false negative magnitude)
  | 'c' => some (f.character bits)
  | 'q' => some (f.quotedCharacter bits)
  | 'U' => some (f.numberedCharacter bits)
  | _ => none

/-- One value through a letter, `none` when they do not fit each other. A record has no letters of
its own. -/
def scalarBy? (f : Flags) (letter : Char) : Value → Option Bytes
  | .absent => if letter = 'v' then some (f.padText "<nil>") else none
  | .text s => f.textBy? letter s
  | .int n => f.integerBy? letter (decide (n < 0)) n.toInt.natAbs n.toUInt64.toNat
  | .byte b =>
    if letter = 'v' ∧ f.source then
      some ({ f with sharp := true }.integer 16 false false false b.toNat)
    else f.integerBy? letter false b.toNat b.toNat
  | .bool b =>
    if letter = 't' ∨ letter = 'v' then some (f.padText (if b then "true" else "false")) else none
  | .float x => f.floatBy? letter x
  | .complex re im => f.complexBy? letter re im
  | .record .. => none

/-- Fields in braces, with names where the flags ask for them. -/
def braces (f : Flags) (type : String) (fields : List (String × Bytes)) : Bytes :=
  let one (field : String × Bytes) : Bytes :=
    (if f.named || f.source then Text.encode (field.1 ++ ":") else []) ++ field.2
  let between := Text.encode (if f.source then ", " else " ")
  Text.encode ((if f.source then type else "") ++ "\x7b") ++
    between.intercalate (fields.map one) ++ Text.encode "\x7d"

mutual

/-- The text of a value that every value has. -/
def plain (f : Flags) : Value → Bytes
  | .record type fields => f.braces type (plainFields f fields)
  | .absent => (f.scalarBy? 'v' .absent).getD []
  | .text s => (f.scalarBy? 'v' (.text s)).getD []
  | .int n => (f.scalarBy? 'v' (.int n)).getD []
  | .byte b => (f.scalarBy? 'v' (.byte b)).getD []
  | .bool b => (f.scalarBy? 'v' (.bool b)).getD []
  | .float x => (f.scalarBy? 'v' (.float x)).getD []
  | .complex re im => (f.scalarBy? 'v' (.complex re im)).getD []

def plainFields (f : Flags) : List (String × Value) → List (String × Bytes)
  | [] => []
  | (name, v) :: rest => (name, plain f v) :: plainFields f rest

end

/-- A value with its type. -/
def typed (f : Flags) (v : Value) : Bytes :=
  match v with
  | .absent => Text.encode "<nil>"
  | v => Text.encode (v.typeName ++ "=") ++ f.plain v

/-- A letter that does not fit. -/
def misfit (f : Flags) (letter : Char) (v : Value) : Bytes :=
  Text.encode ("%!" ++ String.singleton letter ++ "(") ++ f.typed v ++ Text.encode ")"

mutual

def byLetter (f : Flags) (letter : Char) : Value → Bytes
  | .record type fields =>
    if letter = 'w' ∨ letter = 'p' then f.misfit letter (.record type fields)
    else f.braces type (fieldsByLetter f letter fields)
  | .absent => (f.scalarBy? letter .absent).getD (f.misfit letter .absent)
  | .text s => (f.scalarBy? letter (.text s)).getD (f.misfit letter (.text s))
  | .int n => (f.scalarBy? letter (.int n)).getD (f.misfit letter (.int n))
  | .byte b => (f.scalarBy? letter (.byte b)).getD (f.misfit letter (.byte b))
  | .bool b => (f.scalarBy? letter (.bool b)).getD (f.misfit letter (.bool b))
  | .float x => (f.scalarBy? letter (.float x)).getD (f.misfit letter (.float x))
  | .complex re im =>
    (f.scalarBy? letter (.complex re im)).getD (f.misfit letter (.complex re im))

def fieldsByLetter (f : Flags) (letter : Char) : List (String × Value) → List (String × Bytes)
  | [] => []
  | (name, v) :: rest => (name, byLetter f letter v) :: fieldsByLetter f letter rest

end

/-- In front of some letters the sharp and plus flags have a meaning of their own. -/
def forLetter (f : Flags) (letter : Char) : Flags :=
  if letter = 'v' ∨ letter = 'w' then
    { f with source := f.sharp, sharp := false, named := f.plus, plus := false }
  else f

/-- One value through a verb. -/
def apply (f : Flags) (letter : Char) (v : Value) : Bytes :=
  let f := f.forLetter letter
  if letter = 'T' then
    match v with
    | .absent => f.padText "<nil>"
    | v => f.text (Text.encode v.typeName)
  else f.byLetter letter v

end Flags

namespace Value

/-- The plain text of a value. -/
def shown (v : Value) : Bytes := Flags.plain {} v

/-- Values side by side, with a space between two neighbours neither of which is a text. -/
def printed : List Value → Bytes
  | [] => []
  | [v] => v.shown
  | v :: w :: rest =>
    v.shown ++ (if v.isText || w.isText then [] else [0x20]) ++ printed (w :: rest)

/-- Values with a space between any two, and a line feed. -/
def printedLine (vs : List Value) : Bytes := [0x20].intercalate (vs.map shown) ++ [0x0a]

/-- The width or precision a value stands for. -/
def size? : Value → Option Int
  | .int n => some n.toInt
  | .byte b => some b.toNat
  | _ => none

end Value

namespace Format

/-- Where the reading of a format stands. -/
structure Cursor where
  rest : List Piece
  /-- The place of the next argument. -/
  next : Nat := 0
  /-- An argument was asked for by its place. -/
  reordered : Bool := false
  /-- Every place asked for in this verb has an argument. -/
  good : Bool := true
  flags : Flags := {}
  written : Bytes := []

/-- Larger widths are no widths. -/
def sizeLimit : Nat := 1000000

/-- Digits at the front. A number that grows too large takes the whole rest with it. -/
def number (found : Option Nat) : List Piece → Option Nat × List Piece
  | .char c :: rest =>
    if c.isDigit then
      if sizeLimit < found.getD 0 then (none, [])
      else number (some (found.getD 0 * 10 + (c.toNat - '0'.toNat))) rest
    else (found, .char c :: rest)
  | rest => (found, rest)

/-- A place in brackets, which counts from one; `none` when it is no number. The second part is
what follows the brackets, or the opening one when nothing closes it. -/
def bracket (inside : List Piece) : Option Nat × List Piece :=
  let isClose (p : Piece) : Bool := p == .char ']'
  let content := inside.takeWhile (!isClose ·)
  match inside.dropWhile (!isClose ·) with
  | [] => (none, inside)
  | _ :: rest =>
    if (inside.flatMap Piece.bytes).length < 2 then (none, inside)
    else
      match number none content with
      | (some n, []) => (some n, rest)
      | _ => (none, rest)

/-- Takes a place for the next argument, if there is one. The flag tells whether it is one. -/
def place (count : Nat) (c : Cursor) : Cursor × Bool :=
  match c.rest with
  | .char '[' :: inside =>
    match bracket inside with
    | (some n, rest) =>
      if 1 ≤ n ∧ n ≤ count then ({ c with rest, next := n - 1, reordered := true }, true)
      else ({ c with rest, good := false, reordered := true }, true)
    | (none, rest) => ({ c with rest, good := false, reordered := true }, false)
  | _ => (c, false)

/-- The size the next argument gives. -/
def sizeArgument (args : List Value) (c : Cursor) : Option Int × Cursor :=
  match args[c.next]? with
  | none => (none, c)
  | some v => (v.size?.filter fun n => decide (n.natAbs ≤ sizeLimit), { c with next := c.next + 1 })

def setFlag (f : Flags) : Char → Option Flags
  | '#' => some { f with sharp := true }
  | '0' => some { f with zero := true }
  | '+' => some { f with plus := true }
  | '-' => some { f with minus := true }
  | ' ' => some { f with space := true }
  | _ => none

def takeFlags (f : Flags) : List Piece → Flags × List Piece
  | .char c :: rest =>
    match setFlag f c with
    | some f => takeFlags f rest
    | none => (f, .char c :: rest)
  | rest => (f, rest)

/-- The width, from an argument or in digits. The flags tell whether a place stood before it and
stands right behind. -/
def takeWidth (args : List Value) (placed : Bool) (c : Cursor) : Cursor × Bool :=
  match c.rest with
  | .char '*' :: rest =>
    match sizeArgument args { c with rest } with
    | (some n, c) =>
      let flags := { c.flags with width := some n.natAbs, minus := c.flags.minus || decide (n < 0) }
      ({ c with flags }, false)
    | (none, c) => ({ c with written := c.written ++ Text.encode "%!(BADWIDTH)" }, false)
  | _ =>
    let (width, rest) := number none c.rest
    let c := { c with rest, flags := { c.flags with width } }
    (if placed && width.isSome then { c with good := false } else c, placed)

/-- The precision behind a point. -/
def takePrecision (args : List Value) (placed : Bool) (c : Cursor) : Cursor × Bool :=
  match c.rest with
  | .char '.' :: rest =>
    let c := { c with rest, good := c.good && !placed }
    let (c, placed) := place args.length c
    match c.rest with
    | .char '*' :: rest =>
      match sizeArgument args { c with rest } with
      | (some (.ofNat n), c) => ({ c with flags := { c.flags with precision := some n } }, false)
      | (_, c) => ({ c with written := c.written ++ Text.encode "%!(BADPREC)" }, false)
    | _ =>
      let (precision, rest) := number none c.rest
      ({ c with rest, flags := { c.flags with precision := some (precision.getD 0) } }, placed)
  | _ => (c, placed)

/-- Everything between the percent sign and the letter. -/
def takeModifiers (args : List Value) (c : Cursor) : Cursor :=
  let (flags, rest) := takeFlags {} c.rest
  let (c, placed) := place args.length { c with rest, flags, good := true }
  let (c, placed) := takeWidth args placed c
  let (c, placed) := takePrecision args placed c
  if placed then c else (place args.length c).1

def write (c : Cursor) (s : Bytes) : Cursor := { c with written := c.written ++ s }

/-- The letter of a verb and its value. -/
def letter (args : List Value) (l : Char) (c : Cursor) : Cursor :=
  let note (what : String) : Cursor :=
    write c (Text.encode ("%!" ++ String.singleton l ++ "(" ++ what ++ ")"))
  if l = '%' then write c [0x25]
  else if !c.good then note "BADINDEX"
  else
    match args[c.next]? with
    | none => note "MISSING"
    | some v => { write c (c.flags.apply l v) with next := c.next + 1 }

/-- Arguments no verb asked for. -/
def extra (args : List Value) (c : Cursor) : Bytes :=
  if c.reordered ∨ args.length ≤ c.next then []
  else
    Text.encode "%!(EXTRA " ++
      (Text.encode ", ").intercalate ((args.drop c.next).map (Flags.typed {})) ++ Text.encode ")"

/-- Fills the verbs in order. Every step takes at least one piece. -/
def fill (args : List Value) : Nat → Cursor → Bytes
  | 0, c => c.written
  | fuel + 1, c =>
    match c.rest with
    | [] => c.written ++ extra args c
    | .char '%' :: rest =>
      let c := takeModifiers args { c with rest }
      match c.rest with
      | [] => c.written ++ Text.encode "%!(NOVERB)" ++ extra args c
      | p :: rest => fill args fuel (letter args p.shown { c with rest })
    | p :: rest => fill args fuel (write { c with rest } p.bytes)

end Format

/-- Fills a format with values. -/
def format (s : Bytes) (args : List Value) : Bytes :=
  Format.fill args (s.length + 1) { rest := Text.decode s }

end KernelSweep.Template
