import KernelSweep.Number.FloatReading
import KernelSweep.Number.Literal
import KernelSweep.Text.Base64
import KernelSweep.Yaml.Library
import KernelSweep.Yaml.ScalarText

set_option autoImplicit false

namespace KernelSweep.Yaml

open KernelSweep.Number

namespace Tag

def str : String := "!!str"
def int : String := "!!int"
def float : String := "!!float"
def bool : String := "!!bool"
def null : String := "!!null"
def timestamp : String := "!!timestamp"
def binary : String := "!!binary"
def seq : String := "!!seq"
def map : String := "!!map"
def merge : String := "!!merge"

def standardSpace : String := "tag:yaml.org,2002:"

/-- Tags of the standard name space in their short form. -/
def short (tag : String) : String :=
  if tag.startsWith standardSpace then
    "!!" ++ String.ofList (tag.toList.drop standardSpace.length)
  else tag

/-- Tags a scalar can be checked against. -/
def isResolvable (tag : String) : Bool :=
  ["", str, bool, int, float, null, timestamp].contains tag

end Tag

inductive Meaning where
  | null
  | bool (b : Bool)
  /-- Within the range of signed or unsigned words. -/
  | int (n : Int)
  | float (x : Binary64)
  | timestamp
  | text (s : Text.Bytes)
  deriving DecidableEq, Repr

def Meaning.ofText (s : String) : Meaning := .text (Text.encode s)

def Meaning.tag : Meaning → String
  | .null => Tag.null
  | .bool _ => Tag.bool
  | .int _ => Tag.int
  | .float _ => Tag.float
  | .timestamp => Tag.timestamp
  | .text _ => Tag.str

/-- The words with a meaning of their own. -/
def word? (s : String) : Option Meaning :=
  match s with
  | "true" | "True" | "TRUE" => some (.bool true)
  | "false" | "False" | "FALSE" => some (.bool false)
  | "" | "~" | "null" | "Null" | "NULL" => some .null
  | ".nan" | ".NaN" | ".NAN" => some (.float .nan)
  | ".inf" | ".Inf" | ".INF" | "+.inf" | "+.Inf" | "+.INF" => some (.float (.infinity false))
  | "-.inf" | "-.Inf" | "-.INF" => some (.float (.infinity true))
  | _ => none

namespace Date

/-- One or two digits. -/
def shortNumber (cs : List Char) : Option (Nat × List Char) := do
  let digits := (cs.take 2).takeWhile Char.isDigit
  let n ← readNat 10 digits
  return (n, cs.drop digits.length)

/-- Exactly two digits. -/
def pair (cs : List Char) : Option (Nat × List Char) := do
  guard (2 ≤ cs.length)
  let n ← readNat 10 (cs.take 2)
  return (n, cs.drop 2)

def expect (c : Char) : List Char → Option (List Char)
  | d :: rest => if d = c then some rest else none
  | [] => none

def isLeap (year : Nat) : Bool := year % 4 == 0 && (year % 100 != 0 || year % 400 == 0)

def daysIn (year month : Nat) : Nat :=
  if month = 2 then if isLeap year then 29 else 28
  else if month = 4 ∨ month = 6 ∨ month = 9 ∨ month = 11 then 30
  else 31

/-- Digits behind a point or comma, when there are any. -/
def skipFraction : List Char → List Char
  | p :: d :: rest =>
    if (p == '.' || p == ',') && d.isDigit then rest.dropWhile Char.isDigit else p :: d :: rest
  | cs => cs

/-- Hours, minutes and seconds. -/
def timeOfDay (cs : List Char) : Option (List Char) := do
  let (hour, cs) ← shortNumber cs
  let (minute, cs) ← shortNumber (← expect ':' cs)
  let (second, cs) ← shortNumber (← expect ':' cs)
  guard (hour < 24 && minute < 60 && second < 60)
  return skipFraction cs

def zone (cs : List Char) : Option (List Char) :=
  match cs with
  | 'Z' :: rest => some rest
  | sign :: rest => do
    guard (sign == '+' || sign == '-')
    let (hour, rest) ← pair rest
    let (minute, rest) ← pair (← expect ':' rest)
    guard (hour ≤ 24 && minute ≤ 60)
    return rest
  | [] => none

/-- A year of four digits, month and day, and after them nothing, or a time of day with a zone
behind a `T`, or one without behind spaces. -/
def isDate (s : String) : Bool :=
  let cs := s.toList
  let year := cs.takeWhile Char.isDigit
  (do
    guard (year.length == 4)
    let y ← readNat 10 year
    let cs ← expect '-' (cs.drop 4)
    let (month, cs) ← shortNumber cs
    let (day, cs) ← shortNumber (← expect '-' cs)
    guard (1 ≤ month && month ≤ 12 && 1 ≤ day && day ≤ daysIn y month)
    let left ← match cs with
      | [] => some []
      | 'T' :: cs | 't' :: cs => do zone (← timeOfDay cs)
      | ' ' :: cs => timeOfDay (cs.dropWhile (· == ' '))
      | _ => none
    guard left.isEmpty).isSome

end Date

/-- A decimal number with at least one digit and an optional power of ten. -/
def looksFloat (cs : List Char) : Bool :=
  let cs := (splitSign cs).2
  let whole := cs.takeWhile Char.isDigit
  let cs := cs.dropWhile Char.isDigit
  let (part, cs) := match cs with
    | '.' :: rest => (rest.takeWhile Char.isDigit, rest.dropWhile Char.isDigit)
    | _ => ([], cs)
  let power : Bool := match cs with
    | [] => true
    | e :: rest =>
      let digits := (splitSign rest).2
      (e == 'e' || e == 'E') && !digits.isEmpty && digits.all Char.isDigit
  !(whole.isEmpty && part.isEmpty) && power

/-- Signed words, and unsigned ones without a sign. -/
def readWord (cs : List Char) : Option Int := do
  let n ← readLiteral cs
  let hasSign := cs.head? == some '+' || cs.head? == some '-'
  guard (-wordLimit ≤ n && (n < wordLimit || (!hasSign && n < 2 * wordLimit)))
  return n

/-- A base mark with a signed word behind it. -/
def readMarked : List Char → Option Int
  | '0' :: 'b' :: cs => signedWord 2 cs
  | '0' :: 'o' :: cs => signedWord 8 cs
  | _ => none
where
  signedWord (base : Nat) (cs : List Char) : Option Int := do
    let (negative, digits) := splitSign cs
    let n := signed negative (← readNat base digits)
    guard (-wordLimit ≤ n && n < wordLimit)
    return n

/-- What starts like a number: a date, an integer in any base, or a decimal number. -/
def numeric (dates : Bool) (s : String) : Meaning :=
  let plain := s.toList.filter (· != '_')
  if dates && Date.isDate s then .timestamp
  else
    match readWord plain with
    | some n => .int n
    | none =>
      match if looksFloat plain then readFloat plain else none with
      | some x => .float x
      | none =>
        match readMarked plain with
        | some n => .int n
        | none => .ofText s

/-- The meaning of an untagged or tagged scalar. -/
def meaning (tag s : String) : Meaning :=
  if tag = Tag.str then .ofText s
  else
    match word? s with
    | some m => m
    | none =>
      match s.toList with
      | c :: _ =>
        if c == '+' || c == '-' || c.isDigit then
          numeric (tag = "" || tag = Tag.timestamp) s
        else if c == '.' then
          match readFloat s.toList with
          | some x => .float x
          | none => .ofText s
        else .ofText s
      | [] => .ofText s

/-- Checks a meaning against the tag that was asked for. A signed word may stand for a float. -/
def resolve (tag s : String) : Except Fault (String × Meaning) :=
  if !Tag.isResolvable tag then .ok (tag, .ofText s)
  else
    let m := meaning tag s
    if tag = "" || tag = m.tag || tag = Tag.str then .ok (m.tag, m)
    else
      match m with
      | .int n =>
        if tag = Tag.float ∧ n < wordLimit then .ok (Tag.float, .float (.ofInt n))
        else .error .notYaml
      | _ => .error .notYaml

/-- The tag and the meaning of a scalar. Bytes need not form a text. -/
def scalarMeaning (tag value : String) : Except Fault (String × Meaning) :=
  if tag = Tag.str then .ok (Tag.str, .ofText value)
  else if tag = Tag.binary then
    match Text.Base64.decode value with
    | some bytes => .ok (Tag.binary, .text bytes)
    | none => .error .notYaml
  else resolve tag value

/-- The text of a scalar: that of its meaning, or else as it is written. -/
def textOf (value : String) : Meaning → Option Text.Bytes
  | .text s => some s
  | _ => some (Text.encode value)

/-- Integers, and the integer parts of other numbers. -/
def intOf : Meaning → Option Int64
  | .int n => Number.toInt64? n
  | .float x =>
    if x.isInfinite && x.isNegative then some Int64.minValue
    else if x.isFinite && decide (x.truncInt ≤ Number.wordLimit) then
      some ((Number.toInt64? x.truncInt).getD Int64.minValue)
    else none
  | _ => none

def yesWords : List String := ["y", "Y", "yes", "Yes", "YES", "on", "On", "ON"]
def noWords : List String := ["n", "N", "no", "No", "NO", "off", "Off", "OFF"]

/-- Truth values, also in the words of older files. -/
def boolOf : Meaning → Option Bool
  | .bool b => some b
  | .text s =>
    if yesWords.any fun word => Text.encode word == s then some true
    else if noWords.any fun word => Text.encode word == s then some false
    else none
  | _ => none

def readScalar (tag value : String) : Except Fault Scalar :=
  (scalarMeaning tag value).map fun (_, m) => ⟨m = .null, textOf value m, intOf m, boolOf m⟩

end KernelSweep.Yaml
