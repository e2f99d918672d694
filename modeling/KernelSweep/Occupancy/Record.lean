import KernelSweep.Number.Binary64
import KernelSweep.Number.FloatReading
import KernelSweep.Number.Integer
import KernelSweep.Number.Shortest
import KernelSweep.Text.Blank
import KernelSweep.Text.Quoted

set_option autoImplicit false

namespace KernelSweep.Occupancy

open KernelSweep.Number

structure Record where
  /-- Shared memory a block already takes, in bytes. -/
  sharedMemory : Int64
  threads : Int64
  /-- Fraction of the thread capacity of a unit that was in use. -/
  occupancy : Binary64
  deriving DecidableEq, Repr

/-- What a plain sweep assumes of a kernel without a report. -/
def Record.assumed : Record := ⟨0, 512, Binary64.ofInt 100⟩

inductive RecordError where
  | noValue (line : Nat) (text : List UInt8)
  | missingLines (found : Nat)
  | sharedMemory (text : List UInt8)
  | threads (text : List UInt8)
  | threadsNotPositive (value : Int64)
  | occupancy (text : List UInt8)
  | occupancyOutOfRange (value : Binary64)
  | lineTooLong
  deriving DecidableEq, Repr

namespace RecordError

/-- A line past the length limit is a failure to read, not a malformed report. -/
def isMalformed : RecordError → Bool
  | .lineTooLong => false
  | _ => true

def message (e : RecordError) : String :=
  let malformed (text : String) := "malformed occupancy report: " ++ text
  match e with
  | .noValue line text =>
    malformed ("line " ++ toString line ++ " " ++ Text.quotedBytes text ++ " has no value")
  | .missingLines found => malformed ("expected 3 lines, got " ++ toString found)
  | .sharedMemory text => malformed ("existing shared memory " ++ Text.quotedBytes text)
  | .threads text => malformed ("threads per block " ++ Text.quotedBytes text)
  | .threadsNotPositive value =>
    malformed ("threads per block must be positive, got " ++ decimal value)
  | .occupancy text => malformed ("occupancy " ++ Text.quotedBytes text)
  | .occupancyOutOfRange value => malformed ("occupancy " ++ value.text ++ " out of range")
  | .lineTooLong => "bufio.Scanner: token too long"

end RecordError

/-- A line of this many bytes or more, its line feed aside, cannot be read. -/
def lineLimit : Nat := 65536

def lineFeed : UInt8 := 0x0a
def carriageReturn : UInt8 := 0x0d
def space : UInt8 := 0x20

def dropReturn (line : List UInt8) : List UInt8 :=
  if line.getLast? = some carriageReturn then line.dropLast else line

/-- Splits off the first line; nothing is left to split when the input is empty. -/
def firstLine (input : List UInt8) : Option (List UInt8 × List UInt8) :=
  if input.isEmpty then none
  else
    let (line, rest) := Text.cutList (· == lineFeed) input
    some (line, rest.getD [])

/-- Bytes as characters where they form some. A stray byte is no part of any number. -/
def trimmedPieces (bytes : List UInt8) : List Text.Piece :=
  let blank : Text.Piece → Bool
    | .char c => Text.isBlank c
    | .stray _ => false
  Text.trimList blank (Text.decode bytes)

/-- The value of a line: the trimmed text after its first space. -/
def lineValue (number : Nat) (line : List UInt8) : Except RecordError (List Text.Piece) :=
  match (Text.cutList (· == space) line).2 with
  | none => .error (.noValue number line)
  | some value => .ok (trimmedPieces value)

/-- The values of the lines from `number` on, `count` of them. -/
def lineValues (number : Nat) : Nat → List UInt8 → Except RecordError (List (List Text.Piece))
  | 0, _ => .ok []
  | count + 1, input =>
    match firstLine input with
    | none => .error (.missingLines (number - 1))
    | some (line, rest) =>
      if lineLimit ≤ line.length then .error .lineTooLong
      else do
        let value ← lineValue number (dropReturn line)
        let values ← lineValues (number + 1) count rest
        return value :: values

def pieceBytes (pieces : List Text.Piece) : List UInt8 := pieces.flatMap Text.Piece.bytes

/-- The characters, when no byte is stray. -/
def pieceChars : List Text.Piece → Option (List Char)
  | [] => some []
  | .char c :: rest => (pieceChars rest).map (c :: ·)
  | .stray _ :: _ => none

namespace Record

/-- Checks the three values in order. -/
def ofValues (sharedMemory threads occupancy : List Text.Piece) : Except RecordError Record := do
  let some smem := (pieceChars sharedMemory).bind readInt64
    | throw (.sharedMemory (pieceBytes sharedMemory))
  let some size := (pieceChars threads).bind readInt64 | throw (.threads (pieceBytes threads))
  if size ≤ 0 then throw (.threadsNotPositive size)
  let some share := (pieceChars occupancy).bind readFloat
    | throw (.occupancy (pieceBytes occupancy))
  if share.isBelowZero || share.isNaN || share.isInfinite then throw (.occupancyOutOfRange share)
  return ⟨smem, size, share⟩

/-- Reads a report; everything after its third line is ignored. -/
def parse (input : List UInt8) : Except RecordError Record := do
  match ← lineValues 1 3 input with
  | [sharedMemory, threads, occupancy] => ofValues sharedMemory threads occupancy
  | values => throw (.missingLines values.length)

/-- The report the toolchain would leave. -/
def text (r : Record) : String :=
  "smem " ++ decimal r.sharedMemory ++ "\nblocksize " ++ decimal r.threads ++ "\noccupancy " ++
    r.occupancy.text ++ "\n"

end Record

end KernelSweep.Occupancy
