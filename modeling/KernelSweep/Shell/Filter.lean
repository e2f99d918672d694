import KernelSweep.Number.Literal
import KernelSweep.Shell.State

set_option autoImplicit false

namespace KernelSweep.Shell

/-- The lines of some bytes with their newlines; the last may lack its own. -/
def byteLines (bytes : List UInt8) : List (List UInt8) :=
  let pieces := Text.splitList (· == 10) bytes
  pieces.dropLast.map (· ++ [10]) ++ (pieces.getLast?.filter (!·.isEmpty)).toList

/-- What a program reads: the input without operands or for a dash, else its files one after
another. A file that cannot be read is reported as `subject` says, and gives the status. -/
def gather (subject : String → String) (status : Nat) (st : State) (operands : List String) :
    List UInt8 × State :=
  if operands.isEmpty then (st.input, { st with input := [] })
  else
    operands.foldl
      (fun (acc : List UInt8 × State) operand =>
        if operand = "-" then (acc.1 ++ acc.2.input, { acc.2 with input := [] })
        else
          match acc.2.files.read operand with
          | .ok content => (acc.1 ++ content, acc.2)
          | .error _ =>
            (acc.1,
              { acc.2.complain (subject operand ++ ": No such file or directory") with status }))
      ([], st)

/-- How much of the input counts: a number of lines or of bytes. -/
inductive Amount where
  | lines (n : Nat)
  | bytes (n : Nat)
  deriving DecidableEq, Repr

/-- The amount in front of the operands; ten lines without one. -/
def amountOf : List String → Amount × List String
  | "-n" :: n :: rest => (.lines ((Number.readNat 10 n.toList).getD 0), rest)
  | "-c" :: n :: rest => (.bytes ((Number.readNat 10 n.toList).getD 0), rest)
  | arg :: rest =>
    match arg.toList with
    | '-' :: 'n' :: digits => (.lines ((Number.readNat 10 digits).getD 0), rest)
    | '-' :: 'c' :: digits => (.bytes ((Number.readNat 10 digits).getD 0), rest)
    | '-' :: digits =>
      match Number.readNat 10 digits with
      | some n => (.lines n, rest)
      | none => (.lines 10, arg :: rest)
    | _ => (.lines 10, arg :: rest)
  | [] => (.lines 10, [])

def headUtility (st : State) (args : List String) : Step :=
  let (amount, operands) := amountOf args
  let (content, st) := gather (fun path => "head: cannot open '" ++ path ++ "' for reading") 1
    { st with status := 0 } operands
  let part := match amount with
    | .lines n => ((byteLines content).take n).flatten
    | .bytes n => content.take n
  (st.say part).done st.status

def tailUtility (st : State) (args : List String) : Step :=
  let (amount, operands) := amountOf args
  let (content, st) := gather (fun path => "tail: cannot open '" ++ path ++ "' for reading") 1
    { st with status := 0 } operands
  let part := match amount with
    | .lines n => let lines := byteLines content; (lines.drop (lines.length - n)).flatten
    | .bytes n => content.drop (content.length - n)
  (st.say part).done st.status

/-- Words divided by blanks. -/
def wordCount (bytes : List UInt8) : Nat :=
  let isBlank (b : UInt8) : Bool := b == 32 || (9 ≤ b && b ≤ 13)
  ((Text.splitList isBlank bytes).filter (!·.isEmpty)).length

/-- Counts lines, words or bytes, whichever option comes; all three without one. -/
def countUtility (st : State) (options : List Char) (operands : List String) : Step :=
  let (content, st) := gather ("wc: " ++ ·) 1 { st with status := 0 } operands
  let counts :=
    [('l', content.countP (· == 10)), ('w', wordCount content), ('c', content.length)].filter
      fun (letter, _) => options.isEmpty || options.contains letter
  let width := if counts.length = 1 then 1
    else if operands.isEmpty then 7
    else (toString content.length).length
  let shown := counts.map fun (_, n) =>
    let digits := toString n
    String.ofList (List.replicate (width - digits.length) ' ') ++ digits
  let names := (operands.head?.map (" " ++ ·)).getD ""
  (st.sayText (Text.join " " shown ++ names ++ "\n")).done st.status

/-- The order of lines by their bytes. -/
def notAfter : List UInt8 → List UInt8 → Bool
  | [], _ => true
  | _ :: _, [] => false
  | a :: as, b :: bs => a.toNat < b.toNat || (a == b && notAfter as bs)

/-- The lines of the input in order, by bytes or by the number they start with. -/
def sortUtility (st : State) (options : List Char) (operands : List String) : Step :=
  let (content, st) := gather ("sort: cannot read: " ++ ·) 2 { st with status := 0 } operands
  let lines := (byteLines content).map fun line => line.filter (· != 10)
  let value (line : List UInt8) : Nat :=
    (Number.readDigits 10 0 ((Text.decodeLossy line).toList.takeWhile Char.isDigit)).getD 0
  let before (a b : List UInt8) : Bool :=
    if options.contains 'n' && value a != value b then decide (value a < value b)
    else notAfter a b
  let sorted := lines.mergeSort before
  let sorted := if options.contains 'r' then sorted.reverse else sorted
  let sorted := if options.contains 'u' then sorted.eraseDups else sorted
  (st.say (sorted.flatMap (· ++ [10]))).done st.status

/-- Counts from one number to another by a step. -/
def countFrom (step : Int) (last : Int) : Nat → Int → List Int
  | 0, _ => []
  | fuel + 1, n =>
    if (0 < step ∧ n ≤ last) ∨ (step < 0 ∧ last ≤ n) then
      n :: countFrom step last fuel (n + step)
    else []

def sequenceUtility (st : State) (args : List String) : Step :=
  let write (first step last : Int) : Step :=
    let numbers := countFrom step last ((last - first).natAbs + 1) first
    (st.sayText (String.join (numbers.map fun n => toString n ++ "\n"))).done 0
  match args.mapM fun arg => (Number.readInt64 arg.toList).map (·.toInt) with
  | some [last] => write 1 1 last
  | some [first, last] => write first 1 last
  | some [first, step, last] => write first step last
  | _ => (st.complain "seq: missing operand").done 1

/-- The characters of a set, with ranges and escapes written out. -/
def characterSet : List UInt8 → List UInt8
  | a :: 45 :: b :: rest =>
    if a ≤ b then
      (List.range (b.toNat - a.toNat + 1)).map (fun i => UInt8.ofNat (a.toNat + i)) ++
        characterSet rest
    else a :: characterSet (45 :: b :: rest)
  | a :: rest => a :: characterSet rest
  | [] => []

/-- Replaces characters of one set by those of another, whose last stands for all behind it, or
deletes them. -/
def replaceUtility (st : State) (args : List String) (unescape : String → List UInt8) : Step :=
  let set (text : String) := characterSet (unescape text)
  let apply (f : List UInt8 → List UInt8) : Step :=
    ({ st with input := [] }.say (f st.input)).done 0
  match args with
  | ["-d", text] => apply fun bytes => bytes.filter fun b => !(set text).contains b
  | [old, new] =>
    let old := set old
    let new := set new
    apply fun bytes => bytes.map fun b =>
      match old.idxOf? b with
      | some i => (new[i]?).getD (new.getLast?.getD b)
      | none => b
  | _ => (st.complain "tr: missing operand").done 1

/-- Writes a line again and again: into a pipe more of them than will be read, anywhere else until
the time is over. -/
def repeatUtility (st : State) (args : List String) : Step :=
  let line := Text.encode ((if args.isEmpty then "y" else Text.join " " args) ++ "\n")
  match st.out with
  | .capture => ((st.say (List.replicate 100000 line).flatten).done 0)
  | _ => ({ st with clock := st.deadline }, .stopped)

/-- The last component of a path, without an ending. -/
def baseName (path ending : String) : String :=
  let name := ((Text.split '/' path).filter (· ≠ "")).getLast?.getD (if path = "" then "" else "/")
  if ending ≠ name ∧ ending.toList.isSuffixOf name.toList then
    String.ofList (name.toList.take (name.length - ending.length))
  else name

/-- The path without its last component. -/
def directoryName (path : String) : String :=
  let kept := Text.dropTail (· == '/') (Text.dropTail (· != '/')
    (Text.dropTail (· == '/') path.toList))
  if kept.isEmpty then if Path.isRooted path then "/" else "." else String.ofList kept

end KernelSweep.Shell
