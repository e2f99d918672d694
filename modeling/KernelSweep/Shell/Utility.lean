import KernelSweep.Shell.Condition
import KernelSweep.Shell.Format
import KernelSweep.Shell.LineSearch

set_option autoImplicit false

namespace KernelSweep.Shell

/-- The first message an operating system has for a cause, with a capital. -/
def causeText : FileCause → String
  | .notFound => "No such file or directory"
  | .notDirectory => "Not a directory"
  | .isDirectory => "Is a directory"
  | .notEmpty => "Directory not empty"
  | .nameTooLong => "File name too long"
  | .invalid => "Invalid argument"
  | .permissionDenied => "Permission denied"
  | .execFormat => "Exec format error"
  | .alreadyExists => "File exists"

/-- The shell's own echo: escapes always count. -/
def builtinEcho (st : State) (args : List String) : Step :=
  let (newline, args) := match args with
    | "-n" :: rest => (false, rest)
    | _ => (true, args)
  let (bytes, stop) := unescaped true (Text.join " " args)
  (st.say (if newline && !stop then bytes ++ [10] else bytes)).done 0

/-- The options in front of what is echoed: no newline, and whether escapes count. -/
def echoOptions : Bool → Bool → List String → Bool × Bool × List String
  | newline, escapes, arg :: rest =>
    match arg.toList with
    | '-' :: c :: letters =>
      if (c :: letters).all fun l => l == 'n' || l == 'e' || l == 'E' then
        let escapes := (c :: letters).foldl
          (fun on l => if l = 'e' then true else if l = 'E' then false else on) escapes
        echoOptions (newline && !(c :: letters).contains 'n') escapes rest
      else (newline, escapes, arg :: rest)
    | _ => (newline, escapes, arg :: rest)
  | newline, escapes, [] => (newline, escapes, [])

/-- The echo that is a program of its own: escapes count only when asked for. -/
def programEcho (st : State) (args : List String) : Step :=
  let (newline, escapes, args) := echoOptions true false args
  let text := Text.join " " args
  let (bytes, stop) := if escapes then unescaped true text else (Text.encode text, false)
  (st.say (if newline && !stop then bytes ++ [10] else bytes)).done 0

def printfUtility (st : State) (args : List String) : Step :=
  match args with
  | [] => (st.commandMessage "printf" "usage: printf format [arg ...]").done 2
  | format :: args =>
    let (format, args) := match format, args with
      | "--", next :: rest => (next, rest)
      | _, _ => (format, args)
    let printed := formatted format args
    let st := (printed.problems ++ printed.fault.toList).foldl
      (fun (st : State) text => st.commandMessage "printf" text) st
    (st.say printed.bytes).done
      (if printed.fault.isSome then 2 else if printed.problems.isEmpty then 0 else 1)

/-- The content of one operand: the input for a dash, else a file. -/
def catOne (st : State) (operand : String) : State × Bool :=
  if operand = "-" then ({ st with input := [] }.say st.input, true)
  else
    match st.files.read operand with
    | .ok content => (st.say content, true)
    | .error e => (st.complain ("cat: " ++ operand ++ ": " ++ causeText e.cause), false)

def catUtility (st : State) (args : List String) : Step :=
  let operands := if args.isEmpty then ["-"] else args
  let (st, ok) := operands.foldl
    (fun (acc : State × Bool) operand =>
      let (st, ok) := catOne acc.1 operand
      (st, acc.2 && ok))
    (st, true)
  st.done (if ok then 0 else 1)

/-- A span of time in nanoseconds: seconds, minutes, hours or days, with a fraction. -/
def spanOf? (text : String) : Option Nat :=
  let cs := text.toList
  let (body, unit) := match cs.getLast? with
    | some 's' => (cs.dropLast, 1)
    | some 'm' => (cs.dropLast, 60)
    | some 'h' => (cs.dropLast, 3600)
    | some 'd' => (cs.dropLast, 86400)
    | _ => (cs, 1)
  let (whole, fraction) := Text.cutList (· == '.') body
  let fraction := fraction.getD []
  if whole.isEmpty && fraction.isEmpty then none
  else do
    let n ← Number.readDigits 10 0 whole
    let f ← Number.readDigits 10 0 fraction
    return (n * 1000000000 + f * 1000000000 / Nat.pow 10 fraction.length) * unit

/-- A message about how a program is called, with the advice that follows it. -/
def misuse (st : State) (who text : String) : Step :=
  ((st.complain (who ++ ": " ++ text)).complain
    ("Try '" ++ who ++ " --help' for more information.")).done 1

def sleepUtility (st : State) (args : List String) : Step :=
  match args.filter fun arg => (spanOf? arg).isNone with
  | bad :: _ => misuse st "sleep" ("invalid time interval '" ++ bad ++ "'")
  | [] =>
    if args.isEmpty then misuse st "sleep" "missing operand"
    else State.andThen (st.advance ((args.filterMap spanOf?).foldl (· + ·) 0)) fun st => st.done 0

def pwdUtility (st : State) : Step := (st.sayText (st.directory ++ "\n")).done 0

/-- Why a signal cannot be sent. -/
inductive KillError where
  | usage
  | option (letter : String)
  | signal (name : String)
  deriving DecidableEq, Repr

def KillError.message : KillError → String
  | .usage =>
    "Usage: kill [-s sigspec | -signum | -sigspec] [pid | job]... or\nkill -l [exitstatus]"
  | .option letter => "Illegal option -" ++ letter
  | .signal name => "invalid signal number or name: " ++ name

/-- The number of a signal and the processes it goes to. -/
def killTarget : List String → Except KillError (Nat × List String)
  | "-s" :: name :: rest =>
    match signal? name with
    | some n => .ok (n, rest)
    | none => .error (.signal name)
  | arg :: rest =>
    match arg.toList with
    | '-' :: name =>
      match signal? (String.ofList name) with
      | some n => .ok (n, rest)
      | none => .error (.option (String.ofList (name.take 1)))
    | _ => .ok (15, arg :: rest)
  | [] => .error .usage

/-- Ends a job at once; what it would have written later is lost. -/
def killJob (st : State) (signal process : Nat) : State :=
  { st with
    jobs := st.jobs.map fun j =>
      if j.process = process then { j with ends := min j.ends st.clock, status := 128 + signal }
      else j
    chunks := st.chunks.filter fun c => c.process != process || c.time ≤ st.clock }

/-- Sends a signal to one process. -/
def killOne (st : State) (signal process : Nat) : Step :=
  if process = st.shellProcess then
    if isHarmless signal then st.done 0
    else
      match st.traps.lookup signal with
      | some _ => if signal = 9 then ({ st with status := 0 }, .signalled 9) else st.done 0
      | none =>
        if signal = 19 ∨ signal = 20 then ({ st with clock := st.deadline }, .stopped)
        else ({ st with status := 0 }, .signalled signal)
  else if st.jobs.any fun j => j.process == process && decide (st.clock < j.ends) then
    (if isHarmless signal then st else killJob st signal process).done 0
  else (st.commandMessage "kill" "No such process\n").done 1

def killUtility (st : State) (args : List String) : Step :=
  match killTarget args with
  | .error e => (st.commandMessage "kill" e.message).done 2
  | .ok (signal, targets) =>
    targets.foldl
      (fun step target => State.andThen step fun st =>
        match target.toNat? with
        | some process => killOne st signal process
        | none => (st.commandMessage "kill" ("Illegal number: " ++ target)).done 2)
      (st.done 0)

/-- Applies a change of the files to each operand. Every refusal is reported, as something that
cannot be done. -/
def eachOperand (who deed : String) (f : FileSystem → String → Except FileCause FileSystem)
    (st : State) (operands : List String) : Step :=
  let (st, ok) := operands.foldl
    (fun (acc : State × Bool) operand =>
      match f acc.1.files operand with
      | .ok files => ({ acc.1 with files }, acc.2)
      | .error cause =>
        (acc.1.complain (who ++ ": cannot " ++ deed ++ " '" ++ operand ++ "': " ++ causeText cause),
          false))
    (st, true)
  st.done (if ok then 0 else 1)

def makeDirectory (withParents : Bool) (files : FileSystem) (path : String) :
    Except FileCause FileSystem :=
  if withParents then
    .ok (files.makeDirectories
      ((if Path.isRooted path then [] else files.current) ++ Path.components path))
  else
    match files.resolve path with
    | .error cause => .error cause
    | .ok loc =>
      if (files.node? loc).isSome then .error .alreadyExists else .ok (files.insert loc .directory)

def touchFile (files : FileSystem) (path : String) : Except FileCause FileSystem :=
  match files.resolve path with
  | .error cause => .error cause
  | .ok loc =>
    .ok (if (files.node? loc).isSome then files else files.insert loc (.file [] 0o644))

def removeFile (force recursive : Bool) (files : FileSystem) (path : String) :
    Except FileCause FileSystem :=
  match files.find path with
  | .error cause => if force then .ok files else .error cause
  | .ok (loc, .directory) =>
    if recursive then
      .ok { files with nodes := files.nodes.filter fun entry => !loc.isPrefixOf entry.1 }
    else .error .isDirectory
  | .ok (loc, _) => .ok (files.erase loc)

/-- Splits options, which start with a dash, from operands. -/
def splitOptions (args : List String) : List Char × List String :=
  let isOption (arg : String) := arg.toList.head? == some '-' && arg.length > 1
  ((args.takeWhile isOption).flatMap fun arg => arg.toList.drop 1, args.dropWhile isOption)

/-- The mode of a file after a change: digits set it, letters turn permissions on or off. -/
def changedMode (change : String) (mode : Nat) : Option Nat :=
  match Number.readNat 8 change.toList with
  | some mode => some mode
  | none =>
    let letters := change.toList.dropWhile fun c => "ugoa".toList.contains c
    let value (c : Char) : Nat := if c = 'x' then 0o111 else if c = 'w' then 0o200 else 0o444
    match letters with
    | '+' :: rights => some (rights.foldl (fun mode c => mode ||| value c) mode)
    | '-' :: rights => some (rights.foldl (fun mode c => mode &&& (0o777 - value c)) mode)
    | _ => none

def changeMode (change : String) (files : FileSystem) (path : String) :
    Except FileCause FileSystem :=
  match files.find path with
  | .error cause => .error cause
  | .ok (loc, .file content mode) =>
    match changedMode change mode with
    | some mode => .ok (files.insert loc (.file content mode))
    | none => .error .invalid
  | .ok _ => .ok files

/-- Where a file goes: into a directory under its own name, or to the path itself. -/
def copyTarget (files : FileSystem) (source target : String) : String :=
  match files.find target with
  | .ok (_, .directory) => Path.join target (baseName source "")
  | _ => target

def copyFile (files : FileSystem) (source target : String) : Except FileCause FileSystem := do
  let (_, node) ← files.find source
  let loc ← files.resolve (copyTarget files source target)
  if node.isDirectory then throw .isDirectory
  return files.insert loc node

def moveFile (files : FileSystem) (source target : String) : Except FileCause FileSystem := do
  let (old, _) ← files.find source
  let copied ← copyFile files source target
  return copied.erase old

/-- Copies or moves one file. -/
def transferUtility (who deed : String)
    (f : FileSystem → String → String → Except FileCause FileSystem) (st : State)
    (operands : List String) : Step :=
  match operands with
  | [source, target] =>
    match f st.files source target with
    | .ok files => { st with files }.done 0
    | .error cause =>
      let text := who ++ ": cannot " ++ deed ++ " '" ++ source ++ "': " ++ causeText cause
      (st.complain text).done 1
  | _ => misuse st who "missing file operand"

def listUtility (st : State) (args : List String) : Step :=
  let (options, operands) := splitOptions args
  let operands := if operands.isEmpty then ["."] else operands
  operands.foldl
    (fun step operand => State.andThen step fun st =>
      match st.files.find operand with
      | .ok (loc, .directory) =>
        let names := if options.contains 'd' then [operand]
          else (st.files.namesIn loc).filter fun name => name.toList.head? != some '.'
        (st.sayText (String.join (names.map (· ++ "\n")))).done st.status
      | .ok _ => (st.sayText (operand ++ "\n")).done st.status
      | .error cause =>
        (st.complain ("ls: cannot access '" ++ operand ++ "': " ++ causeText cause)).done 2)
    (st.done 0)

/-- Runs a program by name, `none` for one that is not here. -/
def utility? (name : String) (st : State) (args : List String) : Option Step :=
  let (options, operands) := splitOptions args
  match name with
  | "true" | ":" => some (st.done 0)
  | "false" => some (st.done 1)
  | "echo" => some (programEcho st args)
  | "printf" => some (printfUtility st args)
  | "cat" => some (catUtility st args)
  | "sleep" => some (sleepUtility st args)
  | "pwd" => some (pwdUtility st)
  | "kill" => some (killUtility st args)
  | "test" => some (testUtility st "test" args)
  | "[" => some (bracketUtility st args)
  | "ls" => some (listUtility st args)
  | "mkdir" =>
    some (eachOperand "mkdir" "create directory" (makeDirectory (options.contains 'p')) st operands)
  | "touch" => some (eachOperand "touch" "touch" touchFile st operands)
  | "rm" =>
    let recursive := options.contains 'r' || options.contains 'R'
    some (eachOperand "rm" "remove" (removeFile (options.contains 'f') recursive) st operands)
  | "chmod" =>
    match args with
    | change :: operands => some (eachOperand "chmod" "access" (changeMode change) st operands)
    | [] => some (misuse st "chmod" "missing operand")
  | "cp" => some (transferUtility "cp" "stat" copyFile st operands)
  | "mv" => some (transferUtility "mv" "stat" moveFile st operands)
  | "head" => some (headUtility st args)
  | "tail" => some (tailUtility st args)
  | "wc" => some (countUtility st options operands)
  | "sort" => some (sortUtility st options operands)
  | "seq" => some (sequenceUtility st args)
  | "tr" => some (replaceUtility st args fun text => (unescaped false text).1)
  | "grep" => some (searchUtility st options operands)
  | "yes" => some (repeatUtility st args)
  | "basename" =>
    match args with
    | path :: rest => some ((st.sayText (baseName path (rest.head?.getD "") ++ "\n")).done 0)
    | [] => some (misuse st "basename" "missing operand")
  | "dirname" =>
    match args with
    | path :: _ => some ((st.sayText (directoryName path ++ "\n")).done 0)
    | [] => some (misuse st "dirname" "missing operand")
  | _ => none

end KernelSweep.Shell
