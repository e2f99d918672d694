import KernelSweep.Program.Image
import KernelSweep.Shell.Expand
import KernelSweep.Shell.Utility

set_option autoImplicit false

namespace KernelSweep.Shell

open KernelSweep.Program

/-- What a descriptor writes to. -/
def sinkOf (st : State) : Nat → Sink
  | 2 => st.err
  | _ => st.out

def setSink (st : State) (descriptor : Nat) (sink : Sink) : State :=
  match descriptor with
  | 1 => { st with out := sink }
  | 2 => { st with err := sink }
  | _ => st

/-- Opens a file for writing, emptied unless `keep`. Two names stand for what is open already. -/
def openSink (st : State) (path : String) (keep : Bool) : Except FileCause (Sink × State) :=
  match st.files.resolve path with
  | .error cause => .error cause
  | .ok ["dev", "stdout"] => .ok (st.out, st)
  | .ok ["dev", "stderr"] => .ok (st.err, st)
  | .ok loc =>
    match st.files.node? loc with
    | some .directory => .error .isDirectory
    | some .sink => .ok (.discard, st)
    | some (.file content mode) =>
      .ok (.file loc,
        if keep then { st with files := st.files.insert loc (.file content mode) }
        else { st with files := st.files.insert loc (.file [] mode) })
    | some (.program _) => .error .permissionDenied
    | none => .ok (.file loc, { st with files := st.files.insert loc (.file [] 0o644) })

/-- How the shell calls what is in the way of a new file. -/
def creationText : FileCause → String
  | .notFound => "Directory nonexistent"
  | cause => causeText cause

/-- Carries out one redirection. The error is a message. -/
def redirect (inner : Inner) (r : Redirect) (st : State) : Except Step (Except String State) := do
  let (target, st) ← expandValue inner r.target st
  let output (keep : Bool) : Except String State :=
    match openSink st target keep with
    | .ok (sink, st) => .ok (setSink st r.descriptor sink)
    | .error cause => .error ("cannot create " ++ target ++ ": " ++ creationText cause)
  match r.kind with
  | .output => return output false
  | .append => return output true
  | .input =>
    match st.files.read target with
    | .ok content => return .ok { st with input := content }
    | .error _ => return .error ("cannot open " ++ target ++ ": No such file")
  | .document => return .ok { st with input := Text.encode target }
  | .copy =>
    match target with
    | "-" => return .ok (setSink st r.descriptor .discard)
    | _ =>
      match target.toNat? with
      | some n => return .ok (setSink st r.descriptor (sinkOf st n))
      | none => return .error ("Bad fd number: " ++ target)

/-- Carries out redirections from left to right. -/
def redirectAll (inner : Inner) :
    List Redirect → State → Except Step (Except String State)
  | [], st => .ok (.ok st)
  | r :: rest, st => do
    match ← redirect inner r st with
    | .error message => return .error message
    | .ok st => redirectAll inner rest st

/-- Runs something with its redirections, which end with it. -/
def withRedirects (inner : Inner) (rs : List Redirect) (st : State) (f : State → Step) : Step :=
  match redirectAll inner rs st with
  | .error step => step
  | .ok (.error message) => (st.shellMessage message).done 2
  | .ok (.ok ready) =>
    let (ended, flow) := f ready
    let redirectsInput := rs.any fun r => r.kind == .input || r.kind == .document
    ({ ended with
        out := st.out
        err := st.err
        input := if redirectsInput then st.input else ended.input }, flow)

/-- What a child's end means for the shell that waits for it. -/
def childStep (parent child : State) (flow : Flow) : Step :=
  let st := parent.rejoin child
  match flow with
  | .stopped => (st, .stopped)
  | .signalled n => (st.tellSignal n).done (128 + n)
  | _ => st.done child.status

/-- The end of a shell: its last action runs, and its status is what the action does not change. -/
def finish (inner : Inner) (step : Step) : Step :=
  let (st, flow) := step
  match flow, st.traps.lookup 0 with
  | .stopped, _ | .signalled _, _ | _, none => step
  | _, some action =>
    match inner (Script.parse 1 action) { st with traps := st.traps.filter (·.1 != 0) } with
    | (ended, .exit) => (ended, .exit)
    | (ended, .next) => ({ ended with status := st.status }, flow)
    | other => other

/-- Reads and runs a script as a shell of its own, which knows the directory it is in. -/
def runText (inner : Inner) (isArgument : Bool) (text : String) (st : State) : Step :=
  let script := Script.parse 1 text
  finish inner (inner (if isArgument then script.markLast else script)
    (st.setVariable "PWD" st.directory true))

/-- Turns options of the shell on or off by their letters. -/
def setLetters (on : Bool) (letters : List Char) (st : State) : State :=
  let value (letter : Char) (old : Bool) := if letters.contains letter then on else old
  { st with
    stopOnFailure := value 'e' st.stopOnFailure
    refuseUnset := value 'u' st.refuseUnset }

/-- The options of a shell, up to the first operand: whether the script is an argument, and the
shell with its options on. -/
def shellOptions : Bool → State → List String → Bool × State × List String
  | isText, st, arg :: rest =>
    match arg.toList with
    | '-' :: c :: letters =>
      if arg = "--" then (isText, st, rest)
      else
        let letters := c :: letters
        shellOptions (isText || letters.contains 'c') (setLetters true letters st) rest
    | _ => (isText, st, arg :: rest)
  | isText, st, [] => (isText, st, [])

/-- A shell with its arguments: a script as text, a script in a file, or a script on the input. -/
def runShell (inner : Inner) (args : List String) (st : State) : Step :=
  let (isText, st, operands) := shellOptions false st args
  match isText, operands with
  | true, [] => (st.complain (st.name ++ ": 0: -c requires an argument")).done 2
  | true, text :: rest =>
    runText inner true text { st with name := rest.head?.getD st.name, args := rest.tail }
  | false, [] => runText inner false (Text.decodeLossy st.input) { st with input := [] }
  | false, path :: rest =>
    match st.files.read path with
    | .error _ => (st.complain (st.name ++ ": 0: cannot open " ++ path ++ ": No such file")).done 2
    | .ok content =>
      runText inner false (Text.decodeLossy content) { st with name := path, args := rest }

/-- The state a program starts from: exported variables, ignored signals, nothing else. -/
def childState (st : State) : State :=
  { st with
    vars := st.handedOn
    traps := st.traps.filter fun t => t.2 == "" && t.1 != 0
    functions := []
    saved := []
    line := 1
    caller := ""
    stopOnFailure := false
    refuseUnset := false
    guarded := false
    status := 0
    lastJob := none
    shellProcess := st.nextProcess
    process := st.nextProcess
    nextProcess := st.nextProcess + 1 }

/-- The program a command names. -/
def findImage (st : State) (name : String) (args : List String) : Except FileCause Image :=
  let path := if name.toList.contains '/' then some name else search? st.files st.searchPath name
  match path with
  | none => .error .notFound
  | some path =>
    match image st.files path args with
    | .ok image => .ok { image with called := if image.called = path then name else image.called }
    | .error .execFormat => .ok ⟨"sh", name, path :: args⟩
    | .error cause => .error cause

/-- A program in the process at work, but for one that starts another. -/
def runOne (inner : Inner) (image : Image) (st : State) : Step :=
  if image.program = "sh" then runShell inner image.args { st with name := image.called }
  else
    match utility? image.program { st with name := image.called } image.args with
    | some step => step
    | none => st.done 127

/-- Assignments in front of a command, and the command. -/
def leadingAssignments : List String → List (String × String) × List String
  | [] => ([], [])
  | arg :: rest =>
    match Text.cut '=' arg with
    | (name, some value) =>
      let (more, command) := leadingAssignments rest
      ((name, value) :: more, command)
    | (_, none) => ([], arg :: rest)

/-- A program with a changed environment; without one the environment is written out. -/
def runInEnvironment (inner : Inner) (args : List String) (st : State) : Step :=
  let (st, args) := match args with
    | "-i" :: rest => ({ st with vars := [] }, rest)
    | _ => (st, args)
  let (assignments, command) := leadingAssignments args
  let st := assignments.foldl (fun (st : State) (name, value) => st.setVariable name value true) st
  match command with
  | [] => (st.sayText (String.join (st.entries.map (· ++ "\n")))).done 0
  | name :: args =>
    match findImage st name args with
    | .ok image => runOne inner image st
    | .error cause =>
      (st.complain ("env: '" ++ name ++ "': " ++ causeText cause)).done
        (if cause = .notFound then 127 else 126)

/-- A program in the process at work. -/
def runImage (inner : Inner) (image : Image) (st : State) : Step :=
  if image.program = "env" then runInEnvironment inner image.args st else runOne inner image st

/-- Starts a program and waits for it. -/
def runProgram (inner : Inner) (name : String) (args : List String) (st : State) : Step :=
  State.andThen (st.advance startCost) fun st =>
    match findImage st name args with
    | .error .notFound => (st.shellMessage (name ++ ": not found")).done 127
    | .error cause => (st.shellMessage (name ++ ": " ++ causeText cause)).done 126
    | .ok image =>
      let (ended, flow) := runImage inner image (childState st)
      childStep st ended flow

/-- Splits a word at its first equals sign. -/
def namedValue (arg : String) : String × Option String := Text.cut '=' arg

/-- A number in an argument, or the given one without. -/
def countOf (args : List String) (otherwise : Nat) : Option Nat :=
  match args with
  | [] => some otherwise
  | arg :: _ => Number.readNat 10 arg.toList

/-- Sets the action of signals. -/
def setTraps (st : State) (action : String) (names : List String) : Step :=
  match names.filter fun name => (signal? name).isNone with
  | bad :: _ => (st.complain ("trap: " ++ bad ++ ": bad trap")).done 1
  | [] =>
    let numbers := names.filterMap signal?
    let kept := st.traps.filter fun t => !numbers.contains t.1
    { st with
      traps := if action = "-" then kept else numbers.map (·, action) ++ kept }.done 0

/-- Changes the directory; a dash stands for the one before, which is then written out. -/
def changeDirectory (st : State) (dir : String) : Step :=
  let path := if dir = "-" then (st.value? "OLDPWD").getD "" else dir
  match st.files.find path with
  | .ok (loc, .directory) =>
    let old := st.directory
    let st := { st with files := { st.files with current := loc } }
    let st := (st.setVariable "OLDPWD" old true).setVariable "PWD" st.directory true
    (if dir = "-" then st.sayText (st.directory ++ "\n") else st).done 0
  | _ => (st.commandMessage "cd" ("can't cd to " ++ path)).done 2

/-- Takes one line off the input. -/
def takeLine (st : State) (names : List String) : Step :=
  let line := Text.decodeLossy (st.input.takeWhile (· != 10))
  let rest := st.input.dropWhile (· != 10)
  let words := (Text.split ' ' (Text.trim line)).filter (· ≠ "")
  let assigned := (names.zipIdx).foldl
    (fun (st : State) (name, i) =>
      st.assign name
        (if i + 1 = names.length then Text.join " " (words.drop i) else words[i]?.getD ""))
    st
  { assigned with input := rest.drop 1 }.done (if rest.isEmpty then 1 else 0)

/-- Waits until every job has ended. -/
def waitForJobs (st : State) : Step :=
  let latest := (st.jobs.map (·.ends)).foldl max st.clock
  State.andThen (st.advance (latest - st.clock)) fun st => st.done 0

/-- Waits for one job and takes over its status. -/
def waitForJob (st : State) (process : Nat) : Step :=
  match st.jobs.find? fun j => j.process == process with
  | none => st.done 127
  | some job =>
    State.andThen (st.advance (job.ends - st.clock)) fun st =>
      (if 128 < job.status then st.tellSignal (job.status - 128) else st).done job.status

/-- Changes the shell's own options and arguments. -/
def setOptions (st : State) : List String → Step
  | [] => st.done 0
  | "--" :: args => { st with args }.done 0
  | arg :: rest =>
    match arg.toList with
    | '-' :: letters => setOptions (setLetters true letters st) rest
    | '+' :: letters => setOptions (setLetters false letters st) rest
    | _ => { st with args := arg :: rest }.done 0

/-- Declares variables: exported, fixed, or the function's own. -/
def declare (who : String) (st : State) (arg : String) : State :=
  let (name, value) := namedValue arg
  let st := if who = "local" then { st with saved := (name, st.lookup? name) :: st.saved } else st
  match st.lookup? name, value with
  | none, none => if who = "export" then st else st.assign name ""
  | old, _ =>
    st.putVariable
      { name
        value := value.getD ((old.map (·.value)).getD "")
        exported := who == "export" || (old.map (·.exported)).getD false
        fixed := who == "readonly" || (old.map (·.fixed)).getD false }

/-- What the shell does itself. -/
def builtinNames : List String :=
  ["echo", ":", "true", "false", "printf", "pwd", "kill", "test", "[", "exit", "return", "break",
    "continue", "cd", "export", "readonly", "local", "unset", "set", "shift", "read", "wait",
    "umask", "ulimit", "trap", "eval", ".", "exec", "command"]

/-- Runs a script that a command brought, under the name messages give it. -/
def runFor (inner : Inner) (caller text : String) (st : State) : Step :=
  let (ended, flow) := inner (Script.parse 1 text) { st with caller }
  ({ ended with caller := st.caller, line := st.line }, flow)

/-- The shell's own commands, `none` for any other. -/
def builtin? (inner : Inner) (name : String) (args : List String) (st : State) : Option Step :=
  match name with
  | "echo" => some (builtinEcho st args)
  | ":" | "true" | "false" | "printf" | "pwd" | "kill" | "test" | "[" => utility? name st args
  | "exit" =>
    match countOf args st.status with
    | some n => some ({ st with status := n % 256 }, .exit)
    | none => some (st.giveUp "exit" ("Illegal number: " ++ args.head?.getD ""))
  | "return" => some ({ st with status := (countOf args st.status).getD 2 % 256 }, .returned)
  | "break" => some ({ st with status := 0 }, .leave ((countOf args 1).getD 1))
  | "continue" => some ({ st with status := 0 }, .again ((countOf args 1).getD 1))
  | "cd" =>
    some (changeDirectory st ((args.filter (· ≠ "--")).head?.getD ((st.value? "HOME").getD "")))
  | "export" | "readonly" | "local" => some ((args.foldl (declare name) st).done 0)
  | "unset" => some ((args.foldl State.unset st).done 0)
  | "set" => some (setOptions st args)
  | "shift" =>
    let n := (countOf args 1).getD 1
    if st.args.length < n then some (st.giveUp "shift" "can't shift that many")
    else some ({ st with args := st.args.drop n }.done 0)
  | "read" => some (takeLine st (args.filter fun a => a.toList.head? != some '-'))
  | "wait" =>
    match args.head?.bind fun arg => Number.readNat 10 arg.toList with
    | some process => some (waitForJob st process)
    | none => some (waitForJobs st)
  | "umask" => some ((if args.isEmpty then st.sayText "0022\n" else st).done 0)
  | "ulimit" => some (st.done 0)
  | "trap" =>
    match args with
    | [] => some (st.done 0)
    | [one] => some (setTraps st "-" [one])
    | action :: names => some (setTraps st action names)
  | "eval" => some (runFor inner "eval" (Text.join " " args) { st with status := 0 })
  | "." =>
    let path := args.head?.getD ""
    match st.files.read path with
    | .error _ =>
      some (st.giveUp "." (if path.toList.contains '/' then
        "cannot open " ++ path ++ ": No such file" else path ++ ": not found"))
    | .ok content => some (runFor inner path (Text.decodeLossy content) st)
  | _ => none

/-- Says what a command name stands for. -/
def describeCommand (name : String) (st : State) : Step :=
  if builtinNames.contains name || (st.functions.lookup name).isSome then
    (st.sayText (name ++ "\n")).done 0
  else
    match if name.toList.contains '/' then some name else search? st.files st.searchPath name with
    | some path => (st.sayText (path ++ "\n")).done 0
    | none => st.done 127

/-- Calls a function with its own arguments. Its own variables end with it. -/
def callFunction (inner : Inner) (body : Script) (args : List String) (st : State) : Step :=
  let (ended, flow) := inner body { st with args, saved := [] }
  let restored := ended.saved.foldl
    (fun (st : State) (name, old) =>
      match old with
      | some v => st.putVariable v
      | none => st.unset name)
    ended
  ({ restored with args := st.args, saved := st.saved }, if flow = .returned then .next else flow)

/-- A command by its name: a function, one of the shell's own, or a program. -/
def dispatch (inner : Inner) (name : String) (args : List String) (st : State) : Step :=
  match st.functions.lookup name with
  | some body => callFunction inner body args st
  | none =>
    match builtin? inner name args st with
    | some step => step
    | none => runProgram inner name args st

/-- Gives variables their values, in order. -/
def assignAll (inner : Inner) (exported : Bool) :
    List (String × Word) → State → Except Step State
  | [], st => .ok st
  | (name, w) :: rest, st => do
    let (value, st) ← expandValue inner w st
    if (st.lookup? name).any (·.fixed) then abandon st (name ++ ": is read only")
    assignAll inner exported rest (st.setVariable name value (exported || st.isExported name))

/-- Runs the trap of a signal the shell sent to itself. -/
def afterKill (inner : Inner) (fields : List String) (step : Step) : Step :=
  match fields, step.2 with
  | "kill" :: args, .next =>
    match killTarget args with
    | .ok (signal, targets) =>
      if targets.contains (toString step.1.shellProcess) then
        match step.1.traps.lookup signal with
        | some action => inner (Script.parse 1 action) step.1
        | none => step
      else step
    | .error _ => step
  | _, _ => step

/-- A failure that nothing asked about ends a strict shell. -/
def strictly (step : Step) : Step :=
  let (st, flow) := step
  if flow = .next ∧ st.stopOnFailure ∧ !st.guarded ∧ st.status ≠ 0 then (st, .exit) else step

/-- Replaces the shell by a program. -/
def replaceShell (inner : Inner) (name : String) (args : List String) (st : State) : Step :=
  State.andThen (st.advance startCost) fun st =>
    match findImage st name args with
    | .error .notFound =>
      ({ st.shellMessage ("exec: " ++ name ++ ": not found") with status := 127 }, .exit)
    | .error cause =>
      ({ st.shellMessage ("exec: " ++ name ++ ": " ++ causeText cause) with status := 126 }, .exit)
    | .ok image =>
      let child := { childState st with
        shellProcess := st.shellProcess
        process := st.process
        nextProcess := st.nextProcess }
      match runImage inner image child with
      | (ended, .next) => (ended, .exit)
      | other => other

/-- Whether a name is neither a function nor one of the shell's own commands, and can be run. -/
def isProgram (st : State) (name : String) : Bool :=
  !builtinNames.contains name && (st.functions.lookup name).isNone &&
    (findImage st name []).toOption.isSome

/-- Runs a simple command. The last of a shell is replaced by its program, unless actions wait for
the end of the shell. -/
def runSimple (inner : Inner) (isLast : Bool) (assignments : List (String × Word))
    (words : List Word) (rs : List Redirect) (start : State) : Step :=
  State.andThen (start.advance commandCost) fun st =>
    match expandFields inner words st with
    | .error step => step
    | .ok ([], st) =>
      let st := if words.isEmpty then { st with status := 0 } else st
      match assignAll inner false assignments st with
      | .error step => step
      | .ok st => strictly (withRedirects inner rs st fun st => (st, .next))
    | .ok (["exec"], st) =>
      match redirectAll inner rs st with
      | .error step => step
      | .ok (.error message) => ({ st.shellMessage message with status := 2 }, .exit)
      | .ok (.ok st) => st.done 0
    | .ok (name :: args, st) =>
      strictly (withRedirects inner rs st fun st =>
        match assignAll inner true assignments st with
        | .error step => step
        | .ok ready =>
          let step := match name, args with
            | "exec", program :: args => replaceShell inner program args ready
            | "command", "-v" :: names => describeCommand (names.head?.getD "") ready
            | "command", program :: args =>
              match builtin? inner program args ready with
              | some step => step
              | none => runProgram inner program args ready
            | _, _ =>
              if isLast && st.traps.isEmpty && isProgram ready name then
                replaceShell inner name args ready
              else afterKill inner (name :: args) (dispatch inner name args ready)
          if assignments.isEmpty then step
          else
            let assigned := assignments.map (·.1)
            let old := st.vars.filter fun v => assigned.contains v.name
            let kept := step.1.vars.filter fun v => !assigned.contains v.name
            ({ step.1 with vars := old ++ kept }, step.2))

/-- Repeats a body while its condition holds. The first argument bounds how often; every turn
takes time, so that the time left is bound enough. -/
def repeatBody (condition body : State → Step) (whileFailing : Bool) :
    Nat → Nat → State → Step
  | 0, _, st => (st, .stopped)
  | turns + 1, last, st =>
    match st.advance commandCost with
    | (st', .next) =>
      match condition { st' with guarded := true } with
      | (asked, .next) =>
        let ready := { asked with guarded := st.guarded }
        if (asked.status == 0) == whileFailing then ({ ready with status := last }, .next)
        else
          match body ready with
          | (ended, .next) => repeatBody condition body whileFailing turns ended.status ended
          | (ended, .leave n) => (ended, if n ≤ 1 then .next else .leave (n - 1))
          | (ended, .again n) =>
            if n ≤ 1 then repeatBody condition body whileFailing turns ended.status ended
            else (ended, .again (n - 1))
          | other => other
      | (asked, .leave n) => (asked, if n ≤ 1 then .next else .leave (n - 1))
      | other => other
    | other => other

/-- Runs a body for each value of a variable. -/
def forEach (name : String) (body : State → Step) : List String → State → Step
  | [], st => (st, .next)
  | value :: rest, st =>
    match body (st.assign name value) with
    | (ended, .next) => forEach name body rest ended
    | (ended, .leave n) => (ended, if n ≤ 1 then .next else .leave (n - 1))
    | (ended, .again n) =>
      if n ≤ 1 then forEach name body rest ended else (ended, .again (n - 1))
    | other => other

/-- Whether one of the patterns matches the subject of a choice. -/
def anyMatches (inner : Inner) : List Word → State → Except Step (Bool × State)
  | [], st => .ok (false, st)
  | w :: rest, st => do
    let (gs, st) ← expandWord inner w st
    if patternMatches (glyphPattern gs) st.subject.toList then return (true, st)
    anyMatches inner rest st

/-- Runs a command whose failure is an answer. -/
def asking (f : State → Step) (st : State) : Step :=
  let (ended, flow) := f { st with guarded := true }
  ({ ended with guarded := st.guarded }, flow)

/-- A child of the shell itself. The shell's number stays that of the parent. -/
def inSubshell (f : State → Step) (st : State) : Step :=
  let child := { st with process := st.nextProcess, nextProcess := st.nextProcess + 1 }
  match f { child with traps := st.traps.filter fun t => t.2 == "" } with
  | (ended, .signalled n) => (st.rejoin ended, .signalled n)
  | (ended, flow) => childStep st ended flow

/-- Starts a command beside the shell. What it does counts from now on, what it writes at its own
times. -/
def startJob (f : State → Step) (st : State) : Step :=
  let child := { st with
    process := st.nextProcess
    nextProcess := st.nextProcess + 1
    input := []
    guarded := false }
  let (ended, flow) := f child
  let status := match flow with
    | .signalled n => 128 + n
    | _ => ended.status
  let job : Job := ⟨child.process, ended.clock, st.out == .pipe || st.err == .pipe, status⟩
  ({ st.rejoin ended with
      clock := st.clock
      input := st.input
      jobs := job :: ended.jobs
      lastJob := some child.process
      status := 0 }, .next)

/-- Joins the output of one command to the input of the next. -/
def joinPipe (first second : State → Step) (st : State) : Step :=
  let (left, flow) := inSubshell first { st with out := .capture, captured := [] }
  let middle := { st.rejoin left with captured := st.captured }
  match flow with
  | .next =>
    let (right, flow) := inSubshell second { middle with input := left.capturedBytes }
    ({ right with input := st.input, out := st.out }, flow)
  | _ => (middle, flow)

/-- Runs a script. -/
def run (inner : Inner) : Script → State → Step
  | .empty, st => (st, .next)
  | .simple assignments words rs, st => runSimple inner false assignments words rs st
  | .last assignments words rs, st => runSimple inner true assignments words rs st
  | .located line body, st => run inner body { st with line }
  | .sequence first second, st => State.andThen (run inner first st) (run inner second)
  | .background body, st => startJob (run inner body) st
  | .both first second, st =>
    State.andThen (asking (run inner first) st) fun st =>
      if st.status = 0 then run inner second st else (st, .next)
  | .either first second, st =>
    State.andThen (asking (run inner first) st) fun st =>
      if st.status = 0 then (st, .next) else run inner second st
  | .negated body, st =>
    State.andThen (asking (run inner body) st) fun st => st.done (if st.status = 0 then 1 else 0)
  | .pipe first second, st => joinPipe (run inner first) (run inner second) st
  | .group body rs, st => withRedirects inner rs st (run inner body)
  | .subshell body rs, st =>
    strictly (withRedirects inner rs st (inSubshell (run inner body)))
  | .branch condition yes no rs, st =>
    withRedirects inner rs st fun st =>
      State.andThen (asking (run inner condition) st) fun st =>
        if st.status = 0 then run inner yes st else run inner no { st with status := 0 }
  | .loop whileFailing condition body rs, st =>
    withRedirects inner rs st fun st =>
      repeatBody (run inner condition) (run inner body) whileFailing
        ((st.deadline - st.clock) / commandCost + 1) 0 st
  | .each name words body rs, st =>
    withRedirects inner rs st fun st =>
      match words with
      | none => forEach name (run inner body) st.args { st with status := 0 }
      | some ws =>
        match expandFields inner ws st with
        | .error step => step
        | .ok (values, st) => forEach name (run inner body) values { st with status := 0 }
  | .choose subject arms rs, st =>
    withRedirects inner rs st fun st =>
      match expandValue inner subject st with
      | .error step => step
      | .ok (text, st) =>
        let (ended, flow) := run inner arms { st with subject := text, status := 0 }
        ({ ended with subject := st.subject }, flow)
  | .arm ps body others, st =>
    match anyMatches inner ps st with
    | .error step => step
    | .ok (true, st) => run inner body st
    | .ok (false, st) => run inner others st
  | .define name body, st =>
    { st with functions := (name, body) :: st.functions.filter (·.1 != name) }.done 0
  | .fault line e, st =>
    ({ { st with line }.shellMessage ("Syntax error: " ++ e.message) with status := 2 }, .exit)

/-- The runner at a depth; scripts nested deeper are refused. -/
def runAt : Nat → Inner
  | 0 => fun _ st => ({ st.shellMessage "Maximum depth reached" with status := 2 }, .exit)
  | depth + 1 => run (runAt depth)

/-- How deep scripts may lie inside each other. -/
def scriptDepth : Nat := 64

/-- Runs a program from its start. -/
def start (image : Image) (st : State) : Step :=
  State.andThen (st.advance startCost) fun st => runImage (runAt scriptDepth) image st

end KernelSweep.Shell
