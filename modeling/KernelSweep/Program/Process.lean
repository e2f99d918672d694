import KernelSweep.Program.Execute
import KernelSweep.Shell.Run
import KernelSweep.Text.Quoted

set_option autoImplicit false

namespace KernelSweep.Program

inductive LaunchError where
  | noCommand
  | zeroInEnvironment
  | notInSearchPath (name : String)
  | noDirectory (dir : String) (cause : FileCause)
  | start (path : String) (cause : FileCause)
  deriving DecidableEq, Repr

def LaunchError.message : LaunchError → String
  | .noCommand => "exec: no command"
  | .zeroInEnvironment => "exec: environment variable contains NUL"
  | .notInSearchPath name => "exec: " ++ Text.quoted name ++ ": executable file not found in $PATH"
  | .noDirectory dir cause => "chdir " ++ dir ++ ": " ++ cause.message
  | .start path cause => "fork/exec " ++ path ++ ": " ++ cause.message

/-- A path, or a name found in the parent's search path. -/
def commandPath (inherited : List Text.Bytes) (files : FileSystem) (name : String) :
    Except LaunchError String :=
  if name = "" then .error .noCommand
  else if name.toList.contains '/' then .ok name
  else
    let vars := Shell.State.variablesOf (inherited.map Text.decodeLossy)
    let dirs := match vars.find? (·.name == "PATH") with
      | some v => if v.value = "" then [] else Text.split ':' v.value
      | none => []
    match search? files dirs name with
    | some path => .ok path
    | none => .error (.notInSearchPath name)

/-- A zero ends a text for the operating system and cannot be part of one. -/
def hasZero (s : String) : Bool := s.toList.contains '\x00'

/-- That the directory of a command exists is checked before it starts. -/
def checkDirectory (files : FileSystem) (dir : String) : Except LaunchError Unit :=
  if dir = "" then .ok ()
  else
    match files.find dir with
    | .error cause => .error (.noDirectory dir cause)
    | .ok _ => .ok ()

/-- Enters the directory of a command. That it is one is checked only when the program starts. -/
def enterDirectory (files : FileSystem) (path dir : String) : Except LaunchError FileSystem :=
  if dir = "" then .ok files
  else
    match files.find dir with
    | .error cause => .error (.noDirectory dir cause)
    | .ok (loc, .directory) => .ok { files with current := loc }
    | .ok _ => .error (.start path .notDirectory)

/-- The entries a program starts with. -/
def entriesOf (l : Launch) : List Text.Bytes := l.command.env.getD l.inherited

/-- The program of a command, and the files as it finds them. -/
def launch (l : Launch) : Except LaunchError (Image × FileSystem) := do
  let c := l.command
  let path ← commandPath l.inherited l.files c.path
  if (entriesOf l).any (·.contains 0) then throw .zeroInEnvironment
  checkDirectory l.files c.dir
  if (path :: c.args).any hasZero then throw (.start path .invalid)
  let inside ← enterDirectory l.files path c.dir
  match image inside path c.args with
  | .error cause => throw (.start path cause)
  | .ok image =>
    let called := if image.called = path then c.path else image.called
    return ({ image with called }, inside)

/-- When nothing holds the output of a program open any more. -/
def closingTime (st : Shell.State) : Nat :=
  ((st.jobs.filter (·.holdsPipe)).map (·.ends)).foldl max st.clock

/-- When the end of a program is known: its output has to be closed too, but not for ever. -/
def completionTime (waitDelay : Duration) (st : Shell.State) : Nat :=
  if waitDelay = .zero then closingTime st
  else min (closingTime st) (st.clock + span waitDelay)

/-- What was written up to a time, in the order of its writing. -/
def outputUntil (time : Nat) (chunks : List Shell.Chunk) : Text.Bytes :=
  let inOrder := chunks.reverse.mergeSort fun a b => decide (a.time ≤ b.time)
  (inOrder.filter fun c => decide (c.time ≤ time)).flatMap (·.bytes)

def exitOf (st : Shell.State) : Shell.Flow → Int64
  | .signalled _ | .stopped => -1
  | _ => Int64.ofNat st.status

def startState (l : Launch) (inside : FileSystem) : Shell.State where
  files := inside
  deadline := l.stopsAt
  vars := Shell.State.variablesOf ((entriesOf l).map Text.decodeLossy)

/-- A program as the shell runs it. Its directory does not outlast it, and nobody looks at its
memory. -/
def childOf (l : Launch) (image : Image) (inside : FileSystem) : Child :=
  let (st, flow) := Shell.start image (startState l inside)
  let time := completionTime l.waitDelay st
  let reaped : Reaped := ⟨some (exitOf st flow), decide (closingTime st ≤ time)⟩
  { ends :=
      if flow = .stopped then none
      else some ⟨reaped, outputUntil time st.chunks, ⟨Int64.ofNat time⟩⟩
    killed := fun time => ⟨⟨some (-1), true⟩, outputUntil time st.chunks, ⟨Int64.ofNat time⟩⟩
    memory := fun _ => none
    leaves := fun _ => { st.files with current := l.files.current } }

/-- A stand-in for an operating system: what is started is a shell. -/
def shellSystem : System where
  start _ l :=
    match launch l with
    | .error e => .error e.message
    | .ok (image, inside) => .ok (childOf l image inside)
  interrupt _ := none

end KernelSweep.Program
