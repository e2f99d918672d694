import KernelSweep.Path
import KernelSweep.Text.Utf8

set_option autoImplicit false

namespace KernelSweep

/-- Components below the root, outermost first. -/
abbrev Location := List String

inductive Node where
  | file (content : List UInt8) (mode : Nat)
  | directory
  | program (name : String)
  | sink
  deriving DecidableEq, Repr

namespace Node

/-- Any of the three execute permissions. -/
def isExecutable : Node → Bool
  | .file _ mode => mode % 2 == 1 || mode / 8 % 2 == 1 || mode / 64 % 2 == 1
  | .program _ => true
  | .directory | .sink => false

def isDirectory : Node → Bool
  | .directory => true
  | _ => false

end Node

inductive FileCause where
  | notFound
  | notDirectory
  | isDirectory
  | notEmpty
  | nameTooLong
  | invalid
  | permissionDenied
  /-- An executable file that is no program. -/
  | execFormat
  | alreadyExists
  deriving DecidableEq, Repr

def FileCause.message : FileCause → String
  | .notFound => "no such file or directory"
  | .notDirectory => "not a directory"
  | .isDirectory => "is a directory"
  | .notEmpty => "directory not empty"
  | .nameTooLong => "file name too long"
  | .invalid => "invalid argument"
  | .permissionDenied => "permission denied"
  | .execFormat => "exec format error"
  | .alreadyExists => "file exists"

inductive FileOperation where
  | opening
  | reading
  | removing
  deriving DecidableEq, Repr

def FileOperation.name : FileOperation → String
  | .opening => "open"
  | .reading => "read"
  | .removing => "remove"

structure FileError where
  operation : FileOperation
  path : String
  cause : FileCause
  deriving DecidableEq, Repr

def FileError.message (e : FileError) : String :=
  e.operation.name ++ " " ++ e.path ++ ": " ++ e.cause.message

/-- Permissions tell programs from other files and no more: every regular file can be read, and
removed. -/
structure FileSystem where
  nodes : List (Location × Node)
  /-- Where relative paths start. -/
  current : Location
  deriving Repr

namespace FileSystem

def node? (files : FileSystem) (loc : Location) : Option Node :=
  if loc = [] then some .directory else files.nodes.lookup loc

def erase (files : FileSystem) (loc : Location) : FileSystem :=
  { files with nodes := files.nodes.filter fun entry => entry.1 != loc }

def insert (files : FileSystem) (loc : Location) (node : Node) : FileSystem :=
  { files with nodes := (loc, node) :: (files.erase loc).nodes }

/-- Some node lies strictly below `loc`. -/
def hasChildren (files : FileSystem) (loc : Location) : Bool :=
  files.nodes.any fun entry => decide (loc.length < entry.1.length) && loc.isPrefixOf entry.1

/-- Longest component, in bytes. -/
def nameLimit : Nat := 255

/-- A path of this many bytes or more is refused. -/
def pathLimit : Nat := 4096

/-- Follows components from a directory. Everything but the last has to be a directory; the last
need not exist. -/
def walk (files : FileSystem) : Location → List String → Except FileCause Location
  | loc, [] => .ok loc
  | loc, part :: rest =>
    if (files.node? loc).map Node.isDirectory == some false then .error .notDirectory
    else if (files.node? loc).isNone then .error .notFound
    else if part = "" ∨ part = "." then walk files loc rest
    else if part = ".." then walk files loc.dropLast rest
    else if nameLimit < part.utf8ByteSize then .error .nameTooLong
    else walk files (loc ++ [part]) rest

/-- The location a path names. -/
def resolve (files : FileSystem) (path : String) : Except FileCause Location :=
  if path = "" then .error .notFound
  else if path.toList.any (· == '\x00') then .error .invalid
  else if pathLimit ≤ path.utf8ByteSize then .error .nameTooLong
  else walk files (if Path.isRooted path then [] else files.current) (Text.split '/' path)

/-- The node a path names. -/
def find (files : FileSystem) (path : String) : Except FileCause (Location × Node) :=
  match files.resolve path with
  | .error cause => .error cause
  | .ok loc =>
    match files.node? loc with
    | some node => .ok (loc, node)
    | none => .error .notFound

/-- The whole content of a file. A directory can be opened but not read. -/
def read (files : FileSystem) (path : String) : Except FileError (List UInt8) :=
  match files.find path with
  | .error cause => .error ⟨.opening, path, cause⟩
  | .ok (_, .directory) => .error ⟨.reading, path, .isDirectory⟩
  | .ok (_, .file content _) => .ok content
  | .ok (_, .program _) | .ok (_, .sink) => .ok []

/-- Removes a file or an empty directory. -/
def remove (files : FileSystem) (path : String) : Except FileError FileSystem :=
  match files.find path with
  | .error cause => .error ⟨.removing, path, cause⟩
  | .ok (loc, .directory) =>
    if files.hasChildren loc then .error ⟨.removing, path, .notEmpty⟩ else .ok (files.erase loc)
  | .ok (loc, _) => .ok (files.erase loc)

/-- Replaces or creates a file, keeping the mode of one that exists. -/
def write (files : FileSystem) (path : String) (content : List UInt8) :
    Except FileError FileSystem :=
  match files.resolve path with
  | .error cause => .error ⟨.opening, path, cause⟩
  | .ok loc =>
    match files.node? loc with
    | some .directory => .error ⟨.opening, path, .isDirectory⟩
    | some (.file _ mode) => .ok (files.insert loc (.file content mode))
    | some _ => .ok files
    | none => .ok (files.insert loc (.file content 0o644))

/-- Makes a directory and those above it, as far as they are missing. -/
def makeDirectories (files : FileSystem) (loc : Location) : FileSystem :=
  (List.range (loc.length + 1)).foldl
    (fun files depth =>
      let above := loc.take depth
      if (files.node? above).isSome then files else files.insert above .directory)
    files

/-- Puts a file in place, with the directories above it. -/
def place (files : FileSystem) (loc : Location) (content : List UInt8) (mode : Nat) : FileSystem :=
  (files.makeDirectories loc.dropLast).insert loc (.file content mode)

/-- The location of a rooted path in normal form. -/
def locationOf (path : String) : Location := Path.components path

/-- The names right below a directory, in order. -/
def namesIn (files : FileSystem) (loc : Location) : List String :=
  let names := files.nodes.filterMap fun (place, _) =>
    if loc.isPrefixOf place && place.length == loc.length + 1 then place.getLast? else none
  names.mergeSort fun a b => decide (a ≤ b)

/-- Programs every system has. -/
def standardPrograms : List String :=
  ["sh", "true", "false", "echo", "cat", "sleep", "printf", "kill", "pwd", "ls", "env", "mkdir",
    "rm", "touch", "test", "[", "chmod", "cp", "mv", "head", "tail", "wc", "sort", "seq", "tr",
    "yes", "basename", "dirname", "grep"]

/-- A system with its usual directories and programs. -/
def standard : FileSystem where
  nodes :=
    [(["tmp"], .directory), (["bin"], .directory), (["usr"], .directory),
      (["usr", "bin"], .directory), (["dev"], .directory), (["dev", "null"], .sink),
      (["root"], .directory), (["work"], .directory)] ++
    standardPrograms.map (fun name => (["bin", name], Node.program name)) ++
    standardPrograms.map (fun name => (["usr", "bin", name], Node.program name))
  current := ["work"]

end FileSystem

end KernelSweep
