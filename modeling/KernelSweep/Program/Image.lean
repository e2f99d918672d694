import KernelSweep.FileSystem
import KernelSweep.Text.Blank

set_option autoImplicit false

namespace KernelSweep.Program

/-- A program and its arguments, the first being the name it was called by. -/
structure Image where
  program : String
  called : String
  args : List String
  deriving DecidableEq, Repr

/-- The interpreter of a script and the one argument it may have. -/
def interpreter? (content : List UInt8) : Option (String × List String) :=
  match (Text.decodeLossy (content.takeWhile (· != 10))).toList with
  | '#' :: '!' :: rest =>
    let isBlank (c : Char) := c == ' ' || c == '\t'
    let line := Text.trimList isBlank rest
    let path := line.takeWhile (!isBlank ·)
    let arg := (line.dropWhile (!isBlank ·)).dropWhile isBlank
    if path.isEmpty then none
    else some (String.ofList path, if arg.isEmpty then [] else [String.ofList arg])
  | _ => none

/-- Follows interpreters. The first argument bounds how many scripts may interpret each other. -/
def imageAt : Nat → FileSystem → String → String → List String → Except FileCause Image
  | depth, files, path, called, args =>
    match files.find path with
    | .error cause => .error cause
    | .ok (_, .program name) => .ok ⟨name, called, args⟩
    | .ok (_, .file content mode) =>
      if !(Node.file content mode).isExecutable then .error .permissionDenied
      else
        match depth, interpreter? content with
        | depth + 1, some (program, option) =>
          imageAt depth files program program (option ++ path :: args)
        | _, _ => .error .execFormat
    | .ok (_, .directory) | .ok (_, .sink) => .error .permissionDenied

/-- Scripts that may interpret each other. -/
def interpreterLimit : Nat := 5

def image (files : FileSystem) (path : String) (args : List String) : Except FileCause Image :=
  imageAt interpreterLimit files path path args

/-- Looks a name up in the directories of a search path. A part of the path left empty is the
current directory. -/
def search? (files : FileSystem) (dirs : List String) (name : String) : Option String :=
  (dirs.map fun dir => if dir = "" then "./" ++ name else Path.join dir name).find? fun path =>
    match files.find path with
    | .ok (_, node) => node.isExecutable
    | .error _ => false

end KernelSweep.Program
