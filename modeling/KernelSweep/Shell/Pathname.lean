import KernelSweep.FileSystem
import KernelSweep.Shell.Pattern

set_option autoImplicit false

namespace KernelSweep.Shell

/-- A character that makes a pattern of a field. -/
def PatternChar.isSpecial (c : PatternChar) : Bool :=
  !c.quoted && (c.char == '*' || c.char == '?' || c.char == '[')

def plainField (cs : List PatternChar) : String := String.ofList (cs.map (·.char))

/-- The names in a directory that a component matches. A name that starts with a dot is matched
only by a dot. -/
def matchingNames (files : FileSystem) (dir : String) (component : List PatternChar) :
    List String :=
  match files.find (if dir = "" then "." else dir) with
  | .ok (loc, .directory) =>
    let items := patternItems component
    let namesHidden := (component.head?.map (·.char)) == some '.'
    (files.namesIn loc).filter fun name =>
      (namesHidden || name.toList.head? != some '.') && patternMatches items name.toList
  | _ => []

/-- Paths from `dir` on that match the components. -/
def pathsFrom (files : FileSystem) : List (List PatternChar) → String → List String
  | [], dir => [dir]
  | [component], dir =>
    if component.any PatternChar.isSpecial then
      (matchingNames files dir component).map (dir ++ ·)
    else
      let path := dir ++ plainField component
      match files.find (if component.isEmpty then dir else path) with
      | .ok _ => [path]
      | .error _ => []
  | component :: rest, dir =>
    let names :=
      if component.any PatternChar.isSpecial then matchingNames files dir component
      else [plainField component]
    names.flatMap fun name =>
      match files.find (dir ++ name ++ "/") with
      | .ok (_, .directory) => pathsFrom files rest (dir ++ name ++ "/")
      | _ => []

/-- The fields one field stands for. -/
def pathnames (files : FileSystem) (field : List PatternChar) : List String :=
  if field.any PatternChar.isSpecial then
    match pathsFrom files (Text.splitList (·.char == '/') field) "" with
    | [] => [plainField field]
    | paths => paths
  else [plainField field]

end KernelSweep.Shell
