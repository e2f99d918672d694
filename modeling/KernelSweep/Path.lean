import KernelSweep.Text.Blank

set_option autoImplicit false

namespace KernelSweep.Path

def isRooted (path : String) : Bool := path.toList.head? == some '/'

/-- Adds one component to a normalised path given last component first. -/
def push (rooted : Bool) (stack : List String) (part : String) : List String :=
  if part = "" ∨ part = "." then stack
  else if part = ".." then
    match stack with
    | [] => if rooted then [] else [".."]
    | top :: below => if top = ".." then ".." :: top :: below else below
  else part :: stack

/-- The components of the normal form. -/
def components (path : String) : List String :=
  ((Text.split '/' path).foldl (push (isRooted path)) []).reverse

def render (rooted : Bool) (parts : List String) : String :=
  if rooted then "/" ++ Text.join "/" parts
  else if parts.isEmpty then "."
  else Text.join "/" parts

/-- The normal form of a path; the empty path is the current directory. -/
def clean (path : String) : String := render (isRooted path) (components path)

/-- The normal form of `dir/name`, an empty side being left out. -/
def join (dir name : String) : String :=
  if dir = "" then if name = "" then "" else clean name
  else clean (dir ++ "/" ++ name)

end KernelSweep.Path
