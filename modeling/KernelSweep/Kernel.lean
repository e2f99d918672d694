import KernelSweep.Setting
import KernelSweep.Text.Blank
import KernelSweep.Text.Quoted

set_option autoImplicit false

namespace KernelSweep

structure Kernel where
  suite : String
  name : String
  pinned : Option String
  deriving DecidableEq, Repr

inductive EntryCause where
  | emptyName
  | emptyDirection
  deriving DecidableEq, Repr

structure EntryError where
  suite : String
  entry : String
  cause : EntryCause
  deriving DecidableEq, Repr

def EntryCause.message : EntryCause → String
  | .emptyName => "empty kernel name"
  | .emptyDirection => "empty direction override"

def EntryError.message (e : EntryError) : String :=
  "suite " ++ Text.quoted e.suite ++ " entry " ++ Text.quoted e.entry ++ ": " ++ e.cause.message

namespace Kernel

/-- Reads an entry: blanks around the name and around the direction do not count. -/
def parse (suite entry : String) : Except EntryError Kernel :=
  let (before, after) := Text.cut ':' entry
  let name := Text.trim before
  if name = "" then .error ⟨suite, entry, .emptyName⟩
  else
    match after.map Text.trim with
    | none => .ok ⟨suite, name, none⟩
    | some direction =>
      if direction = "" then .error ⟨suite, entry, .emptyDirection⟩
      else .ok ⟨suite, name, some direction⟩

/-- Reads the entries in order; the first that cannot be read is the answer. -/
def parseAll (suite : String) (entries : List String) : Except EntryError (List Kernel) :=
  entries.mapM (parse suite)

/-- The setting the kernel runs with: a pinned direction replaces the given one. -/
def apply (k : Kernel) (s : Setting) : Setting :=
  match k.pinned with
  | none => s
  | some direction => s.withDirection direction

/-- The entry that reads back as this kernel. -/
def text (k : Kernel) : String :=
  match k.pinned with
  | none => k.name
  | some direction => k.name ++ ":" ++ direction

end Kernel

end KernelSweep
