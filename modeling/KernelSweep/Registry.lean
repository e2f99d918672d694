import KernelSweep.Profile
import KernelSweep.Text.Blank
import KernelSweep.Text.Lower

set_option autoImplicit false

namespace KernelSweep

structure Registry where
  entries : List (String × Profile)
  deriving DecidableEq, Repr

structure UnknownProfile where
  name : String
  known : List String
  deriving DecidableEq, Repr

def UnknownProfile.message (e : UnknownProfile) : String :=
  "unknown architecture profile: " ++ Text.quoted e.name ++ " (known: " ++
    Text.join ", " e.known ++ ")"

namespace Registry

/-- Puts a value at its place in an ascending table, over one with the same key. -/
def insertKey {α : Type} (key : String) (value : α) : List (String × α) → List (String × α)
  | [] => [(key, value)]
  | (k, v) :: rest =>
    if key < k then (key, value) :: (k, v) :: rest
    else if k = key then (key, value) :: rest
    else (k, v) :: insertKey key value rest

/-- Registers a profile under a name, which also becomes the profile's own. -/
def add (r : Registry) (name : String) (p : Profile) : Registry :=
  let key := Text.lower name
  ⟨insertKey key { p with name := key } r.entries⟩

def names (r : Registry) : List String := r.entries.map Prod.fst

def lookup (r : Registry) (name : String) : Except UnknownProfile Profile :=
  match r.entries.lookup (Text.lower name) with
  | some p => .ok p
  | none => .error ⟨name, r.names⟩

def builtIn : Registry :=
  ⟨[(Profile.kepler.name, .kepler), (Profile.maxwell.name, .maxwell),
    (Profile.pascal.name, .pascal)]⟩

end Registry

end KernelSweep
