import KernelSweep.Config.Basic

set_option autoImplicit false

namespace KernelSweep.Config

inductive Problem where
  | noSuites
  | noPath (index : Nat)
  | noKernels (path : String)
  | badEntry (e : EntryError)
  | emptyDimension (name : String)
  | repeatedValue (name value : String)
  | notPositive (name value : String)
  | scalarNotPositive (name : String) (value : Int64)
  | unknownProfile (e : UnknownProfile)
  | binder (e : BinderError)
  deriving DecidableEq, Repr

def Problem.message (p : Problem) : String :=
  "invalid configuration: " ++
    match p with
    | .noSuites => "no test suites"
    | .noPath index => "suite " ++ toString index ++ " has no path"
    | .noKernels path => "suite " ++ Text.quoted path ++ " has no kernels"
    | .badEntry e => e.message
    | .emptyDimension name => name ++ " is empty"
    | .repeatedValue name value => name ++ " has duplicate value " ++ Text.quoted value
    | .notPositive name value =>
      name ++ " value " ++ Text.quoted value ++ " is not a positive integer"
    | .scalarNotPositive name value =>
      name ++ " must be positive, got " ++ Number.decimal value
    | .unknownProfile e => e.message
    | .binder e => e.message

def problemsMessage (ps : List Problem) : String := Text.join "\n" (ps.map Problem.message)

/-- A text that reads as an integer above zero. -/
def isPositive (value : String) : Bool :=
  match Number.readInt64 value.toList with
  | some n => decide (0 < n)
  | none => false

def suiteProblems (index : Nat) (s : Suite) : List Problem :=
  (if s.path = "" then [.noPath index] else []) ++
    (if s.kernels.isEmpty then [.noKernels s.path] else []) ++
    match s.parsed with
    | .ok _ => []
    | .error e => [.badEntry e]

def suitesProblems : Nat → List Suite → List Problem
  | _, [] => []
  | index, s :: rest => suiteProblems index s ++ suitesProblems (index + 1) rest

/-- Problems of the values after those in `seen`. -/
def valueProblems (name : String) (positive : Bool) : List String → List String → List Problem
  | _, [] => []
  | seen, v :: rest =>
    (if seen.contains v then [.repeatedValue name v] else []) ++
      (if positive && !isPositive v then [.notPositive name v] else []) ++
      valueProblems name positive (v :: seen) rest

def dimensionProblems (name : String) (positive : Bool) (values : List String) : List Problem :=
  (if values.isEmpty then [.emptyDimension name] else []) ++ valueProblems name positive [] values

def scalarProblems (name : String) (value : Int64) : List Problem :=
  if value ≤ 0 then [.scalarNotPositive name value] else []

/-- The profile has to be known and the binder has to build. -/
def binderProblems (c : Config) : List Problem :=
  match c.binderSpec false [] with
  | .error e => [.unknownProfile e]
  | .ok spec =>
    match spec.build with
    | .error e => [.binder e]
    | .ok _ => []

def problems (c : Config) : List Problem :=
  (if c.suites.isEmpty then [.noSuites] else []) ++
    suitesProblems 0 c.suites ++
    dimensionProblems "directions" false c.directions ++
    dimensionProblems "factors" true c.factors ++
    dimensionProblems "strides" true c.strides ++
    dimensionProblems "modelFactors" true c.modelFactors ++
    scalarProblems "maxCoarseningFactor" c.maxCoarseningFactor ++
    scalarProblems "warpSize" c.warpSize ++
    scalarProblems "cacheLineSize" c.cacheLineSize ++
    scalarProblems "timeoutSeconds" c.timeoutSeconds ++
    binderProblems c

end KernelSweep.Config
