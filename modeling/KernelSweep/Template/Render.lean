import KernelSweep.Template.Node

set_option autoImplicit false

namespace KernelSweep.Template

open KernelSweep.Text (Bytes)

inductive RenderCause where
  | noField (name type : String)
  | fieldArguments (name : String)
  | notFunction (shown : String)
  | absentCommand
  | overflow (shown : String)
  | undefinedVariable (name : String)
  | tooFewArguments (f : Function) (least found : Nat)
  | argumentCount (f : Function) (wanted found : Nat)
  | notText (shown : String)
  | nilText
  | absentText
  | wrongType (found : String)
  | call (f : Function) (e : CallError)
  | notIterable (shown : Bytes)
  | twoVariables (shown : Bytes)
  | noTemplate (name : Bytes)
  | tooDeep
  deriving DecidableEq, Repr

/-- How many templates may stand inside each other. -/
def maxDepth : Nat := 100000

def RenderCause.message : RenderCause → String
  | .noField name type => "can't evaluate field " ++ name ++ " in type " ++ type
  | .fieldArguments name => name ++ " has arguments but cannot be invoked as function"
  | .notFunction shown => "can't give argument to non-function " ++ shown
  | .absentCommand => "nil is not a command"
  | .overflow shown => shown ++ " overflows int"
  | .undefinedVariable name => "undefined variable: " ++ name
  | .tooFewArguments f least found =>
    "wrong number of args for " ++ f.name ++ ": want at least " ++ toString least ++ " got " ++
      toString found
  | .argumentCount f wanted found =>
    "wrong number of args for " ++ f.name ++ ": want " ++ toString wanted ++ " got " ++
      toString found
  | .notText shown => "expected string; found " ++ shown
  | .nilText => "cannot assign nil to string"
  | .absentText => "invalid value; expected string"
  | .wrongType found => "wrong type for value; expected string; got " ++ found
  | .call f e => "error calling " ++ f.name ++ ": " ++ e.message
  | .notIterable shown => "range can't iterate over " ++ Text.decodeLossy shown
  | .twoVariables shown =>
    "can't use " ++ Text.decodeLossy shown ++ " to iterate over more than one variable"
  | .noTemplate name => "template " ++ Text.quotedBytes name ++ " not defined"
  | .tooDeep => "exceeded maximum template depth (" ++ toString maxDepth ++ ")"

structure RenderError where
  template : Bytes
  mark : Mark
  cause : RenderCause
  deriving DecidableEq, Repr

/-- Places are given in the text that was read under `name`. -/
def RenderError.message (name : String) (e : RenderError) : String :=
  "template: " ++ name ++ ":" ++ toString e.mark.position.line ++ ":" ++
    toString e.mark.position.column ++ ": executing " ++ Text.quotedBytes e.template ++ " at <" ++
    e.mark.shown ++ ">: " ++ e.cause.message

namespace Render

structure State where
  template : Bytes
  /-- The part being worked on. -/
  current : Mark
  /-- Newest first. -/
  scope : List (String × Value)

abbrev Eval := StateT State (Except RenderError)

def fail {α : Type} (cause : RenderCause) : Eval α := do
  let s ← get
  throw ⟨s.template, s.current, cause⟩

def visit (mark : Mark) : Eval Unit := modify fun s => { s with current := mark }

/-- One field of a value. Only records have fields, and a field takes no arguments; what is absent
has every field, absent as well. -/
def fieldOf (hasArguments : Bool) (name : String) : Value → Eval Value
  | .absent => return .absent
  | .record type fields =>
    match fields.lookup name with
    | some v => if hasArguments then fail (.fieldArguments name) else return v
    | none => fail (.noField name type)
  | v => fail (.noField name v.typeName)

/-- Follows fields one after the other; arguments are for the last one. -/
def follow (hasArguments : Bool) : Value → List String → Eval Value
  | v, [] => return v
  | v, [name] => fieldOf hasArguments name v
  | v, name :: rest => do follow hasArguments (← fieldOf false name v) rest

def variableValue (name : String) : Eval Value := do
  match (← get).scope.lookup name with
  | some v => return v
  | none => fail (.undefinedVariable name)

/-- Puts a value in the newest place of that name. -/
def replaced (name : String) (v : Value) : List (String × Value) → List (String × Value)
  | [] => []
  | (n, old) :: rest => if n = name then (n, v) :: rest else (n, old) :: replaced name v rest

def assign (name : String) (v : Value) : Eval Unit := do
  let _ ← variableValue name
  modify fun s => { s with scope := replaced name v s.scope }

def declare (name : String) (v : Value) : Eval Unit :=
  modify fun s => { s with scope := (name, v) :: s.scope }

/-- Variables made inside end with it; a value given to an older one stays. -/
def inScope {α : Type} (p : Eval α) : Eval α := do
  let size := (← get).scope.length
  let a ← p
  modify fun s => { s with scope := s.scope.drop (s.scope.length - size) }
  return a

/-- Keeps a value in variables. -/
def keep (isNew : Bool) (names : List String) (v : Value) : Eval Unit :=
  names.forM fun name => if isNew then declare name v else assign name v

/-- The one parameter that takes nothing but a text. -/
def wantsText (f : Function) (index : Nat) : Bool := f == .printf && index == 0

def checked (wantsText : Bool) (v : Value) : Eval Value :=
  match wantsText, v with
  | true, .absent => fail .absentText
  | true, v => if v.isText then return v else fail (.wrongType v.typeName)
  | false, v => return v

def isShortCut (f : Function) : Bool := f == .and || f == .or

/-- A value from an earlier command counts as an argument, but is left out when there are too
few. -/
def checkCount (f : Function) (written : Nat) (final : Option Value) : Eval Unit := do
  let total := written + final.toList.length
  match f.arity with
  | .exactly n => if total ≠ n then fail (.argumentCount f n total)
  | .atLeast n => if total < n then fail (.tooFewArguments f n written)

/-- The value of a constant. -/
def constant (mark : Mark) : Option Value → Eval Value
  | some v => return v
  | none => fail (.overflow mark.shown)

/-- A constant where only a text may stand. -/
def textConstant (mark : Mark) : Option Value → Eval Value
  | some (.text s) => return .text s
  | _ => fail (.notText mark.shown)

/-- A part that is no function takes no arguments. -/
def notFunction (mark : Mark) (hasArguments : Bool) : Eval Unit := do
  if hasArguments then fail (.notFunction mark.shown)

/-- How the first argument of a call reads. -/
def calledText (arguments : List Operand) (final : Option Value) : String :=
  match arguments, final with
  | o :: _, _ => o.mark.shown
  | [], some (.text s) => Text.decodeLossy s
  | [], some .absent => "<invalid Value>"
  | [], some v => "<" ++ v.typeName ++ " Value>"
  | [], none => ""

/-- Calls a function with evaluated arguments and the value of the command before it. -/
def finishCall (mark : Mark) (f : Function) (called : String) (final : Option Value)
    (vs : List Value) : Eval Value := do
  let last ← final.toList.mapM (checked (wantsText f vs.length))
  match f.apply called (vs ++ last) with
  | .ok v => return v
  | .error e => do
    visit mark
    fail (.call f e)

mutual

def pipeline (dot : Value) : Pipeline → Eval Value
  | .mk mark keptIn isNew commands => do
    visit mark
    let v ← commandsFrom dot none commands
    keep isNew keptIn v
    return v

def commandsFrom (dot : Value) (final : Option Value) : List Command → Eval Value
  | [] => return final.getD .absent
  | c :: rest => do
    let v ← command dot final c
    commandsFrom dot (some v) rest

def command (dot : Value) (final : Option Value) : Command → Eval Value
  | .mk mark head arguments => do
    let hasArguments := !arguments.isEmpty || final.isSome
    match head with
    | .field m names => do
      visit m
      follow hasArguments dot names
    | .chain m base fields => do
      visit m
      follow hasArguments (← operand dot false base) fields
    | .variable m name fields => do
      visit m
      let v ← variableValue name
      if fields.isEmpty then notFunction m hasArguments
      follow hasArguments v fields
    | .function m f => do
      visit m
      checkCount f arguments.length final
      if isShortCut f then do
        let (v, decided) ← shortCut dot (f == .or) .absent arguments
        return if decided then v else final.getD v
      else do
        let vs ← operands dot f 0 arguments
        finishCall mark f (calledText arguments final) final vs
    | .group m inner => do
      notFunction m hasArguments
      pipeline dot inner
    | .dot m => do
      visit m
      notFunction m hasArguments
      return dot
    | .absent m => do
      visit m
      notFunction m hasArguments
      fail .absentCommand
    | .constant m v => do
      visit m
      notFunction m hasArguments
      constant m v

/-- The value of an operand as an argument. -/
def operand (dot : Value) (wantsText : Bool) : Operand → Eval Value
  | .dot m => do
    visit m
    checked wantsText dot
  | .absent m => do
    visit m
    if wantsText then fail .nilText else return .absent
  | .constant m v => do
    visit m
    if wantsText then textConstant m v else constant m v
  | .field m names => do
    visit m
    checked wantsText (← follow false dot names)
  | .variable m name fields => do
    visit m
    checked wantsText (← follow false (← variableValue name) fields)
  | .group m inner => do
    visit m
    checked wantsText (← pipeline dot inner)
  | .function m f => do
    visit m
    checkCount f 0 none
    checked wantsText (← finishCall m f "" none [])
  | .chain m base fields => do
    visit m
    checked wantsText (← follow false (← operand dot false base) fields)

def operands (dot : Value) (f : Function) (index : Nat) : List Operand → Eval (List Value)
  | [] => return []
  | o :: rest => do
    let v ← operand dot (wantsText f index) o
    return v :: (← operands dot f (index + 1) rest)

/-- Evaluates arguments until one has the truth that decides. The last value is the answer when
none does. -/
def shortCut (dot : Value) (decisive : Bool) (last : Value) : List Operand → Eval (Value × Bool)
  | [] => return (last, false)
  | o :: rest => do
    let v ← operand dot false o
    if v.isTrue == decisive then return (v, true)
    shortCut dot decisive v rest

end

/-- How the nodes of a loop go on. -/
inductive Flow where
  | onward
  | leaveLoop
  | nextRound
  deriving DecidableEq, Repr

/-- What a loop goes through: the numbers below an integer, nothing for what is absent. -/
def roundCount (names : List String) (v : Value) : Eval Nat :=
  match Function.ordinal? v, v with
  | some n, _ => if 1 < names.length then fail (.twoVariables v.shown) else return n.toNat
  | none, .absent => return 0
  | none, v => fail (.notIterable v.shown)

/-- Number `i` of the numbers below `bound`. -/
def roundValue (bound : Value) (i : Nat) : Value :=
  match bound with
  | .byte _ => .byte (UInt8.ofNat i)
  | _ => .int (Int64.ofNat i)

/-- The texts of the rounds of a loop from number `i` on, the newest first. The variable of the
loop is the newest of its name. -/
def rounds (body : Value → Eval (Bytes × Flow)) (names : List String) (bound : Value) :
    Nat → Nat → List Bytes → Eval (List Bytes)
  | 0, _, written => return written
  | left + 1, i, written => do
    let v := roundValue bound i
    names.forM (assign · v)
    let (here, flow) ← inScope (body v)
    if flow = .leaveLoop then return here :: written
    rounds body names bound left (i + 1) (here :: written)

/-- What a template needs to know to invoke others. -/
structure Host where
  defines : Bytes → Bool
  /-- The text of another template, invoked at a mark; missing at the greatest depth. -/
  enter? : Option (Mark → Bytes → Value → Except RenderError Bytes)

mutual

/-- The text of a node. Variables made by a control end with it. -/
def node (host : Host) (dot : Value) : Node → Eval (Bytes × Flow)
  | .text s => return (Text.encode s, .onward)
  | .action p => do
    let v ← pipeline dot p
    let shown := match v with
      | .absent => Text.encode "<no value>"
      | v => v.shown
    return (if p.keptIn.isEmpty then shown else [], .onward)
  | .control kind p body otherwise => inScope do
    let v ← pipeline dot p
    match kind with
    | .condition => if v.isTrue then nodes host dot body else nodes host dot otherwise
    | .binding => if v.isTrue then nodes host v body else nodes host dot otherwise
    | .loop => do
      let count ← roundCount p.keptIn v
      if count = 0 then
        let (text, flow) ← nodes host dot otherwise
        return (text, if flow = .leaveLoop then .onward else flow)
      else
        let written ← rounds (fun v => nodes host v body) p.keptIn v count 0 []
        return (written.reverse.flatten, .onward)
  | .invoke mark name p => do
    visit mark
    if !host.defines name then fail (.noTemplate name)
    match host.enter? with
    | none => fail .tooDeep
    | some enter => do
      let data ← match p with
        | none => pure .absent
        | some p => pipeline dot p
      return (← enter mark name data, .onward)
  | .leaveLoop => return ([], .leaveLoop)
  | .nextRound => return ([], .nextRound)

def nodes (host : Host) (dot : Value) : List Node → Eval (Bytes × Flow)
  | [] => return ([], .onward)
  | n :: rest => do
    let (here, flow) ← node host dot n
    if flow = .onward then
      let (more, flow) ← nodes host dot rest
      return (here ++ more, flow)
    else return (here, flow)

end

/-- A template at work and the place where it invokes the next one. -/
structure Frame where
  template : Bytes
  data : Value
  site : Mark

/-- Whether a template is invoked by itself with the same data. It would then go on forever, so
the answer is the failure at the greatest depth. The newest frame comes first and the oldest one
has depth zero; from frame `k` back on the frames repeat with period `k + 1`. -/
def repeats? (frames : List Frame) (name : Bytes) (data : Value) : Option RenderError := do
  let k ← frames.findIdx? fun f => f.template == name && Value.same f.data data
  let depth := frames.length - (k + 1)
  let f ← frames[k - (maxDepth - depth) % (k + 1)]?
  return ⟨f.template, f.site, .tooDeep⟩

/-- The text of one template of a set. Its variables are its own. -/
def tree (set : TemplateSet)
    (enter? : Option (Mark → Bytes → Value → Except RenderError Bytes)) (name : Bytes)
    (data : Value) : Except RenderError Bytes :=
  let host : Host := ⟨fun n => (set.tree? n).isSome, enter?⟩
  let whole := nodes host data ((set.tree? name).getD [])
  (whole.run' ⟨name, ⟨.start, ""⟩, [("$", data)]⟩).map Prod.fst

/-- The text of one template with so many levels left below it. -/
def treeWithin (set : TemplateSet) :
    Nat → List Frame → Bytes → Value → Except RenderError Bytes
  | 0, _, name, data => tree set none name data
  | left + 1, outer, name, data =>
    let enter (site : Mark) (called : Bytes) (given : Value) :=
      let frames := ⟨name, data, site⟩ :: outer
      match repeats? frames called given with
      | some e => .error e
      | none => treeWithin set left frames called given
    tree set (some enter) name data

end Render

/-- The text of a template for the given data, which is also the variable `$`. -/
def render (set : TemplateSet) (data : Value) : Except RenderError Bytes :=
  Render.treeWithin set maxDepth [] set.name data

end KernelSweep.Template
