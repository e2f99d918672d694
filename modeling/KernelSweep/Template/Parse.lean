import KernelSweep.Template.Constant
import KernelSweep.Template.Node

set_option autoImplicit false

namespace KernelSweep.Template

open KernelSweep.Text (Bytes)

namespace Parse

structure State where
  tokens : List Token
  latest : Nat
  scope : List String
  actionLine : Option Nat
  /-- How many loops stand around this place. -/
  loops : Nat
  /-- The templates defined so far. -/
  trees : List (Bytes × List Node)

abbrev Parser := StateT State (Except ParseError)

def fail {α : Type} (cause : ParseCause) : Parser α := do
  throw ⟨(← get).latest, cause⟩

def ended : Token := ⟨.finish, "", .start⟩

def peek : Parser Token := do
  let s ← get
  let t := s.tokens.headD ended
  set { s with latest := max s.latest t.start.line }
  return t

/-- Takes a token; the last one stays. -/
def next : Parser Token := do
  let t ← peek
  modify fun s => { s with tokens := if s.tokens.length ≤ 1 then s.tokens else s.tokens.tail }
  return t

/-- Looks past a space. Two spaces are never neighbours. -/
def peekNonSpace : Parser Token := do
  let t ← peek
  if t.kind = .space then
    let _ ← next
    peek
  else return t

def nextNonSpace : Parser Token := do
  let _ ← peekNonSpace
  next

def unexpected {α : Type} (t : Token) (context : String) : Parser α := do
  if t.kind = .fault then
    let line := (← get).actionLine.filter (· != t.start.line)
    fail (.fault t.text line)
  else fail (.unexpected t.shown context)

def expect (kind : Kind) (context : String) : Parser Unit := do
  let t ← nextNonSpace
  if t.kind ≠ kind then unexpected t context

/-- The names of a chain of field tokens. -/
def fieldName (text : String) : String := String.ofList (text.toList.drop 1)

def startsCommand (kind : Kind) (text : String) : Bool :=
  match kind with
  | .boolean | .character | .complex | .dot | .field | .identifier | .number | .rawString
  | .string | .variable | .leftParen => true
  | .keyword => text == "nil"
  | _ => false

/-- The variables a pipeline keeps its value in, behind those found already, and whether they are
new. Only a loop may have two. -/
def declarations (context : String) : Nat → List String → Parser (List String × Bool)
  | 0, found => return (found, true)
  | fuel + 1, found => do
    let v ← peekNonSpace
    if v.kind ≠ .variable then return (found, true)
    let saved := (← get).tokens
    let _ ← next
    let _ ← peek
    let t ← peekNonSpace
    let found' := found ++ [v.text]
    if t.kind = .assign ∨ t.kind = .declare then
      let _ ← nextNonSpace
      modify fun s => { s with scope := v.text :: s.scope }
      return (found', t.kind = .declare)
    else if t.kind = .mark ∧ t.text = "," then
      let _ ← nextNonSpace
      modify fun s => { s with scope := v.text :: s.scope }
      if context = ControlKind.loop.word ∧ found.isEmpty then
        let t ← peekNonSpace
        if t.kind = .variable ∨ t.kind = .rightBraces ∨ t.kind = .rightParen then
          declarations context fuel found'
        else fail .loopVariables
      else fail (.tooManyDeclarations context)
    else
      modify fun s => { s with tokens := saved }
      return (found, true)

/-- Everything but the first command has to be able to take a value. -/
def checkPipeline (context : String) (commands : List Command) : Parser Unit := do
  if commands.isEmpty then fail (.missingValue context)
  match (commands.tail).findIdx? fun c => !c.head.isExecutable with
  | some i => fail (.notExecutable (i + 2))
  | none => return ()

def pipelineMark (start : Token) (keptIn : List String) (isNew : Bool)
    (commands : List Command) : Mark :=
  let body := Text.join " | " (commands.map fun c => c.mark.shown)
  let kept :=
    if keptIn.isEmpty then "" else Text.join ", " keptIn ++ if isNew then " := " else " = "
  ⟨start.start, kept ++ body⟩

/-- The field tokens that follow a term, with the first one. -/
def fieldTokens : Nat → Parser (List Token)
  | 0 => return []
  | fuel + 1 => do
    let t ← peek
    if t.kind = .field then
      let _ ← next
      return t :: (← fieldTokens fuel)
    else return []

/-- Puts fields behind a term. -/
def addFields (term : Operand) (fields : List Token) : Parser Operand := do
  match fields with
  | [] => return term
  | first :: _ =>
    let names := fields.map fun t => fieldName t.text
    let mark : Mark := ⟨first.start, term.shown ++ String.join (fields.map Token.text)⟩
    match term with
    | .field _ before => return .field mark (before ++ names)
    | .variable _ name before => return .variable mark name (before ++ names)
    | .function .. | .chain .. | .group .. => return .chain mark term names
    | _ => fail (.fieldAfterTerm term.shown)

mutual

def pipeline : Nat → String → Kind → Parser Pipeline
  | 0, context, _ => fail (.missingValue context)
  | fuel + 1, context, last => do
    let start ← peekNonSpace
    let (keptIn, isNew) ← declarations context 2 []
    let cs ← commands fuel context last
    checkPipeline context cs
    return .mk (pipelineMark start keptIn isNew cs) keptIn isNew cs

def commands : Nat → String → Kind → Parser (List Command)
  | 0, context, _ => fail (.missingValue context)
  | fuel + 1, context, last => do
    let t ← peekNonSpace
    if t.kind = last then
      let _ ← next
      return []
    else if startsCommand t.kind t.text then
      let c ← command fuel
      return c :: (← commands fuel context last)
    else
      let _ ← next
      unexpected t context

def command : Nat → Parser Command
  | 0 => fail .emptyCommand
  | fuel + 1 => do
    let start ← peekNonSpace
    match ← operands fuel with
    | [] => fail .emptyCommand
    | head :: arguments =>
      let shown := Text.join " " ((head :: arguments).map Operand.shown)
      return .mk ⟨start.start, shown⟩ head arguments

def operands : Nat → Parser (List Operand)
  | 0 => return []
  | fuel + 1 => do
    let _ ← peekNonSpace
    let here ← operand fuel
    let t ← peek
    let more ← match t.kind with
      | .space => do
        let _ ← next
        operands fuel
      | .rightBraces | .rightParen => pure []
      | .pipe => do
        let _ ← next
        pure []
      | _ => do
        let _ ← next
        unexpected t "operand"
    return here.toList ++ more

def operand : Nat → Parser (Option Operand)
  | 0 => return none
  | fuel + 1 => do
    match ← term fuel with
    | none => return none
    | some t => do
      let fields ← fieldTokens fuel
      return some (← addFields t fields)

def term : Nat → Parser (Option Operand)
  | 0 => return none
  | fuel + 1 => do
    let t ← peekNonSpace
    let mark : Mark := ⟨t.start, t.text⟩
    match t.kind with
    | .identifier => do
      let _ ← next
      match Function.ofName? t.text with
      | some f => return some (.function mark f)
      | none => fail (.undefinedFunction t.text)
    | .dot => do
      let _ ← next
      return some (.dot mark)
    | .keyword =>
      if t.text = "nil" then do
        let _ ← next
        return some (.absent mark)
      else return none
    | .variable => do
      let _ ← next
      if (← get).scope.contains t.text then return some (.variable mark t.text [])
      else fail (.undefinedVariable t.text)
    | .field => do
      let _ ← next
      return some (.field mark [fieldName t.text])
    | .boolean => do
      let _ ← next
      return some (.constant mark (some (.bool (t.text == "true"))))
    | .number => do
      let _ ← next
      match Constant.number t.text with
      | .ok v => return some (.constant mark v)
      | .error e => fail (.badNumber e)
    | .character => do
      let _ ← next
      match Constant.character t.text with
      | .ok v => return some (.constant mark (some v))
      | .error e => fail (.badNumber e)
    | .complex => do
      let _ ← next
      match Constant.complex t.text with
      | .ok v => return some (.constant mark (some v))
      | .error e => fail (.badNumber e)
    | .leftParen => do
      let _ ← next
      let inner ← pipeline fuel "parenthesized pipeline" .rightParen
      return some (.group inner.mark inner)
    | .string | .rawString => do
      let _ ← next
      match Constant.unquote t.text with
      | some s => return some (.constant mark (some (.text s)))
      | none => fail .badString
    | _ => return none

end

/-- What an action turned out to be. -/
inductive Piece where
  | node (n : Node)
  | otherwise
  | finish

def Piece.shown : Piece → String
  | .otherwise => "\x7b\x7belse\x7d\x7d"
  | _ => "\x7b\x7bend\x7d\x7d"

/-- Variables made inside are forgotten outside. -/
def inScope {α : Type} (p : Parser α) : Parser α := do
  let scope := (← get).scope
  let a ← p
  modify fun s => { s with scope }
  return a

/-- Another template knows neither the variables nor the loops around it. -/
def inOwnTree {α : Type} (p : Parser α) : Parser α := do
  let outer ← get
  set { outer with scope := ["$"], actionLine := none, loops := 0 }
  let a ← p
  modify fun s =>
    { s with scope := outer.scope, actionLine := outer.actionLine, loops := outer.loops }
  return a

def inLoop {α : Type} (p : Parser α) : Parser α := do
  modify fun s => { s with loops := s.loops + 1 }
  let a ← p
  modify fun s => { s with loops := s.loops - 1 }
  return a

/-- The name of a template, a quoted text. -/
def templateName (context : String) : Parser (Token × Bytes) := do
  let t ← nextNonSpace
  if t.kind = .string ∨ t.kind = .rawString then
    match Constant.unquote t.text with
    | some name => return (t, name)
    | none => fail .badString
  else unexpected t context

def addTree (name : Bytes) (nodes : List Node) : Parser Unit := do
  match TemplateSet.add? (← get).trees name nodes with
  | some trees => modify fun s => { s with trees }
  | none => fail (.definedTwice name)

def invokeNode (t : Token) (name : Bytes) (p : Option Pipeline) : Node :=
  let data := match p with
    | none => ""
    | some p => " " ++ p.mark.shown
  .invoke
    ⟨t.start, "\x7b\x7btemplate " ++ Text.quotedBytes name ++ data ++ "\x7d\x7d"⟩ name p

/-- The closing braces of a step out of a loop round, which only a loop may hold. -/
def loopStep (word : String) : Parser Unit := do
  let shown := "\x7b\x7b" ++ word ++ "\x7d\x7d"
  expect .rightBraces shown
  if (← get).loops = 0 then fail (.outsideLoop shown)

mutual

/-- One text or action. -/
def piece : Nat → Parser Piece
  | 0 => fail .unfinished
  | fuel + 1 => do
    let t ← nextNonSpace
    match t.kind with
    | .text => return .node (.text t.text)
    | .leftBraces => do
      modify fun s => { s with actionLine := some t.start.line }
      let p ← action fuel
      modify fun s => { s with actionLine := none }
      return p
    | _ => unexpected t "input"

def action : Nat → Parser Piece
  | 0 => fail .unfinished
  | fuel + 1 => do
    let t ← peekNonSpace
    if t.kind = .keyword then
      match t.text with
      | "else" => do
        let _ ← next
        let after ← peekNonSpace
        if after.kind = .keyword ∧ (after.text = "if" ∨ after.text = "with") then return .otherwise
        expect .rightBraces "else"
        return .otherwise
      | "end" => do
        let _ ← next
        expect .rightBraces "end"
        return .finish
      | "if" => do
        let _ ← next
        return .node (← control fuel .condition)
      | "with" => do
        let _ ← next
        return .node (← control fuel .binding)
      | "range" => do
        let _ ← next
        return .node (← control fuel .loop)
      | "break" => do
        let _ ← next
        loopStep t.text
        return .node .leaveLoop
      | "continue" => do
        let _ ← next
        loopStep t.text
        return .node .nextRound
      | "template" => do
        let _ ← next
        return .node (← invocation fuel)
      | "block" => do
        let _ ← next
        return .node (← block fuel)
      | _ => return .node (.action (← pipeline (8 * fuel) "command" .rightBraces))
    else return .node (.action (← pipeline (8 * fuel) "command" .rightBraces))

/-- From the pipeline on. An `else` may go on with the same word, except for loops. -/
def control : Nat → ControlKind → Parser Node
  | 0, _ => fail .unfinished
  | fuel + 1, kind => inScope do
    let condition ← pipeline (8 * fuel) kind.word .rightBraces
    let (body, closing) ← if kind = .loop then inLoop (nodes fuel) else nodes fuel
    match closing with
    | .otherwise => do
      let t ← peek
      if kind ≠ .loop ∧ t.kind = .keyword ∧ t.text = kind.word then
        let _ ← next
        return .control kind condition body [← control fuel kind]
      else
        let (rest, closing) ← nodes fuel
        match closing with
        | .otherwise => fail (.expectedEnd closing.shown)
        | _ => return .control kind condition body rest
    | _ => return .control kind condition body []

/-- From the name on. -/
def invocation : Nat → Parser Node
  | 0 => fail .unfinished
  | fuel + 1 => do
    let context := "template clause"
    let (t, name) ← templateName context
    let after ← peekNonSpace
    if after.kind = .rightBraces then
      let _ ← next
      return invokeNode t name none
    else return invokeNode t name (some (← pipeline (8 * fuel) context .rightBraces))

/-- A template defined and invoked in one place. -/
def block : Nat → Parser Node
  | 0 => fail .unfinished
  | fuel + 1 => do
    let context := "block clause"
    let (t, name) ← templateName context
    let data ← pipeline (8 * fuel) context .rightBraces
    let line := (← get).latest
    inOwnTree do
      let (body, closing) ← nodes fuel
      match closing with
      | .otherwise => throw ⟨line, .unexpected closing.shown context⟩
      | _ => addTree name body
    return invokeNode t name (some data)

/-- Nodes up to an `else` or `end`, which is returned. -/
def nodes : Nat → Parser (List Node × Piece)
  | 0 => fail .unfinished
  | fuel + 1 => do
    let t ← peekNonSpace
    if t.kind = .finish then fail .unfinished
    match ← piece fuel with
    | .node n => do
      let (rest, closing) ← nodes fuel
      return (n :: rest, closing)
    | closing => return ([], closing)

end

/-- A template inside another one, from its name on. -/
def definition (fuel : Nat) : Parser Unit := inOwnTree do
  let context := "define clause"
  let (_, name) ← templateName context
  expect .rightBraces context
  let (body, closing) ← nodes fuel
  match closing with
  | .otherwise => fail (.unexpected closing.shown context)
  | _ => addTree name body

/-- Whether a definition starts here; its opening is then taken. -/
def definitionStarts : Parser Bool := do
  let saved := (← get).tokens
  let t ← next
  if t.kind ≠ .leftBraces then
    modify fun s => { s with tokens := saved }
    return false
  let after ← nextNonSpace
  if after.kind = .keyword ∧ after.text = "define" then return true
  modify fun s => { s with tokens := saved }
  return false

/-- The nodes of a whole template, without the definitions among them. -/
def top : Nat → Parser (List Node)
  | 0 => return []
  | fuel + 1 => do
    let t ← peek
    if t.kind = .finish then return []
    if ← definitionStarts then
      definition fuel
      top fuel
    else
      match ← piece fuel with
      | .node n => return n :: (← top fuel)
      | stray => fail (.strayEnd stray.shown)

end Parse

/-- Reads a template. -/
def parse (name input : String) : Except ParseError TemplateSet :=
  let tokens := Token.scan input
  let whole : Parse.Parser TemplateSet := do
    let nodes ← Parse.top (4 * tokens.length + 8)
    Parse.addTree (Text.encode name) nodes
    return ⟨Text.encode name, (← get).trees⟩
  whole.run' ⟨tokens, 1, ["$"], none, 0, []⟩

end KernelSweep.Template
