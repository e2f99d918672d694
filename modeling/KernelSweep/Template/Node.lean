import KernelSweep.Template.Constant
import KernelSweep.Template.Function
import KernelSweep.Template.Token

set_option autoImplicit false

namespace KernelSweep.Template

open KernelSweep.Text (Bytes)

/-- Where a part stands and how it reads. -/
structure Mark where
  position : Position
  shown : String
  deriving DecidableEq, Repr

mutual

inductive Operand where
  | dot (mark : Mark)
  | absent (mark : Mark)
  /-- A constant, without a value when it is an integer that is too large. -/
  | constant (mark : Mark) (value : Option Value)
  | field (mark : Mark) (names : List String)
  | variable (mark : Mark) (name : String) (fields : List String)
  | function (mark : Mark) (function : Function)
  | chain (mark : Mark) (base : Operand) (fields : List String)
  | group (mark : Mark) (inner : Pipeline)

inductive Command where
  | mk (mark : Mark) (head : Operand) (arguments : List Operand)

/-- The value of each command is the last argument of the next; the final one may be kept in
variables, new or known. -/
inductive Pipeline where
  | mk (mark : Mark) (keptIn : List String) (isNew : Bool) (commands : List Command)

end

namespace Operand

def mark : Operand → Mark
  | .dot m | .absent m | .constant m _ | .field m _ | .variable m _ _ | .function m _
  | .chain m _ _ | .group m _ => m

/-- Constants and the dot cannot take the value of an earlier command. -/
def isExecutable : Operand → Bool
  | .dot _ | .absent _ | .constant .. => false
  | _ => true

/-- As part of a command a group stands in parentheses. -/
def shown (o : Operand) : String :=
  match o with
  | .group m _ => "(" ++ m.shown ++ ")"
  | o => o.mark.shown

end Operand

def Command.mark : Command → Mark
  | .mk m _ _ => m

def Command.head : Command → Operand
  | .mk _ head _ => head

def Pipeline.mark : Pipeline → Mark
  | .mk m _ _ _ => m

def Pipeline.keptIn : Pipeline → List String
  | .mk _ keptIn _ _ => keptIn

/-- What a pipeline decides about the nodes behind it. -/
inductive ControlKind where
  | condition
  /-- A condition whose value becomes the dot. -/
  | binding
  | loop
  deriving DecidableEq, Repr

def ControlKind.word : ControlKind → String
  | .condition => "if"
  | .binding => "with"
  | .loop => "range"

inductive Node where
  | text (s : String)
  | action (pipeline : Pipeline)
  | control (kind : ControlKind) (pipeline : Pipeline) (body otherwise : List Node)
  /-- Another template in this place, with the value of the pipeline as its data. -/
  | invoke (mark : Mark) (name : Bytes) (pipeline : Option Pipeline)
  | leaveLoop
  | nextRound

/-- White space alone shows nothing. -/
def Node.isBlank : Node → Bool
  | .text s => s.toList.all Text.isBlank
  | _ => false

/-- A template and those defined inside it, by name. -/
structure TemplateSet where
  name : Bytes
  trees : List (Bytes × List Node)

namespace TemplateSet

def tree? (s : TemplateSet) (name : Bytes) : Option (List Node) := s.trees.lookup name

/-- Adds a template. A blank one neither replaces nor is replaced with complaint; `none` says that
there are two others. -/
def add? (trees : List (Bytes × List Node)) (name : Bytes) (nodes : List Node) :
    Option (List (Bytes × List Node)) :=
  match trees.lookup name with
  | none => some ((name, nodes) :: trees)
  | some old =>
    if old.all Node.isBlank then some ((name, nodes) :: trees)
    else if nodes.all Node.isBlank then some trees
    else none

end TemplateSet

inductive ParseCause where
  | fault (text : String) (actionLine : Option Nat)
  | unexpected (shown context : String)
  | missingValue (context : String)
  | notExecutable (stage : Nat)
  | undefinedFunction (name : String)
  | undefinedVariable (name : String)
  | badNumber (e : Constant.NumberError)
  | badString
  | fieldAfterTerm (shown : String)
  | emptyCommand
  | loopVariables
  | tooManyDeclarations (context : String)
  | outsideLoop (shown : String)
  | strayEnd (shown : String)
  | expectedEnd (shown : String)
  | definedTwice (name : Bytes)
  | unfinished
  deriving DecidableEq, Repr

structure ParseError where
  line : Nat
  cause : ParseCause
  deriving DecidableEq, Repr

/-- The wording needs the name of the template for faults in an action of several lines. -/
def ParseCause.message (name : String) : ParseCause → String
  | .fault text none => text
  | .fault text (some line) =>
    let started := " started at " ++ name ++ ":" ++ toString line
    text ++ if text.endsWith " action" then started else " in action" ++ started
  | .unexpected shown context => "unexpected " ++ shown ++ " in " ++ context
  | .missingValue context => "missing value for " ++ context
  | .notExecutable stage => "non executable command in pipeline stage " ++ toString stage
  | .undefinedFunction name => "function " ++ Text.quoted name ++ " not defined"
  | .undefinedVariable name => "undefined variable " ++ Text.quoted name
  | .badNumber e => e.message
  | .badString => "invalid syntax"
  | .fieldAfterTerm shown => "unexpected . after term " ++ Text.quoted shown
  | .emptyCommand => "empty command"
  | .loopVariables => "range can only initialize variables"
  | .tooManyDeclarations context => "too many declarations in " ++ context
  | .outsideLoop shown => shown ++ " outside \x7b\x7brange\x7d\x7d"
  | .strayEnd shown => "unexpected " ++ shown
  | .expectedEnd shown => "expected end; found " ++ shown
  | .definedTwice name => "template: multiple definition of template " ++ Text.quotedBytes name
  | .unfinished => "unexpected EOF"

def ParseError.message (name : String) (e : ParseError) : String :=
  "template: " ++ name ++ ":" ++ toString e.line ++ ": " ++ e.cause.message name

end KernelSweep.Template
