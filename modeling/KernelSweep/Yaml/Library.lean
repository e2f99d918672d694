import KernelSweep.Yaml.Kind

set_option autoImplicit false

namespace KernelSweep.Yaml

inductive Node where
  | scalar (line : Nat) (tag value : String) (quoted : Bool)
  | sequence (line : Nat) (tag : String) (items : List Node)
  | mapping (line : Nat) (tag : String) (entries : List (Node × Node))
  /-- Stands for the anchored node with the number `target`, which may contain it. No two aliases
  have the same `number`. -/
  | alias (line : Nat) (name : String) (number target : Nat)

def Node.line : Node → Nat
  | .scalar line .. | .sequence line .. | .mapping line .. | .alias line .. => line

namespace Node

/-- Keys are the same when they are of one form and have one text. -/
def keyText : Node → Nat × String
  | .scalar _ _ value _ => (0, value)
  | .sequence .. => (1, "")
  | .mapping .. => (2, "")
  | .alias _ name .. => (3, name)

/-- The value of the key is merged into the mapping. -/
def isMergeKey : Node → Bool
  | .scalar _ tag value _ => value == "<<" && tag == "!!merge"
  | _ => false

end Node

/-- A document and its anchored nodes by number. -/
structure Document where
  root : Node
  anchored : List (Nat × Node)

/-- What a scalar can be decoded to. -/
structure Scalar where
  null : Bool
  text : Option Text.Bytes
  int : Option Int64
  bool : Option Bool
  deriving DecidableEq, Repr

inductive Failure where
  /-- There is no document. -/
  | empty
  | malformed (text : String)
  /-- The document does not fit what it is decoded onto. -/
  | mismatch (text : String)
  deriving DecidableEq, Repr

def Failure.message : Failure → String
  | .empty => "EOF"
  | .malformed text => text
  | .mismatch text => text

/-- A library that decodes documents. -/
structure Library where
  /-- None for a scalar whose tag asks for another form. -/
  scalar : (tag value : String) → Option Scalar
  /-- The first document of a text, if it has one. -/
  document : Text.Bytes → Except String (Option Document)
  /-- Decodes the first document of a text onto a value. Fields that a document cannot name are
  refused. The value can be another one even after a failure. -/
  decode : (k : Kind) → Text.Bytes → k.Value → k.Value × Except Failure Unit

end KernelSweep.Yaml
