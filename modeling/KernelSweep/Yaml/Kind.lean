import KernelSweep.Text.Utf8

set_option autoImplicit false

namespace KernelSweep.Yaml

mutual

/-- What documents are decoded onto. The texts are what the types are called. -/
inductive Kind where
  | text
  | int
  | bool
  | list (type : String) (item : Kind)
  /-- From names to items. -/
  | table (type : String) (item : Kind)
  | record (type : String) (fields : Fields)

inductive Fields where
  | nil
  | cons (name : String) (kind : Kind) (rest : Fields)

end

def Fields.ofList : List (String × Kind) → Fields
  | [] => .nil
  | (name, kind) :: rest => .cons name kind (ofList rest)

mutual

def Kind.Value : Kind → Type
  | .text => Text.Bytes
  | .int => Int64
  | .bool => Bool
  | .list _ item => List item.Value
  | .table _ item => List (Text.Bytes × item.Value)
  | .record _ fields => fields.Value

/-- The values of the fields one behind the other. -/
def Fields.Value : Fields → Type
  | .nil => Unit
  | .cons _ kind rest => kind.Value × rest.Value

end

mutual

/-- The value with nothing in it. -/
def Kind.zero : (k : Kind) → k.Value
  | .text => ([] : Text.Bytes)
  | .int => (0 : Int64)
  | .bool => false
  | .list _ item => ([] : List item.Value)
  | .table _ item => ([] : List (Text.Bytes × item.Value))
  | .record _ fields => fields.zero

def Fields.zero : (fields : Fields) → fields.Value
  | .nil => ()
  | .cons _ kind rest => (kind.zero, rest.zero)

end

mutual

def Kind.decEq : (k : Kind) → DecidableEq k.Value
  | .text => inferInstanceAs (DecidableEq Text.Bytes)
  | .int => inferInstanceAs (DecidableEq Int64)
  | .bool => inferInstanceAs (DecidableEq Bool)
  | .list _ item =>
    have := item.decEq
    inferInstanceAs (DecidableEq (List item.Value))
  | .table _ item =>
    have := item.decEq
    inferInstanceAs (DecidableEq (List (Text.Bytes × item.Value)))
  | .record _ fields => fields.decEq

def Fields.decEq : (fields : Fields) → DecidableEq fields.Value
  | .nil => inferInstanceAs (DecidableEq Unit)
  | .cons _ kind rest =>
    have := kind.decEq
    have := rest.decEq
    inferInstanceAs (DecidableEq (kind.Value × rest.Value))

end

/-- A table with a value for a name. -/
def assocPut {α : Type} (key : Text.Bytes) (value : α) (entries : List (Text.Bytes × α)) :
    List (Text.Bytes × α) :=
  entries.filter (fun e => e.1 != key) ++ [(key, value)]

instance (k : Kind) : DecidableEq k.Value := k.decEq

end KernelSweep.Yaml
