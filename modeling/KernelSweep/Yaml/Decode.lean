import KernelSweep.Text.Quoted
import KernelSweep.Yaml.Compose

set_option autoImplicit false

namespace KernelSweep.Yaml

inductive Issue where
  | repeatedKey (line : Nat) (key : String) (firstLine : Nat)
  | unknownField (line : Nat) (name type : String)
  | fieldSetTwice (line : Nat) (name type : String)
  | mismatch (line : Nat) (tag value type : String)
  deriving DecidableEq, Repr

namespace Issue

/-- Longer values are cut to seven bytes. -/
def excerpt (value : String) : String :=
  let bytes := Text.encode value
  if 10 < bytes.length then Text.decodeLossy (bytes.take 7) ++ "..." else value

def message : Issue → String
  | .repeatedKey line key firstLine =>
    "line " ++ toString line ++ ": mapping key " ++ Text.quoted key ++
      " already defined at line " ++ toString firstLine
  | .unknownField line name type =>
    "line " ++ toString line ++ ": field " ++ name ++ " not found in type " ++ type
  | .fieldSetTwice line name type =>
    "line " ++ toString line ++ ": field " ++ name ++ " already set in type " ++ type
  | .mismatch line tag value type =>
    let shown :=
      if tag = Tag.seq ∨ tag = Tag.map then value else " \x60" ++ excerpt value ++ "\x60"
    "line " ++ toString line ++ ": cannot unmarshal " ++ tag ++ shown ++ " into " ++ type

end Issue

structure DecodeState where
  anchored : List (Nat × Node)
  size : Nat
  /-- Numbers of the aliases being followed. -/
  active : List Nat := []
  /-- Nodes decoded so far, and how many of them behind aliases. -/
  decoded : Nat := 0
  aliased : Nat := 0
  issues : List Issue := []

abbrev Decoder := StateT DecodeState (Except Fault)

/-- Decodes a node onto a value. The flag tells whether the node gave one. -/
abbrev Shape (α : Type) := Node → α → Decoder (α × Bool)

def reportAll (issues : List Issue) : Decoder Unit :=
  modify fun s => { s with issues := s.issues ++ issues }

def report (issue : Issue) : Decoder Unit := reportAll [issue]

/-- The node an alias stands for. -/
def target : Node → Decoder Node
  | .alias _ _ _ number => do
    match (← get).anchored.lookup number with
    | some n => return n
    | none => throw .notYaml
  | n => return n

/-- Works on the node itself or the one an alias stands for. An alias that is met again while it
is being followed has no end. -/
def following {α : Type} (n : Node) (work : Node → Decoder α) : Decoder α := do
  match n with
  | .alias _ _ number _ => do
    if (← get).active.contains number then throw .notYaml
    modify fun s => { s with active := number :: s.active }
    let a ← work (← target n)
    modify fun s => { s with active := s.active.tail }
    return a
  | n => work n

/-- Counts a node. A document of some size may not come from aliases almost alone. -/
def count : Decoder Unit := do
  modify fun s =>
    { s with
      decoded := s.decoded + 1
      aliased := if s.active.isEmpty then s.aliased else s.aliased + 1 }
  let s ← get
  if 100 < s.aliased ∧ 1000 < s.decoded ∧ 99 * s.decoded < 100 * s.aliased then throw .notYaml

/-- Decodes a node: an alias counts as well as the node it stands for. -/
def decoding {α : Type} (n : Node) (work : Node → Decoder α) : Decoder α := do
  count
  match n with
  | .alias .. => following n fun n => do
    count
    work n
  | n => work n

/-- Every later key that repeats an earlier one. -/
def repeatedKeys : List (Node × Node) → List Issue
  | [] => []
  | (k, _) :: rest =>
    (rest.filterMap fun (other, _) =>
      if other.keyText = k.keyText then
        some (.repeatedKey other.line other.keyText.2 k.line)
      else none) ++ repeatedKeys rest

/-- The entries of one mapping, or what is wrong with its keys. -/
inductive Layer where
  | entries (es : List (Node × Node))
  | broken (issues : List Issue)

mutual

/-- A mapping followed by those merged into it. -/
def layers : Nat → Node → Decoder (List Layer)
  | 0, _ => throw .notYaml
  | fuel + 1, n => following n fun
    | .mapping _ _ entries =>
      match repeatedKeys entries with
      | [] => do
        let merged ← mergedLayers fuel entries
        return .entries (entries.filter fun (k, _) => !k.isMergeKey) :: merged
      | issues => return [.broken issues]
    | _ => throw .notYaml

def mergedLayers : Nat → List (Node × Node) → Decoder (List Layer)
  | 0, _ => throw .notYaml
  | fuel + 1, entries => do
    match entries.find? fun (k, _) => k.isMergeKey with
    | none => return []
    | some (_, .sequence _ _ items) => return (← items.mapM (layers fuel)).flatten
    | some (_, v) => layers fuel v

end

def mismatch (n : Node) (type : String) : Decoder Unit :=
  match n with
  | .scalar line tag value _ => report (.mismatch line tag value type)
  | .sequence line tag _ => report (.mismatch line tag "" type)
  | .mapping line tag entries =>
    match repeatedKeys entries with
    | [] => report (.mismatch line tag "" type)
    | issues => reportAll issues
  | .alias .. => throw .notYaml

/-- A shape for scalars of one kind. Nothing is taken from null. -/
def scalarShape {α : Type} (type : String) (take : Scalar → Option α) : Shape α :=
  fun n old => decoding n fun n => do
    match n with
    | .scalar _ tag value _ => do
      let s ← readScalar tag value
      if s.null then return (old, false)
      match take s with
      | some new => return (new, true)
      | none => do
        mismatch n type
        return (old, false)
    | n => do
      mismatch n type
      return (old, false)

def textShape : Shape Text.Bytes := scalarShape "string" Scalar.text

def isNull : Node → Decoder Bool
  | .scalar _ tag value _ => do
    let s ← readScalar tag value
    return s.null
  | _ => return false

/-- Decodes each item from `empty`; items that give nothing are left out. -/
def items {α : Type} (item : Shape α) (empty : α) : List Node → Decoder (List α)
  | [] => return []
  | n :: rest => do
    let (a, good) ← item n empty
    let more ← items item empty rest
    return if good then a :: more else more

/-- A sequence replaces the whole list, and null empties it. -/
def list {α : Type} (type : String) (item : Shape α) (empty : α) : Shape (List α) :=
  fun n old => decoding n fun n => do
    match n with
    | .sequence _ _ ns => return (← items item empty ns, true)
    | n => do
      if ← isNull n then return ([], true)
      mismatch n type
      return (old, false)

/-- Names among all keys of a mapping, which hide those of entries merged in. -/
def ownNames (entries : List (Node × Node)) : Decoder (List Text.Bytes) :=
  entries.filterMapM fun (k, _) => do
    match ← target k with
    | .scalar _ tag value _ =>
      match scalarMeaning tag value with
      | .ok (_, .text s) => return some s
      | _ => return none
    | _ => return none

/-- What to do with an entry: its key and the line of it, the names this mapping has set so far,
and its value. -/
abbrev EntryStep (σ : Type) := Text.Bytes → Nat → List Text.Bytes → Node → σ → Decoder σ

/-- Entries in order. `hidden` holds names that an outer mapping has; it grows along merges. -/
def foldEntries {σ : Type} (step : EntryStep σ) (merging : Bool) :
    List (Node × Node) → List Text.Bytes → List Text.Bytes → σ → Decoder (σ × List Text.Bytes)
  | [], hidden, _, s => return (s, hidden)
  | (k, v) :: rest, hidden, done, s => do
    let (name, good) ← textShape k []
    if !good then foldEntries step merging rest hidden done s
    else if merging && hidden.contains name then foldEntries step merging rest hidden done s
    else do
      let s ← step name k.line done v s
      foldEntries step merging rest (if merging then name :: hidden else hidden) (name :: done) s

def foldMerged {σ : Type} (step : EntryStep σ) : List Layer → List Text.Bytes → σ → Decoder σ
  | [], _, s => return s
  | .broken issues :: rest, hidden, s => do
    reportAll issues
    foldMerged step rest hidden s
  | .entries es :: rest, hidden, s => do
    let (s, hidden) ← foldEntries step true es hidden [] s
    foldMerged step rest hidden s

/-- All entries of a mapping, its own ones first. -/
def foldMapping {σ : Type} (own merged : EntryStep σ) (line : Nat) (tag : String)
    (entries : List (Node × Node)) (s : σ) : Decoder (σ × Bool) := do
  match ← layers (← get).size (.mapping line tag entries) with
  | .entries es :: more => do
    let (s, _) ← foldEntries own false es [] [] s
    return (← foldMerged merged more (← ownNames entries) s, true)
  | .broken issues :: _ => do
    reportAll issues
    return (s, false)
  | [] => return (s, false)

/-- A field of a record: its name, and how a node changes the record. -/
structure Member (σ : Type) where
  name : String
  set : Node → σ → Decoder σ

/-- A field from the shape of its value. -/
def Member.of {σ α : Type} (name : String) (shape : Shape α) (get : σ → α) (put : α → σ → σ) :
    Member σ where
  name := name
  set n s := do
    let (a, good) ← shape n (get s)
    return if good then put a s else s

/-- A field is set once at most by one mapping. -/
def recordStep {σ : Type} (type : String) (fields : List (Member σ)) : EntryStep σ :=
  fun name line done v s =>
    match fields.find? fun f => Text.encode f.name == name with
    | none => do
      report (.unknownField line (Text.decodeLossy name) type)
      return s
    | some f =>
      if done.contains name then do
        report (.fieldSetTwice line f.name type)
        return s
      else f.set v s

/-- A record with fixed fields. -/
def record {σ : Type} (type : String) (fields : List (Member σ)) : Shape σ :=
  let step := recordStep type fields
  fun n old => decoding n fun n => do
    match n with
    | .mapping line tag entries => foldMapping step step line tag entries old
    | n => do
      if ← isNull n then return (old, false)
      mismatch n type
      return (old, false)

/-- A null value stands for the empty one, but does not replace another in a table that was there
before. -/
def tableStep {α : Type} (item : Shape α) (empty : α) (fresh : Bool) :
    EntryStep (List (Text.Bytes × α)) := fun name _ _ v s => do
  let (a, good) ← item v empty
  if good then return assocPut name a s
  else if fresh || (s.lookup name).isNone then return assocPut name empty s
  else return s

/-- A table by name; null empties it. -/
def table {α : Type} (type : String) (item : Shape α) (empty : α) :
    Shape (List (Text.Bytes × α)) :=
  fun n old => decoding n fun n => do
    match n with
    | .mapping line tag entries =>
      foldMapping (tableStep item empty old.isEmpty) (tableStep item empty false) line tag entries
        old
    | n => do
      if ← isNull n then return ([], true)
      mismatch n type
      return (old, false)

/-- The same field of a record that has one more in front. -/
def Member.behind {σ : Type} (α : Type) (f : Member σ) : Member (α × σ) where
  name := f.name
  set n s := do return (s.1, ← f.set n s.2)

mutual

def Kind.shape : (k : Kind) → Shape k.Value
  | .text => textShape
  | .int => scalarShape "int" Scalar.int
  | .bool => scalarShape "bool" Scalar.bool
  | .list type item => list type item.shape item.zero
  | .table type item => table type item.shape item.zero
  | .record type fields => record type fields.members

def Fields.members : (fields : Fields) → List (Member fields.Value)
  | .nil => []
  | .cons name kind rest =>
    .of name kind.shape Prod.fst (fun a s => (a, s.2)) ::
      rest.members.map (Member.behind kind.Value)

end

def issuesMessage (issues : List Issue) : String :=
  "yaml: unmarshal errors:\n  " ++ String.intercalate "\n  " (issues.map Issue.message)

def noDocument : Failure := .malformed "yaml: not a valid document"

/-- Decodes a text onto a value. -/
def decodeOnto (k : Kind) (content : Text.Bytes) (old : k.Value) :
    k.Value × Except Failure Unit :=
  match compose content with
  | .error _ => (old, .error noDocument)
  | .ok ⟨none, _⟩ => (old, .error .empty)
  | .ok ⟨some d, size⟩ =>
    match (k.shape d.root old).run { anchored := d.anchored, size } with
    | .error _ => (old, .error noDocument)
    | .ok ((new, _), s) =>
      (new, if s.issues.isEmpty then .ok () else .error (.mismatch (issuesMessage s.issues)))

/-- A stand-in for a library. -/
def plainLibrary : Library where
  scalar tag value := (readScalar tag value).toOption
  document content :=
    match compose content with
    | .error _ => .error noDocument.message
    | .ok c => .ok c.document
  decode := decodeOnto

end KernelSweep.Yaml
