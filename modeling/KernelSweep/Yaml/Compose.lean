import KernelSweep.Yaml.Encoding
import KernelSweep.Yaml.Library
import KernelSweep.Yaml.Scalar
import KernelSweep.Yaml.Token

set_option autoImplicit false

namespace KernelSweep.Yaml

namespace Compose

structure State where
  tokens : List Token
  /-- How many tokens have been taken before. -/
  taken : Nat
  ending : Scanner.Ending
  /-- Newest first. -/
  anchors : List (String × Nat)
  /-- Finished nodes with an anchor. -/
  anchored : List (Nat × Node)
  /-- Numbers given to anchors and aliases so far. -/
  count : Nat
  handles : List (String × String)

abbrev Composer := StateT State (Except Fault)

def refuse {α : Type} : Composer α := throw .notYaml

/-- Looking at a token takes two more behind it, and all that is needed to tell that it is no
key. -/
def peek : Composer Token := do
  let s ← get
  match s.ending with
  | .complete => pure ()
  | .faulty pending => if s.tokens.length ≤ 2 || pending.contains s.taken then refuse
  return s.tokens.headD ⟨.streamEnd, 0⟩

def drop : Composer Unit :=
  modify fun s => { s with tokens := s.tokens.tail, taken := s.taken + 1 }

def emptyScalar (line : Nat) : Node := .scalar line Tag.null "" false

/-- The tag of a node without one is that of its kind. -/
def tagOr (given kindTag : String) : String :=
  if given = "" ∨ given = "!" then kindTag else Tag.short given

/-- A plain scalar without a tag gets the tag of its meaning. -/
def scalarNode (line : Nat) (tag value : String) (plain : Bool) : Node :=
  let kindTag :=
    if !plain then Tag.str
    else if value = "<<" then Tag.merge
    else (meaning "" value).tag
  .scalar line (tagOr tag kindTag) value (!plain)

structure Properties where
  line : Nat
  anchor : Option String
  tag : String
  given : Bool

def expandTag (handle suffix : String) : Composer String := do
  if handle = "" then return suffix
  match (← get).handles.lookup handle with
  | some expansion => return expansion ++ suffix
  | none => refuse

/-- An anchor and a tag in either order. -/
def properties : Composer Properties := do
  let first ← peek
  match first.kind with
  | .anchor name => do
    drop
    match (← peek).kind with
    | .tag handle suffix => do
      drop
      return ⟨first.line, some name, ← expandTag handle suffix, true⟩
    | _ => return ⟨first.line, some name, "", true⟩
  | .tag handle suffix => do
    drop
    let next ← peek
    let anchor ← match next.kind with
      | .anchor name => do
        drop
        pure (some name)
      | _ => pure none
    return ⟨first.line, anchor, ← expandTag handle suffix, true⟩
  | _ => return ⟨first.line, none, "", false⟩

def fresh : Composer Nat := do
  let n := (← get).count
  modify fun s => { s with count := n + 1 }
  return n

/-- An anchor is known as soon as its node begins. -/
def openAnchor : Option String → Composer (Option Nat)
  | none => return none
  | some name => do
    let n ← fresh
    modify fun s => { s with anchors := (name, n) :: s.anchors }
    return some n

def closeAnchor (number : Option Nat) (node : Node) : Composer Node := do
  match number with
  | none => return node
  | some n => do
    modify fun s => { s with anchored := (n, node) :: s.anchored }
    return node

/-- Tokens after which a block value is empty. -/
def endsBlockValue : TokenKind → Bool
  | .key | .value | .blockEnd => true
  | _ => false

mutual

def node (block indentless : Bool) : Nat → Composer Node
  | 0 => refuse
  | fuel + 1 => do
    let t ← peek
    match t.kind with
    | .alias name => do
      drop
      match (← get).anchors.lookup name with
      | none => refuse
      | some target => return .alias (t.line + 1) name (← fresh) target
    | _ => do
      let p ← properties
      let line := p.line + 1
      let t ← peek
      match t.kind with
      | .scalar text plain => do
        drop
        closeAnchor (← openAnchor p.anchor) (scalarNode line p.tag text plain)
      | .openSequence => do
        drop
        let anchor ← openAnchor p.anchor
        let items ← flowItems true fuel
        closeAnchor anchor (.sequence line (tagOr p.tag Tag.seq) items)
      | .openMapping => do
        drop
        let anchor ← openAnchor p.anchor
        let entries ← flowEntries true fuel
        closeAnchor anchor (.mapping line (tagOr p.tag Tag.map) entries)
      | kind =>
        if indentless && kind == .entry then do
          let anchor ← openAnchor p.anchor
          let items ← indentlessItems fuel
          closeAnchor anchor (.sequence line (tagOr p.tag Tag.seq) items)
        else if block && kind == .blockSequence then do
          drop
          let anchor ← openAnchor p.anchor
          let items ← blockItems fuel
          closeAnchor anchor (.sequence line (tagOr p.tag Tag.seq) items)
        else if block && kind == .blockMapping then do
          drop
          let anchor ← openAnchor p.anchor
          let entries ← blockEntries fuel
          closeAnchor anchor (.mapping line (tagOr p.tag Tag.map) entries)
        else if p.given then do
          closeAnchor (← openAnchor p.anchor) (scalarNode line p.tag "" true)
        else refuse

def blockItems : Nat → Composer (List Node)
  | 0 => refuse
  | fuel + 1 => do
    let t ← peek
    match t.kind with
    | .entry => do
      drop
      let next ← peek
      let item ←
        if next.kind == .entry || next.kind == .blockEnd then pure (emptyScalar (t.line + 1))
        else node true false fuel
      return item :: (← blockItems fuel)
    | .blockEnd => do
      drop
      return []
    | _ => refuse

def indentlessItems : Nat → Composer (List Node)
  | 0 => refuse
  | fuel + 1 => do
    let t ← peek
    match t.kind with
    | .entry => do
      drop
      let next ← peek
      let item ←
        if next.kind == .entry || endsBlockValue next.kind then pure (emptyScalar (t.line + 1))
        else node true false fuel
      return item :: (← indentlessItems fuel)
    | _ => return []

def blockEntries : Nat → Composer (List (Node × Node))
  | 0 => refuse
  | fuel + 1 => do
    let t ← peek
    match t.kind with
    | .key => do
      drop
      let next ← peek
      let k ←
        if endsBlockValue next.kind then pure (emptyScalar (t.line + 1)) else node true true fuel
      let v ← blockValue fuel
      return (k, v) :: (← blockEntries fuel)
    | .blockEnd => do
      drop
      return []
    | _ => refuse

def blockValue : Nat → Composer Node
  | 0 => refuse
  | fuel + 1 => do
    let t ← peek
    match t.kind with
    | .value => do
      drop
      let next ← peek
      if endsBlockValue next.kind then return emptyScalar (t.line + 1) else node true true fuel
    | _ => return emptyScalar (t.line + 1)

/-- A comma stands between two items, and may follow the last. -/
def flowItems (first : Bool) : Nat → Composer (List Node)
  | 0 => refuse
  | fuel + 1 => do
    let t ← peek
    if t.kind == .closeSequence then
      drop
      return []
    if !first then
      if t.kind == .comma then drop else refuse
    let t ← peek
    match t.kind with
    | .closeSequence => do
      drop
      return []
    | .key => do
      drop
      let n ← flowPair (t.line + 1) fuel
      return n :: (← flowItems false fuel)
    | _ => do
      let n ← node false false fuel
      return n :: (← flowItems false fuel)

/-- A single pair inside brackets. -/
def flowPair (line : Nat) : Nat → Composer Node
  | 0 => refuse
  | fuel + 1 => do
    let t ← peek
    let k ←
      if t.kind == .value || t.kind == .comma || t.kind == .closeSequence then do
        drop
        pure (emptyScalar (t.line + 1))
      else node false false fuel
    let t ← peek
    let v ← match t.kind with
      | .value => do
        drop
        let next ← peek
        if next.kind == .comma || next.kind == .closeSequence then pure (emptyScalar (t.line + 1))
        else node false false fuel
      | _ => pure (emptyScalar (t.line + 1))
    return .mapping line Tag.map [(k, v)]

def flowEntries (first : Bool) : Nat → Composer (List (Node × Node))
  | 0 => refuse
  | fuel + 1 => do
    let t ← peek
    if t.kind == .closeMapping then
      drop
      return []
    if !first then
      if t.kind == .comma then drop else refuse
    let t ← peek
    match t.kind with
    | .closeMapping => do
      drop
      return []
    | .key => do
      drop
      let next ← peek
      let k ←
        if next.kind == .value || next.kind == .comma || next.kind == .closeMapping then
          pure (emptyScalar (next.line + 1))
        else node false false fuel
      let v ← flowValue fuel
      return (k, v) :: (← flowEntries false fuel)
    | _ => do
      let k ← node false false fuel
      let _ ← peek
      return (k, emptyScalar k.line) :: (← flowEntries false fuel)

def flowValue : Nat → Composer Node
  | 0 => refuse
  | fuel + 1 => do
    let t ← peek
    match t.kind with
    | .value => do
      drop
      let next ← peek
      if next.kind == .comma || next.kind == .closeMapping then return emptyScalar (t.line + 1)
      else node false false fuel
    | _ => return emptyScalar (t.line + 1)

end

/-- Which directives stand before a document. -/
structure Directives where
  version : Bool := false
  handles : List String := []

def Directives.given (d : Directives) : Bool := d.version || !d.handles.isEmpty

/-- Directives before a document: at most one version, which is 1.1, and one for each handle. -/
def directives : Nat → Directives → Composer Directives
  | 0, _ => refuse
  | fuel + 1, seen => do
    match (← peek).kind with
    | .version major minor => do
      if seen.version ∨ major ≠ 1 ∨ minor ≠ 1 then refuse
      drop
      directives fuel { seen with version := true }
    | .tagDirective handle expansion => do
      if seen.handles.contains handle then refuse
      modify fun s => { s with handles := (handle, expansion) :: s.handles }
      drop
      directives fuel { seen with handles := handle :: seen.handles }
    | _ => return seen

def isDocumentEdge : TokenKind → Bool
  | .version .. | .tagDirective .. | .documentStart | .documentEnd | .streamEnd => true
  | _ => false

/-- The root of the first document, if there is one. -/
def document (fuel : Nat) : Composer (Option Node) := do
  let _ ← peek
  drop
  let directed := (← directives fuel {}).given
  let t ← peek
  match t.kind with
  | .streamEnd => if directed then refuse else return none
  | .documentStart => do
    drop
    let next ← peek
    let root ←
      if isDocumentEdge next.kind then pure (emptyScalar (next.line + 1)) else node true false fuel
    let _ ← peek
    return some root
  | _ => do
    if directed then refuse
    let root ← node true false fuel
    let _ ← peek
    return some root

end Compose

/-- A document if there is one, and a size: no path from alias to alias visits more nodes without
coming back. -/
structure Composed where
  document : Option Document
  size : Nat

/-- Reads the first document of a text. -/
def compose (content : Text.Bytes) : Except Fault Composed := do
  let some text := readText content | throw .notYaml
  let (tokens, ending) := scan text
  let size := 4 * tokens.length + 8
  let start : Compose.State :=
    { tokens, taken := 0, ending, anchors := [], anchored := [], count := 0
      handles := [("!", "!"), ("!!", Tag.standardSpace)] }
  let (root, s) ← (Compose.document size).run start
  return ⟨root.map (⟨·, s.anchored⟩), size⟩

end KernelSweep.Yaml
