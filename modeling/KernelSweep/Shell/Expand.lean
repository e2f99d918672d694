import KernelSweep.Shell.Arithmetic
import KernelSweep.Shell.Pathname
import KernelSweep.Shell.State

set_option autoImplicit false

namespace KernelSweep.Shell

/-- Runs a script inside the one at work. -/
abbrev Inner := Script → State → Step

inductive Glyph where
  /-- A character; what came out of an unquoted expansion may split a field. -/
  | char (c : Char) (quoted splits : Bool)
  /-- A quoted piece makes a field even if it is empty. -/
  | hold
  /-- The end of one argument and the start of the next. -/
  | boundary
  deriving DecidableEq, Repr

/-- An expansion that fails ends the shell. -/
abbrev Expanded := Except Step (List Glyph × State)

/-- Ends the shell with a message. -/
def abandon {α : Type} (st : State) (message : String) : Except Step α :=
  .error ({ st.shellMessage message with status := 2 }, .exit)

def glyphsOf (quoted : Bool) (text : String) : List Glyph :=
  (if quoted then [.hold] else []) ++ text.toList.map fun c => .char c quoted (!quoted)

/-- Marks the characters of a word inside quotes as quoted. -/
def quoteAll (quoted : Bool) (gs : List Glyph) : List Glyph :=
  if quoted then
    gs.map fun
      | .char c _ _ => .char c true false
      | g => g
  else gs

def glyphText (gs : List Glyph) : String :=
  String.ofList (gs.filterMap fun
    | .char c _ _ => some c
    | _ => none)

def glyphPattern (gs : List Glyph) : List PatternItem :=
  patternItems (gs.filterMap fun
    | .char c quoted _ => some ⟨c, quoted⟩
    | _ => none)

/-- Characters that divide fields. -/
def separators (st : State) : List Char := ((st.value? "IFS").getD " \t\n").toList

/-- The value of a parameter, named or special. -/
def parameter? (st : State) (name : String) : Option String :=
  match name with
  | "?" => some (toString st.status)
  | "$" => some (toString st.shellProcess)
  | "!" => st.lastJob.map toString
  | "#" => some (toString st.args.length)
  | "-" => some (if st.stopOnFailure then "e" else "")
  | "@" => if st.args.isEmpty then none else some (Text.join " " st.args)
  | "*" =>
    if st.args.isEmpty then none
    else some (Text.join (String.ofList ((separators st).take 1)) st.args)
  | "0" => some st.name
  | _ =>
    match Number.readNat 10 name.toList with
    | some n => st.args[n - 1]?
    | none => st.value? name

/-- The arguments as fields of their own. -/
def argumentGlyphs (quoted : Bool) : List String → List Glyph
  | [] => []
  | [arg] => glyphsOf quoted arg
  | arg :: rest => glyphsOf quoted arg ++ .boundary :: argumentGlyphs quoted rest

/-- The shortest or longest of the cuts that match. -/
def dropMatch (longest : Bool) (cuts : List (List Char × List Char)) (items : List PatternItem)
    (whole : List Char) : List Char :=
  let hits := cuts.filter fun cut => patternMatches items cut.1
  ((if longest then hits.getLast? else hits.head?).map (·.2)).getD whole

/-- Starts of a text with what follows them, shortest first. -/
def startCuts (cs : List Char) : List (List Char × List Char) :=
  (List.range (cs.length + 1)).map fun i => (cs.take i, cs.drop i)

/-- Ends of a text with what precedes them, shortest first. -/
def endCuts (cs : List Char) : List (List Char × List Char) :=
  (List.range (cs.length + 1)).map fun i => (cs.drop (cs.length - i), cs.take (cs.length - i))

/-- The output of a script, without the newlines at its end. -/
def substitute (inner : Inner) (inPlace : Bool) (text : String) (st : State) :
    Except Step (String × State) :=
  let child := { st with out := .capture, captured := [], guarded := true }
  match inner (Script.parse (if inPlace then st.line else 1) text) child with
  | (ended, .stopped) => .error ({ st.rejoin ended with captured := st.captured }, .stopped)
  | (ended, _) =>
    .ok (Text.trimNewlines (Text.decodeLossy ended.capturedBytes),
      { st.rejoin ended with captured := st.captured })

/-- The value of an expression; assignments in it stay. -/
def compute (text : String) (st : State) : Except Step (String × State) :=
  match Expr.parse text with
  | none => abandon st ("arithmetic expression: expecting primary: \"" ++ text ++ "\"")
  | some e =>
    let bindings := st.vars.map fun v => (v.name, v.value)
    match e.eval bindings with
    | .error .divisionByZero =>
      abandon st ("arithmetic expression: division by zero: \"" ++ text ++ "\"")
    | .error (.notANumber bad) => abandon st ("Illegal number: " ++ bad)
    | .ok (n, after) =>
      let fresh := (after.take (after.length - bindings.length)).reverse
      .ok (Number.decimal n, fresh.foldl (fun st (name, value) => st.assign name value) st)

/-- Applies a modifier; `nested` expands the word in it. -/
def modified (nested : String → State → Expanded) (name : String) (m : Modifier) (quoted : Bool)
    (st : State) : Expanded :=
  let value := parameter? st name
  let usable (whenEmpty : Bool) := value.isSome && !(whenEmpty && value == some "")
  let own := glyphsOf quoted (value.getD "")
  match m with
  | .orElse whenEmpty word =>
    if usable whenEmpty then .ok (own, st)
    else (nested word st).map fun (gs, st) => (quoteAll quoted gs, st)
  | .orAssign whenEmpty word =>
    if usable whenEmpty then .ok (own, st)
    else (nested word st).map fun (gs, st) => (quoteAll quoted gs, st.assign name (glyphText gs))
  | .ifSet whenEmpty word =>
    if usable whenEmpty then (nested word st).map fun (gs, st) => (quoteAll quoted gs, st)
    else .ok ([], st)
  | .orFail whenEmpty word =>
    if usable whenEmpty then .ok (own, st)
    else do
      let (gs, st) ← nested word st
      let text := glyphText gs
      abandon st (name ++ ": " ++ (if text ≠ "" then text
        else if whenEmpty then "parameter not set or null" else "parameter not set"))
  | .unknown => abandon st "Bad substitution"
  | .length => .ok (glyphsOf quoted (toString (value.getD "").length), st)
  | .dropStart longest pattern =>
    (nested pattern st).map fun (gs, st) =>
      let cs := (value.getD "").toList
      (glyphsOf quoted (String.ofList (dropMatch longest (startCuts cs) (glyphPattern gs) cs)), st)
  | .dropEnd longest pattern =>
    (nested pattern st).map fun (gs, st) =>
      let cs := (value.getD "").toList
      (glyphsOf quoted (String.ofList (dropMatch longest (endCuts cs) (glyphPattern gs) cs)), st)

def expandPart (inner : Inner) (nested : String → State → Expanded) (part : Part) (st : State) :
    Expanded :=
  match part with
  | .text chars quoted =>
    .ok ((if quoted then [.hold] else []) ++ chars.toList.map fun c => .char c quoted false, st)
  | .parameter "@" none quoted => .ok (argumentGlyphs quoted st.args, st)
  | .parameter name none quoted =>
    match parameter? st name with
    | some value => .ok (glyphsOf quoted value, st)
    | none =>
      if st.refuseUnset && name != "*" then abandon st (name ++ ": parameter not set")
      else .ok (glyphsOf quoted "", st)
  | .parameter name (some m) quoted => modified nested name m quoted st
  | .arithmetic text quoted => do
    let (gs, st) ← nested text st
    let (value, st) ← compute (glyphText gs) st
    return (glyphsOf quoted value, st)
  | .command script inPlace quoted => do
    let (value, st) ← substitute inner inPlace script st
    return (glyphsOf quoted value, st)

def expandParts (expand : Part → State → Expanded) : Word → State → Expanded
  | [], st => .ok ([], st)
  | part :: rest, st => do
    let (gs, st) ← expand part st
    let (more, st) ← expandParts expand rest st
    return (gs ++ more, st)

/-- Expands a text inside an expansion. The first argument bounds how deep they lie. -/
def expandText (inner : Inner) : Nat → String → State → Expanded
  | 0, _, st => abandon st "Bad substitution"
  | depth + 1, text, st =>
    match wholeWord text with
    | .error e => abandon st ("Syntax error: " ++ e.message)
    | .ok w => expandParts (expandPart inner (expandText inner depth)) w st

/-- How deep expansions may lie inside each other. -/
def expansionDepth : Nat := 32

/-- A tilde at the start of a word stands for the home directory. -/
def expandTilde (st : State) (w : Word) : Word :=
  match w with
  | .text chars false :: rest =>
    match chars.toList, st.value? "HOME" with
    | '~' :: after, some home =>
      if after.head? = some '/' ∨ (after.isEmpty ∧ rest.isEmpty) then
        .text home true :: .text (String.ofList after) false :: rest
      else w
    | _, _ => w
  | _ => w

def expandWord (inner : Inner) (w : Word) (st : State) : Expanded :=
  expandParts (expandPart inner (expandText inner expansionDepth)) (expandTilde st w) st

/-- Cuts a word into fields; `current` is the field at work, latest first, if one has begun. -/
def splitFields (seps : List Char) :
    Option (List PatternChar) → List Glyph → List (List PatternChar)
  | current, [] => (current.map List.reverse).toList
  | current, g :: rest =>
    match g with
    | .hold => splitFields seps (some (current.getD [])) rest
    | .boundary => (current.map List.reverse).toList ++ splitFields seps none rest
    | .char c quoted splits =>
      if splits && seps.contains c then
        if Text.isBlank c then (current.map List.reverse).toList ++ splitFields seps none rest
        else (current.getD []).reverse :: splitFields seps none rest
      else splitFields seps (some (⟨c, quoted⟩ :: current.getD [])) rest

/-- The fields of several words, patterns being replaced by the paths that match them. -/
def expandFields (inner : Inner) : List Word → State → Except Step (List String × State)
  | [], st => .ok ([], st)
  | w :: rest, st => do
    let (gs, st) ← expandWord inner w st
    let (more, st) ← expandFields inner rest st
    return ((splitFields (separators st) none gs).flatMap (pathnames st.files) ++ more, st)

/-- A word as one text, never split. -/
def expandValue (inner : Inner) (w : Word) (st : State) : Except Step (String × State) := do
  let (gs, st) ← expandWord inner w st
  return (glyphText gs, st)

end KernelSweep.Shell
