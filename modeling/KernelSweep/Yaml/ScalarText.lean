import KernelSweep.Number.Integer
import KernelSweep.Yaml.Cursor

set_option autoImplicit false

namespace KernelSweep.Yaml

/-- The text is not YAML; no more is said about why. -/
inductive Fault where
  | notYaml
  deriving DecidableEq, Repr

/-- Blanks and line breaks between two parts of a scalar. -/
structure Gap where
  blanks : List Char := []
  firstBreak : List Char := []
  moreBreaks : List Char := []
  /-- A line break has been passed. -/
  broken : Bool := false

namespace Gap

def fold (firstBreak moreBreaks : List Char) : List Char :=
  if firstBreak.head? = some '\n' then if moreBreaks.isEmpty then [' '] else moreBreaks
  else firstBreak ++ moreBreaks

def text (g : Gap) : List Char := if g.broken then fold g.firstBreak g.moreBreaks else g.blanks

/-- Takes blanks and line breaks. In a plain scalar a tab may not stand in for indentation. -/
def take (tabLimit : Nat) : Nat → Gap → Cursor → Except Fault (Gap × Cursor)
  | 0, g, c => .ok (g, c)
  | fuel + 1, g, c =>
    match c.rest with
    | [] => .ok (g, c)
    | ch :: _ =>
      if isSpaceOrTab ch then
        if g.broken && decide (c.column < tabLimit) && ch == '\t' then .error .notYaml
        else if g.broken then take tabLimit fuel g c.skip
        else take tabLimit fuel { g with blanks := g.blanks ++ [ch] } c.skip
      else if isBreak ch then
        let (b, after) := c.takeBreak
        if g.broken then take tabLimit fuel { g with moreBreaks := g.moreBreaks ++ b } after
        else take tabLimit fuel { g with blanks := [], firstBreak := b, broken := true } after
      else .ok (g, c)

end Gap

namespace Plain

/-- Characters that end a plain scalar inside brackets or braces. -/
def endsInFlow (c : Char) : Bool :=
  c == ',' || c == '?' || c == '[' || c == ']' || c == '{' || c == '}'

/-- The characters up to a blank or an indicator. -/
def part (inFlow : Bool) : Nat → Cursor → List Char × Cursor
  | 0, c => ([], c)
  | fuel + 1, c =>
    match c.rest with
    | [] => ([], c)
    | ch :: rest =>
      if isSpaceOrTab ch || isBreak ch || (ch == ':' && endsWord rest) || (inFlow && endsInFlow ch)
      then ([], c)
      else
        let (more, after) := part inFlow fuel c.skip
        (ch :: more, after)

/-- The text of a plain scalar, and whether a line break followed it. -/
def scan (inFlow : Bool) (indent : Nat) : Nat → Gap → Cursor →
    Except Fault (List Char × Bool × Cursor)
  | 0, g, c => .ok ([], g.broken, c)
  | fuel + 1, g, c =>
    if c.atDocumentMark || c.rest.head? == some '#' then .ok ([], g.broken, c)
    else do
      let (here, after) := part inFlow (c.rest.length + 1) c
      let text := if here.isEmpty then [] else g.text ++ here
      if !(atBlank after.rest || atBreak after.rest) then
        return (text, if here.isEmpty then g.broken else false, after)
      else
        let (gap, next) ← Gap.take indent (after.rest.length + 1) {} after
        if !inFlow && decide (next.column < indent) then return (text, gap.broken, next)
        else
          let (more, broken, last) ← scan inFlow indent fuel gap next
          return (text ++ more, broken, last)

end Plain

namespace Quoted

def hexDigits (count : Nat) (cs : List Char) : Option Nat :=
  if cs.length < count then none else Number.readNat 16 (cs.take count)

/-- The character of an escape after the backslash, and how many characters it takes. -/
def escape : List Char → Option (Char × Nat)
  | [] => none
  | c :: rest =>
    let coded (count : Nat) := do
      let n ← hexDigits count rest
      guard (n < 0xd800 || (0xe000 ≤ n && n ≤ 0x10ffff))
      return (Char.ofNat n, count + 1)
    match c with
    | '0' => some ('\x00', 1)
    | 'a' => some ('\x07', 1)
    | 'b' => some ('\x08', 1)
    | 't' | '\t' => some ('\t', 1)
    | 'n' => some ('\n', 1)
    | 'v' => some ('\x0b', 1)
    | 'f' => some ('\x0c', 1)
    | 'r' => some ('\r', 1)
    | 'e' => some ('\x1b', 1)
    | ' ' => some (' ', 1)
    | '"' => some ('"', 1)
    | '\'' => some ('\'', 1)
    | '/' => some ('/', 1)
    | '\\' => some ('\\', 1)
    | 'N' => some ('\u0085', 1)
    | '_' => some ('\u00a0', 1)
    | 'L' => some ('\u2028', 1)
    | 'P' => some ('\u2029', 1)
    | 'x' => coded 2
    | 'u' => coded 4
    | 'U' => coded 8
    | _ => none

/-- What ended a run of characters. -/
inductive Stop where
  | quote
  | gap
  /-- A backslash before a line break. -/
  | escapedBreak

/-- The characters up to a blank, an escaped line break or the closing quote. -/
def part (single : Bool) : Nat → Cursor → Except Fault (List Char × Stop × Cursor)
  | 0, _ => .error .notYaml
  | fuel + 1, c =>
    let cons (ch : Char) (after : Cursor) := do
      let (more, stop, last) ← part single fuel after
      return (ch :: more, stop, last)
    match c.rest with
    | [] => .ok ([], .gap, c)
    | ch :: rest =>
      if isSpaceOrTab ch || isBreak ch then .ok ([], .gap, c)
      else if single then
        if ch == '\'' then
          if rest.head? == some '\'' then cons '\'' (c.skipMany 2) else .ok ([], .quote, c.skip)
        else cons ch c.skip
      else if ch == '"' then .ok ([], .quote, c.skip)
      else if ch == '\\' then
        if atBreak rest then .ok ([], .escapedBreak, c.skip.skipBreak)
        else
          match escape rest with
          | some (meant, taken) => cons meant (c.skipMany (taken + 1))
          | none => .error .notYaml
      else cons ch c.skip

/-- The text of a quoted scalar behind its opening quote. -/
def scan (single : Bool) : Nat → Cursor → Except Fault (List Char × Cursor)
  | 0, _ => .error .notYaml
  | fuel + 1, c =>
    if c.atDocumentMark || c.rest.isEmpty then .error .notYaml
    else do
      let (here, stop, after) ← part single (c.rest.length + 1) c
      match stop with
      | .quote => return (here, after)
      | .gap => do
        let (gap, next) ← Gap.take 0 (after.rest.length + 1) {} after
        let (more, last) ← scan single fuel next
        return (here ++ gap.text ++ more, last)
      | .escapedBreak => do
        let (gap, next) ← Gap.take 0 (after.rest.length + 1) { broken := true } after
        let (more, last) ← scan single fuel next
        return (here ++ gap.text ++ more, last)

end Quoted

namespace Block

inductive Chomping where
  | strip
  | clip
  | keep

def chomping? : List Char → Option Chomping
  | '+' :: _ => some .keep
  | '-' :: _ => some .strip
  | _ => none

/-- The chomping and the indentation given after the indicator. -/
def header (c : Cursor) : Except Fault (Chomping × Nat × Cursor) :=
  let digit (c : Cursor) : Except Fault (Nat × Cursor) :=
    match c.rest with
    | d :: _ =>
      if d == '0' then .error .notYaml
      else if d.isDigit then .ok (d.toNat - '0'.toNat, c.skip)
      else .ok (0, c)
    | [] => .ok (0, c)
  match chomping? c.rest with
  | some chomping => do
    let (increment, c) ← digit c.skip
    return (chomping, increment, c)
  | none => do
    let (increment, c) ← digit c
    if increment = 0 then return (.clip, 0, c)
    match chomping? c.rest with
    | some chomping => return (chomping, increment, c.skip)
    | none => return (.clip, increment, c)

/-- Indentation and empty lines; an indentation of zero is still to be found. Returns the line
breaks and the widest indentation seen. -/
def breaks (indent : Nat) : Nat → Nat → Cursor → Except Fault (List Char × Nat × Cursor)
  | 0, widest, c => .ok ([], widest, c)
  | fuel + 1, widest, c =>
    let spaces := (c.rest.takeWhile (· == ' ')).length
    let c := c.skipMany (if indent = 0 then spaces else min spaces (indent - c.column))
    let widest := max widest c.column
    if (indent == 0 || decide (c.column < indent)) && c.rest.head? == some '\t' then
      .error .notYaml
    else if atBreak c.rest then do
      let (b, after) := c.takeBreak
      let (more, widest, last) ← breaks indent fuel widest after
      return (b ++ more, widest, last)
    else .ok ([], widest, c)

structure Lines where
  text : List Char := []
  leadingBreak : List Char := []
  trailingBreaks : List Char := []
  leadingBlank : Bool := false

/-- Content lines at the indentation. -/
def content (literal : Bool) (indent : Nat) : Nat → Lines → Cursor → Except Fault (Lines × Cursor)
  | 0, l, c => .ok (l, c)
  | fuel + 1, l, c =>
    if c.column ≠ indent || c.rest.isEmpty then .ok (l, c)
    else do
      let trailingBlank := atBlank c.rest
      let joint :=
        if !literal && !l.leadingBlank && !trailingBlank && l.leadingBreak.head? == some '\n' then
          if l.trailingBreaks.isEmpty then [' '] else []
        else l.leadingBreak
      let (line, after) := c.takeWhile (fun ch => !isBreak ch)
      let (b, next) := after.takeBreak
      let (more, _, last) ← breaks indent (next.rest.length + 1) 0 next
      content literal indent fuel
        { text := l.text ++ joint ++ l.trailingBreaks ++ line
          leadingBreak := b
          trailingBreaks := more
          leadingBlank := trailingBlank } last

/-- The text of a block scalar behind its indicator, inside a block indented by `outer`. -/
def scan (literal : Bool) (outer : Int) (c : Cursor) : Except Fault (List Char × Cursor) := do
  let (chomping, increment, c) ← header c
  let c := c.skipWhile isSpaceOrTab
  let c := if c.rest.head? == some '#' then c.skipWhile (fun ch => !isBreak ch) else c
  if !atBreakOrEnd c.rest then throw .notYaml
  let c := c.skipBreak
  let given : Nat := if increment = 0 then 0 else (max outer 0).toNat + increment
  let (first, widest, c) ← breaks given (c.rest.length + 1) 0 c
  let indent := if given = 0 then max (max widest (outer + 1).toNat) 1 else given
  let (l, c) ← content literal indent (c.rest.length + 1) { trailingBreaks := first } c
  let tail := match chomping with
    | .strip => []
    | .clip => l.leadingBreak
    | .keep => l.leadingBreak ++ l.trailingBreaks
  return (l.text ++ tail, c)

end Block

end KernelSweep.Yaml
