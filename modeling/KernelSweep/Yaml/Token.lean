import KernelSweep.Text.Utf8
import KernelSweep.Yaml.ScalarText

set_option autoImplicit false

namespace KernelSweep.Yaml

inductive TokenKind where
  | streamStart
  | streamEnd
  | version (major minor : Nat)
  | tagDirective (handle expansion : String)
  | documentStart
  | documentEnd
  | blockSequence
  | blockMapping
  | blockEnd
  | openSequence
  | closeSequence
  | openMapping
  | closeMapping
  | entry
  | comma
  | key
  | value
  | alias (name : String)
  | anchor (name : String)
  | tag (handle suffix : String)
  | scalar (text : String) (plain : Bool)
  deriving DecidableEq, Repr

structure Token where
  kind : TokenKind
  line : Nat
  deriving DecidableEq, Repr

/-- A token that turns out to be a key when a colon follows it. -/
structure PossibleKey where
  /-- Its place among the tokens. -/
  number : Nat
  required : Bool
  line : Nat
  column : Nat
  index : Nat

structure Scanner where
  cursor : Cursor
  tokens : List Token
  /-- Column of the innermost open block, `-1` outside all of them. -/
  indent : Int
  outerIndents : List Int
  /-- One for each open bracket or brace, innermost first, then one for the block level. -/
  keys : List (Option PossibleKey)
  keyAllowed : Bool
  /-- A second byte order mark begins the text. Every line then begins with a character that does
  not count. -/
  marked : Bool

namespace Scanner

/-- The text as it is read: a byte order mark in front only tells the encoding. -/
def withoutMark (text : List Char) : List Char :=
  if text.head? == some '\ufeff' then text.drop 1 else text

def start (text : List Char) : Scanner where
  cursor := .start text
  tokens := [⟨.streamStart, 0⟩]
  indent := -1
  outerIndents := []
  keys := [none]
  keyAllowed := true
  marked := text.head? == some '\ufeff'

def inFlow (s : Scanner) : Bool := decide (1 < s.keys.length)

abbrev Step := Except Fault Scanner

def insertAt (n : Nat) (t : Token) (ts : List Token) : List Token := ts.take n ++ t :: ts.drop n

/-- Closes blocks that are indented deeper than `column`. -/
def closeBlocks (column : Int) : List Int → Scanner → Scanner
  | [], s => s
  | outer :: rest, s =>
    if column < s.indent then
      closeBlocks column rest
        { s with
          tokens := s.tokens ++ [⟨.blockEnd, s.cursor.line⟩]
          indent := outer
          outerIndents := rest }
    else s

def unroll (s : Scanner) (column : Int) : Scanner :=
  if s.inFlow then s else closeBlocks column s.outerIndents s

/-- Opens a block at a column deeper than the current one, its token standing at place `number`. -/
def roll (s : Scanner) (column number line : Nat) (kind : TokenKind) : Scanner :=
  if s.inFlow || decide ((column : Int) ≤ s.indent) then s
  else
    { s with
      outerIndents := s.indent :: s.outerIndents
      indent := column
      tokens := insertAt number ⟨kind, line⟩ s.tokens }

/-- Gives up the possible key of the current level; a required one had to be a key. -/
def dropKey (s : Scanner) : Step :=
  match s.keys with
  | some k :: rest =>
    if k.required then .error .notYaml else .ok { s with keys := none :: rest }
  | _ => .ok s

/-- The next token may be a key. -/
def saveKey (s : Scanner) : Step :=
  if !s.keyAllowed then .ok s
  else do
    let k : PossibleKey :=
      { number := s.tokens.length
        required := !s.inFlow && s.indent == (s.cursor.column : Int)
        line := s.cursor.line
        column := s.cursor.column
        index := s.cursor.index }
    let s ← s.dropKey
    return { s with keys := some k :: s.keys.tail }

/-- A key stands on one line and within 1024 characters. -/
def isPending (s : Scanner) (k : PossibleKey) : Bool :=
  k.line == s.cursor.line && decide (s.cursor.index ≤ k.index + 1024)

def validKey (s : Scanner) : Except Fault (Option PossibleKey) :=
  match s.keys with
  | some k :: _ =>
    if s.isPending k then .ok (some k)
    else if k.required then .error .notYaml
    else .ok none
  | _ => .ok none

def push (s : Scanner) (kind : TokenKind) : Scanner :=
  { s with tokens := s.tokens ++ [⟨kind, s.cursor.line⟩] }

def skip (s : Scanner) (n : Nat) : Scanner := { s with cursor := s.cursor.skipMany n }

/-- Passes blanks, comments and line breaks. A tab is no indentation. -/
def toNextToken : Nat → Scanner → Scanner
  | 0, s => s
  | fuel + 1, s =>
    let c := s.cursor
    let c := if s.marked ∧ c.column = 0 ∧ 2 ≤ c.rest.length then c.skip else c
    let tabs := s.inFlow || !s.keyAllowed
    let c := c.skipWhile fun ch => ch == ' ' || (tabs && ch == '\t')
    let c := if c.rest.head? == some '#' then c.skipWhile (fun ch => !isBreak ch) else c
    if atBreak c.rest then
      toNextToken fuel
        { s with cursor := c.skipBreak, keyAllowed := if s.inFlow then s.keyAllowed else true }
    else { s with cursor := c }

def streamEnd (s : Scanner) : Step := do
  let s ← (s.unroll (-1)).dropKey
  return { s.push .streamEnd with keyAllowed := false }

def documentMark (kind : TokenKind) (s : Scanner) : Step := do
  let s ← (s.unroll (-1)).dropKey
  return { (s.push kind).skip 3 with keyAllowed := false }

/-- The rest of a directive line. -/
def endLine (c : Cursor) : Except Fault Cursor :=
  let c := c.skipWhile isSpaceOrTab
  let c := if c.rest.head? == some '#' then c.skipWhile (fun ch => !isBreak ch) else c
  if atBreakOrEnd c.rest then .ok c.skipBreak else .error .notYaml

/-- One or two digits. -/
def versionNumber (c : Cursor) : Except Fault (Nat × Cursor) :=
  let (digits, c) := c.takeWhile Char.isDigit
  match Number.readNat 10 digits with
  | some n => if digits.length ≤ 2 then .ok (n, c) else .error .notYaml
  | none => .error .notYaml

def versionOf (c : Cursor) : Except Fault (TokenKind × Cursor) := do
  let (major, c) ← versionNumber (c.skipWhile isSpaceOrTab)
  match c.rest with
  | '.' :: _ => do
    let (minor, c) ← versionNumber c.skip
    return (.version major minor, c)
  | _ => throw .notYaml

def isUriChar (c : Char) : Bool := isNameChar c || ";/?:@&=+$,.!~*'()[]%".toList.contains c

/-- How many bytes a character has that begins with this byte. -/
def leadWidth (b : Nat) : Option Nat :=
  if b < 0x80 then some 1
  else if 0xc0 ≤ b && b < 0xe0 then some 2
  else if 0xe0 ≤ b && b < 0xf0 then some 3
  else if 0xf0 ≤ b && b < 0xf8 then some 4
  else none

/-- Escaped bytes that continue a character, `missing` of them. -/
def continuations : Nat → List Char → Except Fault (List UInt8 × List Char)
  | 0, cs => .ok ([], cs)
  | missing + 1, '%' :: high :: low :: rest =>
    match Number.readNat 16 [high, low] with
    | some b =>
      if 0x80 ≤ b && b < 0xc0 then do
        let (more, rest) ← continuations missing rest
        return (UInt8.ofNat b :: more, rest)
      else .error .notYaml
    | none => .error .notYaml
  | _ + 1, _ => .error .notYaml

/-- The bytes of a URI. An escaped character is escaped in all its bytes. -/
def uriBytes : Nat → List Char → Except Fault (List UInt8)
  | 0, _ | _, [] => .ok []
  | fuel + 1, '%' :: high :: low :: rest =>
    match (Number.readNat 16 [high, low]).bind fun b => (leadWidth b).map (b, ·) with
    | some (b, width) => do
      let (tail, rest) ← continuations (width - 1) rest
      return UInt8.ofNat b :: tail ++ (← uriBytes fuel rest)
    | none => .error .notYaml
  | _ + 1, '%' :: _ => .error .notYaml
  | fuel + 1, c :: rest => do
    return Text.encode (String.singleton c) ++ (← uriBytes fuel rest)

/-- A URI as far as it goes, its escapes decoded. -/
def uriOf (c : Cursor) : Except Fault (List Char × Cursor) := do
  let (raw, c) := c.takeWhile isUriChar
  return ((Text.decodeLossy (← uriBytes raw.length raw)).toList, c)

/-- A tag handle: an exclamation mark, or a name between two. -/
def handleOf (c : Cursor) : Except Fault (List Char × Cursor) :=
  match c.rest with
  | '!' :: _ =>
    let (name, c) := c.skip.takeWhile isNameChar
    match c.rest with
    | '!' :: _ => .ok ('!' :: name ++ ['!'], c.skip)
    | _ => .ok ('!' :: name, c)
  | _ => .error .notYaml

def tagDirectiveOf (c : Cursor) : Except Fault (TokenKind × Cursor) := do
  let (handle, c) ← handleOf (c.skipWhile isSpaceOrTab)
  if handle ≠ ['!'] ∧ (handle.length < 2 ∨ handle.getLast? ≠ some '!') then throw .notYaml
  if !atBlank c.rest then throw .notYaml
  let (uri, c) ← uriOf (c.skipWhile isSpaceOrTab)
  if uri.isEmpty || !endsWord c.rest then throw .notYaml
  return (.tagDirective (String.ofList handle) (String.ofList uri), c)

def directive (s : Scanner) : Step := do
  let s ← (s.unroll (-1)).dropKey
  let line := s.cursor.line
  let (name, c) := s.cursor.skip.takeWhile isNameChar
  if !endsWord c.rest then throw .notYaml
  let (kind, c) ← match String.ofList name with
    | "YAML" => versionOf c
    | "TAG" => tagDirectiveOf c
    | _ => .error .notYaml
  let c ← endLine c
  return { s with cursor := c, tokens := s.tokens ++ [⟨kind, line⟩], keyAllowed := false }

def openFlow (kind : TokenKind) (s : Scanner) : Step := do
  let s ← s.saveKey
  let s := (s.push kind).skip 1
  return { s with keys := none :: s.keys, keyAllowed := true }

def closeFlow (kind : TokenKind) (s : Scanner) : Step := do
  let s ← s.dropKey
  let s := (s.push kind).skip 1
  return { s with keys := if s.inFlow then s.keys.tail else s.keys, keyAllowed := false }

def comma (s : Scanner) : Step := do
  let s ← s.dropKey
  return { (s.push .comma).skip 1 with keyAllowed := true }

def entry (s : Scanner) : Step := do
  if !s.inFlow && !s.keyAllowed then throw .notYaml
  let s ← (s.roll s.cursor.column s.tokens.length s.cursor.line .blockSequence).dropKey
  return { (s.push .entry).skip 1 with keyAllowed := true }

def key (s : Scanner) : Step := do
  if !s.inFlow && !s.keyAllowed then throw .notYaml
  let s ← (s.roll s.cursor.column s.tokens.length s.cursor.line .blockMapping).dropKey
  return { (s.push .key).skip 1 with keyAllowed := !s.inFlow }

def value (s : Scanner) : Step := do
  match ← s.validKey with
  | some k =>
    let s := { s with tokens := insertAt k.number ⟨.key, k.line⟩ s.tokens }
    let s := s.roll k.column k.number k.line .blockMapping
    return { (s.push .value).skip 1 with keys := none :: s.keys.tail, keyAllowed := false }
  | none =>
    let s := { s with keys := none :: s.keys.tail }
    if s.inFlow then return { (s.push .value).skip 1 with keyAllowed := false }
    else
      if !s.keyAllowed then throw .notYaml
      let s := s.roll s.cursor.column s.tokens.length s.cursor.line .blockMapping
      return { (s.push .value).skip 1 with keyAllowed := true }

/-- Adds a token that may be a key, and goes on behind it. -/
def keyToken (s : Scanner) (scan : Scanner → Except Fault (TokenKind × Bool × Cursor)) : Step := do
  let s ← s.saveKey
  let (kind, keyAllowed, c) ← scan s
  return { s.push kind with cursor := c, keyAllowed }

def anchorName (make : String → TokenKind) (s : Scanner) :
    Except Fault (TokenKind × Bool × Cursor) :=
  let (name, c) := s.cursor.skip.takeWhile isNameChar
  let stops : Bool := match c.rest with
    | ch :: _ => endsWord c.rest || "?:,]\x7d%@".toList.contains ch || ch == '\x60'
    | [] => true
  if name.isEmpty || !stops then .error .notYaml else .ok (make (String.ofList name), false, c)

def tagOf (s : Scanner) : Except Fault (TokenKind × Bool × Cursor) := do
  let c := s.cursor
  let (handle, suffix, c) ← (match c.rest with
    | '!' :: '<' :: _ => do
      let (uri, c) ← uriOf (c.skipMany 2)
      match uri, c.rest with
      | [], _ => .error Fault.notYaml
      | _, '>' :: _ => .ok (([] : List Char), uri, c.skip)
      | _, _ => .error .notYaml
    | _ => do
      let (handle, c) ← handleOf c
      let (uri, c) ← uriOf c
      if handle.length > 1 && handle.getLast? == some '!' then
        if uri.isEmpty then throw .notYaml
        return (handle, uri, c)
      else
        let suffix := handle.drop 1 ++ uri
        return if suffix.isEmpty then ([], ['!'], c) else (['!'], suffix, c))
  if !endsWord c.rest then throw .notYaml
  return (.tag (String.ofList handle) (String.ofList suffix), false, c)

def quotedOf (single : Bool) (s : Scanner) : Except Fault (TokenKind × Bool × Cursor) := do
  let c := s.cursor.skip
  let (text, c) ← Quoted.scan single (c.rest.length + 1) c
  return (.scalar (String.ofList text) false, false, c)

def plainOf (s : Scanner) : Except Fault (TokenKind × Bool × Cursor) := do
  let c := s.cursor
  let (text, broken, c) ←
    Plain.scan s.inFlow (s.indent + 1).toNat (c.rest.length + 1) {} c
  return (.scalar (String.ofList text) true, broken, c)

def blockOf (literal : Bool) (s : Scanner) : Step := do
  let s ← s.dropKey
  let (text, c) ← Block.scan literal s.indent s.cursor.skip
  return { s.push (.scalar (String.ofList text) false) with cursor := c, keyAllowed := true }

/-- Characters that start no plain scalar. -/
def isIndicator (c : Char) : Bool :=
  "-?:,[]\x7b\x7d#&*!|>'\"%@".toList.contains c || c == '\x60' || isSpaceOrTab c || isBreak c

def startsPlain (inFlow : Bool) : List Char → Bool
  | [] => false
  | c :: rest =>
    !isIndicator c || (c == '-' && !atBlank rest) ||
      (!inFlow && (c == '?' || c == ':') && !endsWord rest)

/-- The next token. -/
def next (s : Scanner) : Step :=
  let s := toNextToken (s.cursor.rest.length + 1) s
  let s := s.unroll s.cursor.column
  let first := s.cursor.column == 0
  match s.cursor.rest with
  | [] => s.streamEnd
  | c :: rest =>
    if first && c == '%' then s.directive
    else if s.cursor.atDocumentMark then
      s.documentMark (if c == '-' then .documentStart else .documentEnd)
    else if c == '[' then s.openFlow .openSequence
    else if c == '{' then s.openFlow .openMapping
    else if c == ']' then s.closeFlow .closeSequence
    else if c == '}' then s.closeFlow .closeMapping
    else if c == ',' then s.comma
    else if c == '-' && endsWord rest then s.entry
    else if c == '?' && (s.inFlow || endsWord rest) then s.key
    else if c == ':' && (s.inFlow || endsWord rest) then s.value
    else if c == '*' then s.keyToken (anchorName .alias)
    else if c == '&' then s.keyToken (anchorName .anchor)
    else if c == '!' then s.keyToken tagOf
    else if c == '|' && !s.inFlow then s.blockOf true
    else if c == '>' && !s.inFlow then s.blockOf false
    else if c == '\'' then s.keyToken (quotedOf true)
    else if c == '"' then s.keyToken (quotedOf false)
    else if startsPlain s.inFlow (c :: rest) then s.keyToken plainOf
    else .error .notYaml

def isFinished (s : Scanner) : Bool :=
  match s.tokens.getLast? with
  | some t => t.kind == .streamEnd
  | none => false

/-- Where a scan stops. -/
inductive Ending where
  | complete
  /-- What follows is no YAML; the tokens with these numbers might still become keys. -/
  | faulty (pending : List Nat)

def faultAfter (s : Scanner) : List Token × Ending :=
  (s.tokens, .faulty (((s.keys.filterMap id).filter s.isPending).map PossibleKey.number))

/-- All tokens. Every step but the last takes a character. When the text is `cut` no token may
need what comes behind it; a step looks at four characters and at one behind its token. -/
def run (cut : Bool) : Nat → Scanner → List Token × Ending
  | 0, s => s.faultAfter
  | fuel + 1, s =>
    if cut && decide ((toNextToken (s.cursor.rest.length + 1) s).cursor.rest.length < 4) then
      s.faultAfter
    else
      match s.next with
      | .error _ => s.faultAfter
      | .ok after =>
        if cut && after.cursor.rest.isEmpty then s.faultAfter
        else if after.isFinished then (after.tokens, .complete)
        else run cut fuel after

end Scanner

/-- Characters a YAML text may hold. -/
def isAllowed (c : Char) : Bool :=
  let n := c.toNat
  n == 0x09 || n == 0x0a || n == 0x0d || (0x20 ≤ n && n ≤ 0x7e) || n == 0x85 ||
    (0xa0 ≤ n && n ≤ 0xfffd) || 0x10000 ≤ n

/-- Text is read and checked in pieces of so many bytes. -/
def pieceSize : Nat := 512

/-- How many characters stand in the pieces before the first one with a character that is not
allowed; none when there is no such piece. `used` bytes and `here` characters of the current piece
have been passed. -/
def readable (used done here : Nat) : List Char → Option Nat
  | [] => none
  | c :: rest =>
    if pieceSize < used + c.utf8Size then
      if isAllowed c then readable c.utf8Size (done + here) 1 rest else some (done + here)
    else if isAllowed c then readable (used + c.utf8Size) done (here + 1) rest
    else some done

/-- The tokens of a text and where they end. -/
def scan (text : String) : List Token × Scanner.Ending :=
  let cs := text.toList
  match readable 0 0 0 cs with
  | none => (Scanner.start (Scanner.withoutMark cs)).run false (cs.length + 2)
  | some n => (Scanner.start (Scanner.withoutMark (cs.take n))).run true (cs.length + 2)

end KernelSweep.Yaml
