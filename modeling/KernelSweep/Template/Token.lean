import KernelSweep.Number.Integer
import KernelSweep.Text.Blank
import KernelSweep.Text.Letter
import KernelSweep.Text.Quoted

set_option autoImplicit false

namespace KernelSweep.Template

/-- Lines count from one, columns are bytes from zero. -/
structure Position where
  line : Nat
  column : Nat
  deriving DecidableEq, Repr

namespace Position

def start : Position := ⟨1, 0⟩

def next (p : Position) (c : Char) : Position :=
  if c = '\n' then ⟨p.line + 1, 0⟩ else ⟨p.line, p.column + c.utf8Size⟩

def after (p : Position) (cs : List Char) : Position := cs.foldl next p

end Position

inductive Kind where
  | text
  | leftBraces
  | rightBraces
  | space
  | assign
  | declare
  | pipe
  | leftParen
  | rightParen
  | mark
  | string
  | rawString
  | number
  | complex
  | character
  | boolean
  | dot
  | field
  | variable
  | identifier
  | keyword
  | fault
  | finish
  deriving DecidableEq, Repr

structure Token where
  kind : Kind
  text : String
  start : Position
  deriving DecidableEq, Repr

namespace Token

/-- How a token appears in messages. -/
def shown (t : Token) : String :=
  match t.kind with
  | .finish => "EOF"
  | .fault => t.text
  | .keyword | .dot => "<" ++ t.text ++ ">"
  | _ =>
    if 10 < t.text.utf8ByteSize then Text.quoted (String.ofList (t.text.toList.take 10)) ++ "..."
    else Text.quoted t.text

def keywords : List String :=
  ["block", "break", "continue", "define", "else", "end", "if", "nil", "range", "template", "with"]

end Token

namespace Scan

def isSpace (c : Char) : Bool := c == ' ' || c == '\t' || c == '\r' || c == '\n'

/-- Characters of names. -/
def isWord (c : Char) : Bool := c == '_' || Text.isLetter c || Text.isDecimalDigit c

/-- The text before the next opening braces, and what follows them when there are any. -/
def cutBraces : List Char → List Char × Option (List Char)
  | [] => ([], none)
  | '{' :: '{' :: rest => ([], some rest)
  | c :: rest =>
    let (before, after) := cutBraces rest
    (c :: before, after)

/-- The text before the end of a comment, and what follows it when there is one. -/
def cutComment : List Char → List Char × Option (List Char)
  | [] => ([], none)
  | '*' :: '/' :: rest => ([], some rest)
  | c :: rest =>
    let (before, after) := cutComment rest
    (c :: before, after)

/-- A minus sign and a space right after opening braces. -/
def leftTrim : List Char → Bool
  | '-' :: c :: _ => isSpace c
  | _ => false

/-- Closing braces: whether they trim, and what follows them. -/
def closing : List Char → Option (Bool × List Char)
  | '}' :: '}' :: rest => some (false, rest)
  | c :: '-' :: '}' :: '}' :: rest => if isSpace c then some (true, rest) else none
  | _ => none

/-- A word may be followed by these only. -/
def atTerminator : List Char → Bool
  | [] => true
  | '}' :: '}' :: _ => true
  | c :: _ =>
    isSpace c || c == '.' || c == ',' || c == '|' || c == ':' || c == ')' || c == '('

/-- The rest of a quoted constant up to its closing quote, which is included. -/
def cutQuote (quote : Char) : List Char → Option (List Char × List Char)
  | [] => none
  | '\\' :: c :: rest =>
    if c = '\n' then none
    else (cutQuote quote rest).map fun (body, rest) => ('\\' :: c :: body, rest)
  | c :: rest =>
    if c = '\n' then none
    else if c = quote then some ([c], rest)
    else (cutQuote quote rest).map fun (body, rest) => (c :: body, rest)

def accept (p : Char → Bool) : List Char → List Char × List Char
  | c :: rest => if p c then ([c], rest) else ([], c :: rest)
  | [] => ([], [])

def isDecimal (c : Char) : Bool := c.isDigit || c == '_'

/-- The digits that may follow a base mark. -/
def digitsOf (mark : List Char) : Char → Bool :=
  match mark with
  | ['x'] | ['X'] => fun c => (Number.digit? 16 c).isSome || c == '_'
  | ['o'] | ['O'] => fun c => (Number.digit? 8 c).isSome || c == '_'
  | ['b'] | ['B'] => fun c => (Number.digit? 2 c).isSome || c == '_'
  | _ => isDecimal

/-- The longest piece that looks like a number, and the rest. -/
def cutNumber (cs : List Char) : List Char × List Char :=
  let (sign, cs) := accept (fun c => c == '+' || c == '-') cs
  let (zero, cs) := accept (· == '0') cs
  let (mark, cs) := if zero.isEmpty then ([], cs) else accept "xXoObB".toList.contains cs
  let digit := digitsOf mark
  let whole := cs.takeWhile digit
  let (point, cs) := accept (· == '.') (cs.dropWhile digit)
  let part := if point.isEmpty then [] else cs.takeWhile digit
  let cs := if point.isEmpty then cs else cs.dropWhile digit
  let powers :=
    if mark.isEmpty then ['e', 'E'] else if mark = ['x'] ∨ mark = ['X'] then ['p', 'P'] else []
  let (e, cs) := accept powers.contains cs
  let (esign, cs) := if e.isEmpty then ([], cs) else accept (fun c => c == '+' || c == '-') cs
  let power := if e.isEmpty then [] else cs.takeWhile isDecimal
  let cs := if e.isEmpty then cs else cs.dropWhile isDecimal
  let (imaginary, cs) := accept (· == 'i') cs
  (sign ++ zero ++ mark ++ whole ++ point ++ part ++ e ++ esign ++ power ++ imaginary, cs)

/-- A number and the rest, or what is no number: one may not run into a word. -/
def takeNumber (cs : List Char) : Except (List Char) (List Char × List Char) :=
  match cutNumber cs with
  | (number, c :: rest) => if isWord c then .error (number ++ [c]) else .ok (number, c :: rest)
  | (number, []) => .ok (number, [])

/-- A code point with the character it stands for. -/
def codePoint (c : Char) : String :=
  let digits := Nat.toDigits 16 c.toNat
  let upper := (List.replicate (4 - digits.length) '0' ++ digits).map Char.toUpper
  "U+" ++ String.ofList upper ++
    if Text.isPrintable c then " '" ++ String.singleton c ++ "'" else ""

def fault (message : String) (start : Position) : List Token := [⟨.fault, message, start⟩]

def wordKind (word : String) : Kind :=
  if Token.keywords.contains word then .keyword
  else if word = "true" ∨ word = "false" then .boolean
  else .identifier

/-- Where the scan stands: in text, or in an action inside so many open parentheses. -/
inductive Mode where
  | text
  | action (depth : Nat)
  deriving DecidableEq, Repr

/-- One token or none, with the mode, the position and the rest to go on with; a fault ends the
scan. -/
inductive Step where
  | token (t : Token) (mode : Mode) (position : Position) (rest : List Char)
  | skip (mode : Mode) (position : Position) (rest : List Char)
  | stop (ts : List Token)

def token (kind : Kind) (cs : List Char) (start : Position) (mode : Mode) (rest : List Char) :
    Step :=
  .token ⟨kind, String.ofList cs, start⟩ mode (start.after cs) rest

/-- Behind closing braces. -/
def afterClosing (trims : Bool) (start : Position) (rest : List Char) : Position × List Char :=
  if trims then (start.after (rest.takeWhile isSpace), rest.dropWhile isSpace) else (start, rest)

/-- From the opening braces on. -/
def openBraces (start : Position) (after : List Char) : Step :=
  let marker := if leftTrim after then after.take 2 else []
  let inner := after.drop marker.length
  let here := start.after ('{' :: '{' :: marker)
  match inner with
  | '/' :: '*' :: body =>
    match cutComment body with
    | (_, none) => .stop (fault "unclosed comment" here)
    | (comment, some rest) =>
      match closing rest with
      | none => .stop (fault "comment ends before closing delimiter" here)
      | some (trims, left) =>
        let behind := rest.take (if trims then 4 else 2)
        let ended := here.after ('/' :: '*' :: comment ++ '*' :: '/' :: behind)
        let (position, left) := afterClosing trims ended left
        .skip .text position left
  | _ => .token ⟨.leftBraces, "\x7b\x7b", start⟩ (.action 0) here inner

def textStep (start : Position) (cs : List Char) : Step :=
  match cutBraces cs with
  | ([], none) => .stop [⟨.finish, "", start⟩]
  | (before, none) => token .text before start .text []
  | (before, some after) =>
    let here := start.after before
    let kept := if leftTrim after then Text.dropTail isSpace before else before
    if kept.isEmpty then openBraces here after
    else .token ⟨.text, String.ofList kept, start⟩ .text here ('{' :: '{' :: after)

def wordStep (kind : List Char → Kind) (lead : List Char) (depth : Nat) (start : Position)
    (cs : List Char) : Step :=
  let word := lead ++ cs.takeWhile isWord
  let rest := cs.dropWhile isWord
  if atTerminator rest then token (kind word) word start (.action depth) rest
  else
    match rest with
    | c :: _ => .stop (fault ("bad character " ++ codePoint c) start)
    | [] => .stop []

/-- Two numbers with a sign between them are one complex number when the second one is
imaginary. -/
def numberStep (depth : Nat) (start : Position) (cs : List Char) : Step :=
  let bad (cs : List Char) : Step :=
    .stop (fault ("bad number syntax: " ++ Text.quoted (String.ofList cs)) start)
  match takeNumber cs with
  | .error cs => bad cs
  | .ok (number, rest) =>
    match rest with
    | c :: _ =>
      if c = '+' ∨ c = '-' then
        match takeNumber rest with
        | .error cs => bad (number ++ cs)
        | .ok (second, rest) =>
          if second.getLast? = some 'i' then
            token .complex (number ++ second) start (.action depth) rest
          else bad (number ++ second)
      else token .number number start (.action depth) rest
    | [] => token .number number start (.action depth) rest

def quoteStep (kind : Kind) (quote : Char) (message : String) (depth : Nat) (start : Position)
    (cs : List Char) : Step :=
  match cutQuote quote cs with
  | none => .stop (fault message start)
  | some (body, rest) => token kind (quote :: body) start (.action depth) rest

def rawStep (depth : Nat) (start : Position) (cs : List Char) : Step :=
  match Text.cutList (· == '\x60') cs with
  | (_, none) => .stop (fault "unterminated raw quoted string" start)
  | (body, some rest) => token .rawString ('\x60' :: body ++ ['\x60']) start (.action depth) rest

/-- A run of spaces stops short of one that belongs to trimming braces. -/
def spaceStep (depth : Nat) (start : Position) (cs : List Char) : Step :=
  let run := cs.takeWhile isSpace
  let rest := cs.dropWhile isSpace
  match rest with
  | '-' :: '}' :: '}' :: _ =>
    let kept := run.dropLast
    token .space kept start (.action depth) (cs.drop kept.length)
  | _ => token .space run start (.action depth) rest

def actionStep (depth : Nat) (start : Position) (cs : List Char) : Step :=
  match closing cs with
  | some (trims, rest) =>
    if depth ≠ 0 then .stop (fault "unclosed left paren" start)
    else
      let here := if trims then start.after (cs.take 2) else start
      let (position, rest) := afterClosing trims (here.after ['}', '}']) rest
      .token ⟨.rightBraces, "\x7d\x7d", here⟩ .text position rest
  | none =>
    let single (kind : Kind) (c : Char) (rest : List Char) :=
      token kind [c] start (.action depth) rest
    match cs with
    | [] => .stop (fault "unclosed action" start)
    | '=' :: rest => single .assign '=' rest
    | ':' :: '=' :: rest => token .declare [':', '='] start (.action depth) rest
    | ':' :: _ => .stop (fault "expected :=" start)
    | '|' :: rest => single .pipe '|' rest
    | '"' :: rest => quoteStep .string '"' "unterminated quoted string" depth start rest
    | '\x60' :: rest => rawStep depth start rest
    | '\'' :: rest => quoteStep .character '\'' "unterminated character constant" depth start rest
    | '$' :: rest => wordStep (fun _ => .variable) ['$'] depth start rest
    | '(' :: rest => token .leftParen ['('] start (.action (depth + 1)) rest
    | ')' :: rest =>
      if depth = 0 then .stop (fault "unexpected right paren" start)
      else token .rightParen [')'] start (.action (depth - 1)) rest
    | '.' :: c :: rest =>
      if c.isDigit then numberStep depth start cs
      else
        let kind (word : List Char) : Kind := if word.length = 1 then .dot else .field
        wordStep kind ['.'] depth start (c :: rest)
    | c :: rest =>
      if isSpace c then spaceStep depth start cs
      else if c == '.' || c == '+' || c == '-' || c.isDigit then numberStep depth start cs
      else if isWord c then wordStep (fun word => wordKind (String.ofList word)) [] depth start cs
      else if 0x20 ≤ c.toNat && c.toNat < 0x7f then single .mark c rest
      else .stop (fault ("unrecognized character in action: " ++ codePoint c) start)

def step (mode : Mode) (start : Position) (cs : List Char) : Step :=
  match mode with
  | .text => textStep start cs
  | .action depth => actionStep depth start cs

/-- Every step takes at least one character, so the fuel never runs out. -/
def run : Nat → Mode → Position → List Char → List Token
  | 0, _, _, _ => []
  | fuel + 1, mode, start, cs =>
    match step mode start cs with
    | .token t mode position rest => t :: run fuel mode position rest
    | .skip mode position rest => run fuel mode position rest
    | .stop ts => ts

end Scan

/-- The tokens of a template; the last one is its end or the fault that stopped the scan. -/
def Token.scan (input : String) : List Token :=
  let cs := input.toList
  Scan.run (2 * cs.length + 2) .text .start cs

end KernelSweep.Template
