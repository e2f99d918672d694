import KernelSweep.Shell.Token

set_option autoImplicit false

namespace KernelSweep.Shell

inductive RedirectKind where
  | input
  | output
  | append
  /-- The descriptor becomes a copy of another. -/
  | copy
  /-- The target is what is read. -/
  | document
  deriving DecidableEq, Repr

structure Redirect where
  descriptor : Nat
  kind : RedirectKind
  target : Word
  deriving DecidableEq, Repr

inductive Script where
  | empty
  | simple (assignments : List (String × Word)) (words : List Word) (redirects : List Redirect)
  /-- A simple command that nothing follows; a program takes the place of the shell. -/
  | last (assignments : List (String × Word)) (words : List Word) (redirects : List Redirect)
  /-- A command and the line it starts on. -/
  | located (line : Nat) (body : Script)
  | sequence (first second : Script)
  | background (body : Script)
  | both (first second : Script)
  | either (first second : Script)
  | negated (body : Script)
  | pipe (first second : Script)
  | group (body : Script) (redirects : List Redirect)
  | subshell (body : Script) (redirects : List Redirect)
  | branch (condition yes no : Script) (redirects : List Redirect)
  /-- Runs the body while the condition succeeds, or fails if `whileFailing`. -/
  | loop (whileFailing : Bool) (condition body : Script) (redirects : List Redirect)
  /-- Without words the body runs for each argument. -/
  | each (name : String) (words : Option (List Word)) (body : Script) (redirects : List Redirect)
  | choose (subject : Word) (arms : Script) (redirects : List Redirect)
  /-- One arm of a choice and the arms behind it. -/
  | arm (patterns : List Word) (body others : Script)
  | define (name : String) (body : Script)
  /-- A line that cannot be read. -/
  | fault (line : Nat) (error : ScriptError)
  deriving Repr

/-- Marks the command that nothing follows. -/
def Script.markLast : Script → Script
  | .simple assignments words redirects => .last assignments words redirects
  | .located line body => .located line body.markLast
  | .sequence first .empty => .sequence first.markLast .empty
  | .sequence first second => .sequence first second.markLast
  | .both first second => .both first second.markLast
  | .either first second => .either first second.markLast
  | .group body [] => .group body.markLast []
  | .branch condition yes no [] => .branch condition yes.markLast no.markLast []
  | .choose subject arms [] => .choose subject arms.markLast []
  | .arm patterns body others => .arm patterns body.markLast others.markLast
  | script => script

/-- Words that end a list of commands where a command could stand. -/
def closingWords : List String :=
  ["then", "do", "done", "fi", "else", "elif", "esac", "\x7d"]

/-- Words with a meaning of their own where a command could stand. -/
def keywords : List String :=
  closingWords ++ ["!", "case", "for", "if", "in", "until", "while", "\x7b"]

def isKeyword (text : String) (w : Word) : Bool := plainText? w == some text

/-- Splits an assignment off a word: a name, an equals sign and a value. -/
def assignment? : Word → Option (String × Word)
  | .text chars false :: rest =>
    let (before, after) := Text.cut '=' chars
    match after with
    | some value =>
      if isName before then
        some (before, if value = "" then rest else .text value false :: rest)
      else none
    | none => none
  | _ => none

def redirectKind? : String → Option (RedirectKind × Nat)
  | "<" => some (.input, 0)
  | ">" | ">|" => some (.output, 1)
  | ">>" => some (.append, 1)
  | ">&" => some (.copy, 1)
  | "<&" => some (.copy, 0)
  | _ => none

/-- A redirection at the head of the tokens. -/
def redirect? : List Token → Option (Redirect × List Token)
  | ⟨.descriptor n, _⟩ :: ⟨.document w, _⟩ :: rest => some (⟨n, .document, w⟩, rest)
  | ⟨.document w, _⟩ :: rest => some (⟨0, .document, w⟩, rest)
  | ⟨.descriptor n, _⟩ :: ⟨.operator op, _⟩ :: ⟨.word w, _⟩ :: rest =>
    (redirectKind? op).map fun (kind, _) => (⟨n, kind, w⟩, rest)
  | ⟨.operator op, _⟩ :: ⟨.word w, _⟩ :: rest =>
    (redirectKind? op).map fun (kind, n) => (⟨n, kind, w⟩, rest)
  | _ => none

/-- An error and the line it is found on. -/
abbrev ScriptFault := Nat × ScriptError

/-- How a token is called in a message. -/
def Lexeme.shown : Lexeme → String
  | .word w =>
    match (plainText? w).filter keywords.contains with
    | some text => "\"" ++ text ++ "\""
    | none => "word"
  | .operator text => if (redirectKind? text).isSome then "redirection" else "\"" ++ text ++ "\""
  | .newline => "newline"
  | .descriptor _ | .opensDocument | .document _ => "redirection"
  | .broken _ | .finish => "end of file"

/-- The first of the tokens is in the way of what is `wanted`. -/
def unexpected {α : Type} (wanted : Option String) : List Token → Except ScriptFault α
  | [] => .error (1, .unexpected "end of file" wanted)
  | ⟨.broken e, line⟩ :: _ => .error (line, e)
  | t :: _ => .error (t.line, .unexpected t.lexeme.shown wanted)

/-- What is in the way of a list of commands. A redirection lacks its target. -/
def stuck {α : Type} : List Token → Except ScriptFault α
  | ⟨.descriptor _, _⟩ :: _ :: rest => unexpected none rest
  | ⟨.operator op, line⟩ :: rest =>
    unexpected none
      (if (redirectKind? op).isSome then rest else ⟨.operator op, line⟩ :: rest)
  | ts => unexpected none ts

def skipNewlines : List Token → List Token
  | ⟨.newline, _⟩ :: rest => skipNewlines rest
  | ts => ts

/-- Redirections behind a compound command. -/
def redirects : Nat → List Token → List Redirect × List Token
  | 0, ts => ([], ts)
  | fuel + 1, ts =>
    match redirect? ts with
    | none => ([], ts)
    | some (r, rest) =>
      let (more, rest) := redirects fuel rest
      (r :: more, rest)

/-- Takes a keyword off the tokens. -/
def expectWord (text : String) (ts : List Token) : Except ScriptFault (List Token) :=
  let wanted := some ("\"" ++ text ++ "\"")
  match ts with
  | ⟨.word w, _⟩ :: rest => if isKeyword text w then .ok rest else unexpected wanted ts
  | _ => unexpected wanted ts

/-- Takes a closing bracket off the tokens. -/
def expectBracket : List Token → Except ScriptFault (List Token)
  | ⟨.operator ")", _⟩ :: rest => .ok rest
  | ts => unexpected (some "\")\"") ts

/-- The words and redirections of a simple command. -/
def simpleParts : Nat → List Token → List Word × List Redirect × List Token
  | 0, ts => ([], [], ts)
  | fuel + 1, ts =>
    match redirect? ts with
    | some (r, rest) =>
      let (words, rs, rest) := simpleParts fuel rest
      (words, r :: rs, rest)
    | none =>
      match ts with
      | ⟨.word w, _⟩ :: rest =>
        let (words, rs, rest) := simpleParts fuel rest
        (w :: words, rs, rest)
      | _ => ([], [], ts)

/-- Splits the assignments off the head of a command. -/
def splitAssignments : List Word → List (String × Word) × List Word
  | [] => ([], [])
  | w :: rest =>
    match assignment? w with
    | some a =>
      let (more, words) := splitAssignments rest
      (a :: more, words)
    | none => ([], w :: rest)

/-- The words of a line. -/
def takeWords : List Token → List Word × List Token
  | ⟨.word w, _⟩ :: rest =>
    let (words, rest) := takeWords rest
    (w :: words, rest)
  | ts => ([], ts)

/-- Patterns divided by bars up to a closing bracket. -/
def patterns : List Token → Except ScriptFault (List Word × List Token)
  | ⟨.word w, _⟩ :: ⟨.operator "|", _⟩ :: rest =>
    (patterns rest).map fun (ws, rest) => (w :: ws, rest)
  | ⟨.word w, _⟩ :: rest => do
    let rest ← expectBracket rest
    return ([w], rest)
  | ts => unexpected (some "\")\"") ts

abbrev Read := Except ScriptFault (Script × List Token)

/-- Whether a list of commands ends here. -/
def isClosing : List Token → Bool
  | [] | ⟨.finish, _⟩ :: _ => true
  | ⟨.word w, _⟩ :: _ => closingWords.any fun text => isKeyword text w
  | ⟨.operator ")", _⟩ :: _ | ⟨.operator ";;", _⟩ :: _ => true
  | _ => false

/-- The line of the first token. -/
def lineOf (ts : List Token) : Nat := (ts.head?.map (·.line)).getD 1

mutual

/-- Commands up to a word that closes them. Every reader takes a bound on the depth of its calls. -/
def readList : Nat → List Token → Read
  | 0, ts => unexpected none ts
  | fuel + 1, ts => do
    let ts := skipNewlines ts
    if isClosing ts then return (.empty, ts)
    let (first, rest) ← readAndOr fuel ts
    match rest with
    | ⟨.operator "&", _⟩ :: rest =>
      let (second, rest) ← readList fuel rest
      return (.sequence (.background first) second, rest)
    | ⟨.operator ";", _⟩ :: rest | ⟨.newline, _⟩ :: rest =>
      let (second, rest) ← readList fuel rest
      return (.sequence first second, rest)
    | _ => if isClosing rest then return (first, rest) else stuck rest

def readAndOr : Nat → List Token → Read
  | 0, ts => unexpected none ts
  | fuel + 1, ts => do
    let (first, rest) ← readPipeline fuel ts
    readAndOrRest fuel first rest

/-- The operators bind to the left. -/
def readAndOrRest : Nat → Script → List Token → Read
  | 0, _, ts => unexpected none ts
  | fuel + 1, first, ts =>
    match ts with
    | ⟨.operator "&&", _⟩ :: rest => do
      let (second, rest) ← readPipeline fuel (skipNewlines rest)
      readAndOrRest fuel (.both first second) rest
    | ⟨.operator "||", _⟩ :: rest => do
      let (second, rest) ← readPipeline fuel (skipNewlines rest)
      readAndOrRest fuel (.either first second) rest
    | _ => .ok (first, ts)

def readPipeline : Nat → List Token → Read
  | 0, ts => unexpected none ts
  | fuel + 1, ts =>
    match ts with
    | ⟨.word w, _⟩ :: rest =>
      if isKeyword "!" w then do
        let (body, rest) ← readPipes fuel rest
        return (.negated body, rest)
      else readPipes fuel ts
    | _ => readPipes fuel ts

def readPipes : Nat → List Token → Read
  | 0, ts => unexpected none ts
  | fuel + 1, ts => do
    let (first, rest) ← readCommand fuel ts
    match rest with
    | ⟨.operator "|", _⟩ :: rest =>
      let (second, rest) ← readPipes fuel (skipNewlines rest)
      return (.pipe first second, rest)
    | _ => return (first, rest)

def readCommand : Nat → List Token → Read
  | 0, ts => unexpected none ts
  | fuel + 1, ts => do
    let (body, rest) ← readBare fuel ts
    return (.located (lineOf ts) body, rest)

/-- A command without its line. -/
def readBare : Nat → List Token → Read
  | 0, ts => unexpected none ts
  | fuel + 1, ts =>
    match ts with
    | ⟨.operator "(", _⟩ :: rest => do
      let (body, rest) ← readList fuel rest
      let rest ← expectBracket rest
      let (rs, rest) := redirects fuel rest
      return (.subshell body rs, rest)
    | ⟨.word w, _⟩ :: ⟨.operator "(", _⟩ :: rest => do
      let rest ← expectBracket rest
      match plainText? w with
      | some name =>
        let (body, rest) ← readCommand fuel (skipNewlines rest)
        return (.define name body, rest)
      | none => unexpected none ts
    | ⟨.word w, _⟩ :: rest =>
      match plainText? w with
      | some "\x7b" => do
        let (body, rest) ← readList fuel rest
        let rest ← expectWord "\x7d" rest
        let (rs, rest) := redirects fuel rest
        return (.group body rs, rest)
      | some "if" => do
        let (script, rest) ← readBranch fuel rest
        return (script, rest)
      | some "while" => readLoop fuel false rest
      | some "until" => readLoop fuel true rest
      | some "for" => readFor fuel rest
      | some "case" => readCase fuel rest
      | some text => if closingWords.contains text then unexpected none ts else readSimple fuel ts
      | none => readSimple fuel ts
    | _ => readSimple fuel ts

def readSimple : Nat → List Token → Read
  | 0, ts => unexpected none ts
  | fuel + 1, ts =>
    let (words, rs, rest) := simpleParts fuel ts
    if words.isEmpty && rs.isEmpty then stuck ts
    else
      let (assignments, words) := splitAssignments words
      .ok (.simple assignments words rs, rest)

/-- A condition, behind its keyword, up to the word that closes the whole. -/
def readBranch : Nat → List Token → Read
  | 0, ts => unexpected none ts
  | fuel + 1, ts => do
    let (condition, rest) ← readList fuel ts
    let rest ← expectWord "then" rest
    let (yes, rest) ← readList fuel rest
    match rest with
    | ⟨.word w, _⟩ :: after =>
      if isKeyword "elif" w then
        let (no, rest) ← readBranch fuel after
        return (.branch condition yes no [], rest)
      else if isKeyword "else" w then
        let (no, rest) ← readList fuel after
        let rest ← expectWord "fi" rest
        let (rs, rest) := redirects fuel rest
        return (.branch condition yes no rs, rest)
      else
        let rest ← expectWord "fi" rest
        let (rs, rest) := redirects fuel rest
        return (.branch condition yes .empty rs, rest)
    | _ => unexpected (some "\"fi\"") rest

def readBody : Nat → List Token → Read
  | 0, ts => unexpected none ts
  | fuel + 1, ts => do
    let rest ← expectWord "do" (skipNewlines ts)
    let (body, rest) ← readList fuel rest
    let rest ← expectWord "done" rest
    return (body, rest)

def readLoop : Nat → Bool → List Token → Read
  | 0, _, ts => unexpected none ts
  | fuel + 1, whileFailing, ts => do
    let (condition, rest) ← readList fuel ts
    let (body, rest) ← readBody fuel rest
    let (rs, rest) := redirects fuel rest
    return (.loop whileFailing condition body rs, rest)

def readFor : Nat → List Token → Read
  | 0, ts => unexpected none ts
  | fuel + 1, ts =>
    match ts with
    | ⟨.word w, line⟩ :: rest => do
      let name := (plainText? w).getD ""
      if !isName name then throw (line, .badLoopVariable)
      let rest := skipNewlines rest
      let (words, rest) := match rest with
        | ⟨.word w, _⟩ :: after =>
          if isKeyword "in" w then
            let (ws, after) := takeWords after
            (some ws, after)
          else (none, rest)
        | _ => (none, rest)
      let rest := match rest with
        | ⟨.operator ";", _⟩ :: rest => rest
        | _ => rest
      let (body, rest) ← readBody fuel rest
      let (rs, rest) := redirects fuel rest
      return (.each name words body rs, rest)
    | _ => .error (lineOf ts, .badLoopVariable)

def readCase : Nat → List Token → Read
  | 0, ts => unexpected none ts
  | fuel + 1, ts =>
    match ts with
    | ⟨.word subject, _⟩ :: rest => do
      let rest ← expectWord "in" (skipNewlines rest)
      let (arms, rest) ← readArms fuel rest
      let (rs, rest) := redirects fuel rest
      return (.choose subject arms rs, rest)
    | _ => unexpected (some "word") ts

def readArms : Nat → List Token → Read
  | 0, ts => unexpected none ts
  | fuel + 1, ts => do
    let ts := skipNewlines ts
    match ts with
    | ⟨.word w, _⟩ :: rest =>
      if isKeyword "esac" w then return (.empty, rest)
      else readArm fuel ts
    | ⟨.operator "(", _⟩ :: rest => readArm fuel rest
    | _ => unexpected (some "\")\"") ts

def readArm : Nat → List Token → Read
  | 0, ts => unexpected none ts
  | fuel + 1, ts => do
    let (ps, rest) ← patterns ts
    let (body, rest) ← readList fuel rest
    match rest with
    | ⟨.operator ";;", _⟩ :: rest =>
      let (others, rest) ← readArms fuel rest
      return (.arm ps body others, rest)
    | ⟨.word w, _⟩ :: after =>
      if isKeyword "esac" w then return (.arm ps body .empty, after)
      else unexpected (some "\";;\"") rest
    | _ => unexpected (some "\";;\"") rest

end

/-- The commands of one line, which a newline or the end of the text closes. -/
def readLine (depth : Nat) : Nat → List Token → Read
  | 0, ts => unexpected none ts
  | fuel + 1, ts => do
    let (first, rest) ← readAndOr depth ts
    let (first, ends, rest) := match rest with
      | ⟨.operator "&", _⟩ :: rest => (Script.background first, false, rest)
      | ⟨.operator ";", _⟩ :: rest => (first, false, rest)
      | _ => (first, true, rest)
    match ends, rest with
    | _, ⟨.newline, _⟩ :: rest => return (first, rest)
    | _, ⟨.finish, _⟩ :: _ => return (first, rest)
    | true, _ => stuck rest
    | false, _ =>
      let (second, rest) ← readLine depth fuel rest
      return (.sequence first second, rest)

/-- Line after line, up to one that cannot be read. -/
def readLines (depth : Nat) : Nat → List Token → Script
  | 0, _ => .empty
  | fuel + 1, ts =>
    match skipNewlines ts with
    | [] | ⟨.finish, _⟩ :: _ => .empty
    | ts =>
      match readLine depth depth ts with
      | .ok (script, rest) => .sequence script (readLines depth fuel rest)
      | .error (line, e) => .fault line e

/-- A whole script, whose first line has the number `line`. Between two tokens the readers call
each other fewer than thirteen times. -/
def Script.parse (line : Nat) (text : String) : Script :=
  let ts := tokens line text
  readLines (13 * (ts.length + 1)) (ts.length + 1) ts

end KernelSweep.Shell
