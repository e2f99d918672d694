import KernelSweep.Text.Blank

set_option autoImplicit false

namespace KernelSweep.Shell

/-- What stands in the way of reading a script. -/
inductive ScriptError where
  | openQuote
  | openBackquote
  | openBrace
  | openArithmetic
  | badLoopVariable
  /-- What was found, and what alone could stand there. -/
  | unexpected (found : String) (wanted : Option String)
  deriving DecidableEq, Repr

def ScriptError.message : ScriptError → String
  | .openQuote => "Unterminated quoted string"
  | .openBackquote => "EOF in backquote substitution"
  | .openBrace => "Missing '\x7d'"
  | .openArithmetic => "Missing '))'"
  | .badLoopVariable => "Bad for loop variable"
  | .unexpected found none => found ++ " unexpected"
  | .unexpected found (some wanted) => found ++ " unexpected (expecting " ++ wanted ++ ")"

/-- What happens to the value of a parameter. -/
inductive Modifier where
  /-- The value, or a word when there is none; `whenEmpty` counts an empty value as none. -/
  | orElse (whenEmpty : Bool) (word : String)
  /-- Like `orElse`, and the word becomes the value. -/
  | orAssign (whenEmpty : Bool) (word : String)
  /-- A word, if there is a value. -/
  | ifSet (whenEmpty : Bool) (word : String)
  /-- The value; without one the shell ends with the word as its message. -/
  | orFail (whenEmpty : Bool) (word : String)
  | length
  /-- The value without the shortest or longest start that matches a pattern. -/
  | dropStart (longest : Bool) (pattern : String)
  | dropEnd (longest : Bool) (pattern : String)
  /-- None of these. -/
  | unknown
  deriving DecidableEq, Repr

inductive Part where
  | text (chars : String) (quoted : Bool)
  | parameter (name : String) (modifier : Option Modifier) (quoted : Bool)
  | arithmetic (expression : String) (quoted : Bool)
  /-- The output of a script. One between brackets is read in its place, so that its lines count
  on; one between back quotes has lines of its own. -/
  | command (script : String) (inPlace quoted : Bool)
  deriving DecidableEq, Repr

abbrev Word := List Part

/-- All arguments, each a field of its own when quoted; without arguments there is none. -/
def Part.isAllArguments : Part → Bool
  | .parameter "@" none true => true
  | _ => false

/-- The text of a word without any quoting or expansion, which alone can be a keyword. -/
def plainText? : Word → Option String
  | [.text chars false] => some chars
  | _ => none

inductive QuoteState where
  | bare
  | single
  | double
  deriving DecidableEq, Repr

/-- The text up to the `close` that matches an `opener` read before, and what follows it. Brackets
in quotes or behind a backslash do not count. -/
def untilClose (opener close : Char) :
    Nat → QuoteState → Bool → List Char → Option (List Char × List Char)
  | _, _, _, [] => none
  | depth, state, escaped, c :: rest =>
    let keep (depth : Nat) (state : QuoteState) (escaped : Bool) :=
      (untilClose opener close depth state escaped rest).map fun (inside, after) =>
        (c :: inside, after)
    if escaped then keep depth state false
    else
      match state with
      | .single => keep depth (if c = '\'' then .bare else .single) false
      | .double =>
        if c = '\\' then keep depth .double true
        else keep depth (if c = '"' then .bare else .double) false
      | .bare =>
        if c = '\\' then keep depth .bare true
        else if c = '\'' then keep depth .single false
        else if c = '"' then keep depth .double false
        else if c = opener then keep (depth + 1) .bare false
        else if c = close then
          match depth with
          | 0 => some ([], rest)
          | depth + 1 => keep depth .bare false
        else keep depth .bare false

/-- The script between back quotes; a backslash keeps a back quote, a dollar sign or itself. -/
def untilBackquote : List Char → Option (List Char × List Char)
  | [] => none
  | '\x60' :: rest => some ([], rest)
  | '\\' :: c :: rest =>
    (untilBackquote rest).map fun (inside, after) =>
      if c = '\x60' ∨ c = '\\' ∨ c = '$' then (c :: inside, after) else ('\\' :: c :: inside, after)
  | c :: rest => (untilBackquote rest).map fun (inside, after) => (c :: inside, after)

def isNameStart (c : Char) : Bool := c.isAlpha || c == '_'
def isNameChar (c : Char) : Bool := c.isAlphanum || c == '_'

def isName (s : String) : Bool :=
  match s.toList with
  | [] => false
  | c :: rest => isNameStart c && rest.all isNameChar

/-- Parameters with a name of one special character. -/
def isSpecial (c : Char) : Bool := "?$!#*@-".toList.contains c || c.isDigit

/-- The modifier behind the name of a braced parameter. -/
def modifier : List Char → Option Modifier
  | [] => none
  | ':' :: '-' :: word => some (.orElse true (String.ofList word))
  | ':' :: '=' :: word => some (.orAssign true (String.ofList word))
  | ':' :: '+' :: word => some (.ifSet true (String.ofList word))
  | ':' :: '?' :: word => some (.orFail true (String.ofList word))
  | '-' :: word => some (.orElse false (String.ofList word))
  | '=' :: word => some (.orAssign false (String.ofList word))
  | '+' :: word => some (.ifSet false (String.ofList word))
  | '?' :: word => some (.orFail false (String.ofList word))
  | '#' :: '#' :: pattern => some (.dropStart true (String.ofList pattern))
  | '#' :: pattern => some (.dropStart false (String.ofList pattern))
  | '%' :: '%' :: pattern => some (.dropEnd true (String.ofList pattern))
  | '%' :: pattern => some (.dropEnd false (String.ofList pattern))
  | _ => some .unknown

/-- The name at the head of a braced parameter and what follows it. -/
def splitName : List Char → Option (String × List Char)
  | [] => none
  | c :: rest =>
    if isNameStart c then
      some (String.ofList (c :: rest.takeWhile isNameChar), rest.dropWhile isNameChar)
    else if c.isDigit then
      some (String.ofList (c :: rest.takeWhile Char.isDigit), rest.dropWhile Char.isDigit)
    else if isSpecial c then some (String.ofList [c], rest)
    else none

/-- The inside of a braced parameter. -/
def braced (inside : List Char) (quoted : Bool) : Part :=
  match inside with
  | '#' :: c :: rest =>
    if isNameStart c || c.isDigit || c == '@' || c == '*' then
      match splitName (c :: rest) with
      | some (name, []) => .parameter name (some .length) quoted
      | _ => .parameter "" (some .unknown) quoted
    else .parameter "#" (modifier (c :: rest)) quoted
  | _ =>
    match splitName inside with
    | none => .parameter "" (some .unknown) quoted
    | some (name, rest) => .parameter name (modifier rest) quoted

/-- The expansion behind a dollar sign, `none` when the sign stands for itself. -/
def dollar (quoted : Bool) : List Char → Except ScriptError (Option (Part × List Char))
  | '(' :: '(' :: rest =>
    match untilClose '(' ')' 0 .bare false rest with
    | some (inside, ')' :: after) => .ok (some (.arithmetic (String.ofList inside) quoted, after))
    | _ => .error .openArithmetic
  | '(' :: rest =>
    match untilClose '(' ')' 0 .bare false rest with
    | some (inside, after) => .ok (some (.command (String.ofList inside) true quoted, after))
    | none => .error (.unexpected "end of file" (some "\")\""))
  | '{' :: rest =>
    match untilClose '{' '}' 0 .bare false rest with
    | some (inside, after) => .ok (some (braced inside quoted, after))
    | none => .error (if quoted then .openQuote else .openBrace)
  | c :: rest =>
    if isNameStart c then
      .ok (some (.parameter (String.ofList (c :: rest.takeWhile isNameChar)) none quoted,
        rest.dropWhile isNameChar))
    else if isSpecial c then .ok (some (.parameter (String.ofList [c]) none quoted, rest))
    else .ok none
  | [] => .ok none

/-- The parts inside double quotes and what follows the closing one. In a text that is all quoted
no quote closes it. The first argument bounds the number of parts. -/
def readDouble (whole : Bool) : Nat → List Char → Except ScriptError (Word × List Char)
  | 0, _ => .error .openQuote
  | _, [] => if whole then .ok ([], []) else .error .openQuote
  | fuel + 1, c :: rest =>
    let more (part : Part) (after : List Char) :=
      (readDouble whole fuel after).map fun (parts, after) => (part :: parts, after)
    if c = '"' ∧ !whole then .ok ([], rest)
    else if c = '\\' then
      match rest with
      | [] => more (.text "\\" true) []
      | d :: after =>
        if d = '\n' then readDouble whole fuel after
        else if (d = '"' ∧ !whole) ∨ d = '\\' ∨ d = '$' ∨ d = '\x60' then
          more (.text (String.ofList [d]) true) after
        else more (.text (String.ofList [c, d]) true) after
    else if c = '\x60' then
      match untilBackquote rest with
      | none => .error .openBackquote
      | some (inside, after) => more (.command (String.ofList inside) false true) after
    else if c = '$' then
      match dollar true rest with
      | .error e => .error e
      | .ok (some (part, after)) => more part after
      | .ok none => more (.text "$" true) rest
    else
      let plain (c : Char) := !((c == '"' && !whole) || c == '\\' || c == '\x60' || c == '$')
      more (.text (String.ofList (c :: rest.takeWhile plain)) true) (rest.dropWhile plain)

/-- Characters that end a word outside quotes. -/
def endsWord (c : Char) : Bool := " \t\n;&|<>()".toList.contains c

/-- The parts of a word up to a character that ends it. In a text that is all one word nothing
does. The first argument bounds the number of parts. -/
def readParts (whole : Bool) : Nat → List Char → Except ScriptError (Word × List Char)
  | 0, _ => .error .openQuote
  | _, [] => .ok ([], [])
  | fuel + 1, c :: rest =>
    let more (parts : Word) (after : List Char) :=
      (readParts whole fuel after).map fun (others, after) => (parts ++ others, after)
    if !whole && endsWord c then .ok ([], c :: rest)
    else if c = '\'' then
      match rest.dropWhile (· != '\'') with
      | [] => .error .openQuote
      | _ :: after => more [.text (String.ofList (rest.takeWhile (· != '\''))) true] after
    else if c = '"' then
      match readDouble false (rest.length + 1) rest with
      | .error e => .error e
      | .ok (parts, after) =>
        more (if parts.any Part.isAllArguments then parts else .text "" true :: parts) after
    else if c = '\\' then
      match rest with
      | [] => more [.text "\\" true] []
      | '\n' :: after => more [] after
      | d :: after => more [.text (String.ofList [d]) true] after
    else if c = '\x60' then
      match untilBackquote rest with
      | none => .error .openBackquote
      | some (inside, after) => more [.command (String.ofList inside) false false] after
    else if c = '$' then
      match dollar false rest with
      | .error e => .error e
      | .ok (some (part, after)) => more [part] after
      | .ok none => more [.text "$" false] rest
    else
      let plain (c : Char) :=
        !((!whole && endsWord c) || c == '\'' || c == '"' || c == '\\' || c == '\x60' || c == '$')
      more [.text (String.ofList (c :: rest.takeWhile plain)) false] (rest.dropWhile plain)

/-- The word at the head of a text and what follows it. -/
def readWord (cs : List Char) : Except ScriptError (Word × List Char) :=
  readParts false (cs.length + 1) cs

/-- A text that is one word, blanks and all. -/
def wholeWord (s : String) : Except ScriptError Word :=
  (readParts true (s.length + 1) s.toList).map (·.1)

/-- A text in which only expansions count, and no quotes. -/
def wholeQuoted (s : String) : Except ScriptError Word :=
  (readDouble true (s.length + 1) s.toList).map (·.1)

end KernelSweep.Shell
