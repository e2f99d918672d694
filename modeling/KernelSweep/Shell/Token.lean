import KernelSweep.Shell.Word

set_option autoImplicit false

namespace KernelSweep.Shell

inductive Lexeme where
  | word (w : Word)
  | operator (text : String)
  | newline
  /-- The number in front of a redirection. -/
  | descriptor (n : Nat)
  /-- Asks for a document. -/
  | opensDocument
  | document (body : Word)
  /-- From here on the text cannot be read. -/
  | broken (error : ScriptError)
  | finish
  deriving DecidableEq, Repr

structure Token where
  lexeme : Lexeme
  /-- The line it ends on. -/
  line : Nat
  deriving DecidableEq, Repr

/-- Operators, the longer ones first. -/
def operators : List String :=
  ["<<-", "&&", "||", ";;", "<<", ">>", ">&", "<&", ">|", ";", "&", "|", "(", ")", "<", ">"]

/-- The operator at the head of a text and what follows it. -/
def operator? (cs : List Char) : Option (String × List Char) :=
  (operators.find? fun op => op.toList.isPrefixOf cs).map fun op => (op, cs.drop op.length)

/-- A number directly in front of a redirection. -/
def descriptor? (cs : List Char) : Option (Nat × List Char) :=
  let digits := cs.takeWhile Char.isDigit
  let rest := cs.dropWhile Char.isDigit
  match digits, rest with
  | [d], '<' :: _ | [d], '>' :: _ => some (d.toNat - '0'.toNat, rest)
  | _, _ => none

/-- What ends a document, and how its lines are taken. -/
structure Delimiter where
  text : String
  /-- Nothing in the document is expanded. -/
  literal : Bool
  /-- Tabs in front of its lines do not count. -/
  dropTabs : Bool
  deriving DecidableEq, Repr

namespace Delimiter

/-- Any quoting in the word makes the document literal. -/
def ofWord (w : Word) (dropTabs : Bool) : Delimiter where
  text := String.join (w.map fun
    | .text chars _ => chars
    | _ => "")
  literal := w.any fun
    | .text _ quoted => quoted
    | _ => false
  dropTabs

/-- The body of a document and the lines behind it. -/
def take (d : Delimiter) (lines : List (List Char)) : String × List (List Char) :=
  let lines := if d.dropTabs then lines.map (·.dropWhile (· == '\t')) else lines
  let isEnd (line : List Char) := line == d.text.toList
  let body := lines.takeWhile (!isEnd ·)
  match lines.dropWhile (!isEnd ·) with
  | [] => (Text.join "\n" (body.map String.ofList), [])
  | _ :: rest => (String.join (body.map fun line => String.ofList line ++ "\n"), rest)

def body (d : Delimiter) (text : String) : Lexeme :=
  if d.literal then .document [.text text true]
  else
    match wholeQuoted text with
    | .ok w => .document w
    | .error e => .broken e

end Delimiter

/-- The documents that start here, and the lines behind them. -/
def takeDocuments : List Delimiter → List (List Char) → List Lexeme × List (List Char)
  | [], lines => ([], lines)
  | d :: rest, lines =>
    let (text, lines) := d.take lines
    let (more, lines) := takeDocuments rest lines
    (d.body text :: more, lines)

def newlines (cs : List Char) : Nat := cs.countP (· == '\n')

/-- The tokens of a text that ends on line `last`. Documents asked for are read at the end of the
line. The first argument bounds the number of steps. -/
def tokensFrom (last : Nat) : Nat → List Delimiter → List Char → List Token
  | 0, _, _ | _, _, [] => [⟨.finish, last⟩]
  | fuel + 1, pending, c :: rest =>
    let line (after : List Char) := last - newlines after
    if c = ' ' ∨ c = '\t' then tokensFrom last fuel pending rest
    else if c = '\\' ∧ rest.head? = some '\n' then tokensFrom last fuel pending rest.tail
    else if c = '#' then tokensFrom last fuel pending (rest.dropWhile (· != '\n'))
    else if c = '\n' then
      if pending.isEmpty then ⟨.newline, line rest⟩ :: tokensFrom last fuel [] rest
      else
        let (documents, lines) := takeDocuments pending (Text.splitList (· == '\n') rest)
        let after := (lines.intersperse ['\n']).flatten
        documents.map (⟨·, line rest⟩) ++ ⟨.newline, line after⟩ :: tokensFrom last fuel [] after
    else
      match descriptor? (c :: rest) with
      | some (n, after) => ⟨.descriptor n, line after⟩ :: tokensFrom last fuel pending after
      | none =>
        match operator? (c :: rest) with
        | some (op, after) =>
          if op = "<<" ∨ op = "<<-" then
            match readWord (after.dropWhile (· == ' ')) with
            | .error e => [⟨.broken e, last⟩]
            | .ok (w, after) =>
              ⟨.opensDocument, line after⟩ ::
                tokensFrom last fuel (pending ++ [.ofWord w (op == "<<-")]) after
          else ⟨.operator op, line after⟩ :: tokensFrom last fuel pending after
        | none =>
          match readWord (c :: rest) with
          | .error e => [⟨.broken e, last⟩]
          | .ok (w, after) => ⟨.word w, line after⟩ :: tokensFrom last fuel pending after

/-- Puts documents in the places that ask for them; one that never comes is empty. -/
def placeDocuments : List Word → List Token → List Token
  | _, [] => []
  | documents, ⟨.opensDocument, line⟩ :: rest =>
    ⟨.document (documents.head?.getD []), line⟩ :: placeDocuments documents.tail rest
  | documents, ⟨.document _, _⟩ :: rest => placeDocuments documents rest
  | documents, t :: rest => t :: placeDocuments documents rest

/-- The tokens of a text whose first line has the number `line`. -/
def tokens (line : Nat) (s : String) : List Token :=
  let cs := s.toList
  let ts := tokensFrom (line + newlines cs) (cs.length + 1) [] cs
  let documents := ts.filterMap fun t =>
    match t.lexeme with
    | .document w => some w
    | _ => none
  placeDocuments documents ts

end KernelSweep.Shell
