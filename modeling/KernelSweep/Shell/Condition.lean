import KernelSweep.Number.Integer
import KernelSweep.Shell.State

set_option autoImplicit false

namespace KernelSweep.Shell

inductive ConditionError where
  | argumentExpected (op : String)
  | unexpectedOperator (word : String)
  | closingParen
  | illegalNumber (text : String)
  deriving DecidableEq, Repr

def ConditionError.message : ConditionError → String
  | .argumentExpected op => op ++ ": argument expected"
  | .unexpectedOperator word => word ++ ": unexpected operator"
  | .closingParen => "closing paren expected"
  | .illegalNumber text => "Illegal number: " ++ text

def unaryTests : List String :=
  ["-n", "-z", "-e", "-f", "-d", "-s", "-r", "-w", "-x", "-L", "-h", "-p", "-t", "-b", "-c", "-u",
    "-g", "-k", "-O", "-G", "-S"]

def binaryTests : List String :=
  ["=", "!=", "<", ">", "-eq", "-ne", "-lt", "-le", "-gt", "-ge", "-ef", "-nt", "-ot"]

def unaryTest (st : State) (op arg : String) : Bool :=
  let node : Option Node := (st.files.find arg).toOption.map (·.2)
  match op with
  | "-n" => arg ≠ ""
  | "-z" => arg = ""
  | "-f" => match node with
    | some (.file _ _) | some (.program _) => true
    | _ => false
  | "-d" => (node.map Node.isDirectory).getD false
  | "-s" => match node with
    | some (.file content _) => !content.isEmpty
    | some .sink => false
    | some _ => true
    | none => false
  | "-x" => (node.map fun n => n.isExecutable || n.isDirectory).getD false
  | "-c" => node == some .sink
  | "-e" | "-r" | "-w" | "-O" | "-G" => node.isSome
  | _ => false

/-- A number with blanks around it. -/
def testNumber (text : String) : Except ConditionError Int :=
  match Number.readInt64 (Text.trim text).toList with
  | some n => .ok n.toInt
  | none => .error (.illegalNumber text)

/-- Compares texts, numbers, or the files that paths name. -/
def binaryTest (st : State) (op a b : String) : Except ConditionError Bool :=
  let numbers (p : Int → Int → Bool) : Except ConditionError Bool := do
    let m ← testNumber a
    let n ← testNumber b
    return p m n
  match op with
  | "=" => .ok (a == b)
  | "!=" => .ok (a != b)
  | "<" => .ok (decide (a < b))
  | ">" => .ok (decide (b < a))
  | "-eq" => numbers fun m n => m == n
  | "-ne" => numbers fun m n => m != n
  | "-lt" => numbers fun m n => decide (m < n)
  | "-le" => numbers fun m n => decide (m ≤ n)
  | "-gt" => numbers fun m n => decide (n < m)
  | "-ge" => numbers fun m n => decide (n ≤ m)
  | "-ef" =>
    .ok (match st.files.find a, st.files.find b with
      | .ok (loc, _), .ok (other, _) => loc == other
      | _, _ => false)
  | _ => .ok false

/-- Whether the first word, which looks like a question about the next, is only a text: nothing
follows it, or what follows compares it. -/
def standsForItself : List String → Bool
  | [_] => true
  | _ :: next :: _ :: _ => binaryTests.contains next
  | _ => false

abbrev Tested := Except ConditionError (Bool × List String)

mutual

/-- Alternatives of a condition. Every reader takes a bound on the depth of its calls. -/
def testOr (st : State) : Nat → List String → Tested
  | 0, words => .ok (false, words)
  | fuel + 1, words => do
    let (a, words) ← testAnd st fuel words
    match words with
    | _ :: "-o" :: rest =>
      let (b, rest) ← testOr st fuel rest
      return (a || b, rest)
    | _ => return (a, words)

def testAnd (st : State) : Nat → List String → Tested
  | 0, words => .ok (false, words)
  | fuel + 1, words => do
    let (a, words) ← testNot st fuel words
    match words with
    | _ :: "-a" :: rest =>
      let (b, rest) ← testAnd st fuel rest
      return (a && b, rest)
    | _ => return (a, words)

def testNot (st : State) : Nat → List String → Tested
  | 0, words => .ok (false, words)
  | fuel + 1, words =>
    match words with
    | ["!"] => .ok (true, words)
    | "!" :: rest => (testNot st fuel rest).map fun (v, words) => (!v, words)
    | _ => testPrimary st fuel words

def testPrimary (st : State) : Nat → List String → Tested
  | 0, words => .ok (false, words)
  | fuel + 1, words =>
    match words with
    | [] => .ok (false, [])
    | "(" :: ")" :: rest => .ok (false, ")" :: rest)
    | "(" :: inside :: rest => do
      let (v, words) ← testOr st fuel (inside :: rest)
      match words with
      | _ :: ")" :: rest => return (v, ")" :: rest)
      | _ => throw .closingParen
    | first :: rest =>
      if unaryTests.contains first && !standsForItself words then
        match rest with
        | [] => .error (.argumentExpected first)
        | arg :: _ => .ok (unaryTest st first arg, rest)
      else
        match rest with
        | op :: others =>
          if binaryTests.contains op then
            match others with
            | [] => .error (.argumentExpected op)
            | arg :: _ => (binaryTest st op first arg).map fun v => (v, others)
          else .ok (first ≠ "", words)
        | [] => .ok (first ≠ "", words)

end

/-- A whole condition. Three words with a comparison in the middle are nothing but a comparison. -/
def testAll (st : State) (words : List String) : Except ConditionError Bool := do
  match words with
  | [a, op, b] =>
    if binaryTests.contains op then return ← binaryTest st op a b
  | _ => pure ()
  let (v, left) ← testOr st (4 * (words.length + 1)) words
  match left with
  | word :: _ :: _ => throw (.unexpectedOperator word)
  | _ => return v

/-- Runs a condition under the name it was called by. -/
def testUtility (st : State) (who : String) (words : List String) : Step :=
  if words.isEmpty then st.done 1
  else
    match testAll st words with
    | .ok v => st.done (if v then 0 else 1)
    | .error e => (st.commandMessage who e.message).done 2

/-- The bracket form wants its closing bracket. -/
def bracketUtility (st : State) (words : List String) : Step :=
  match words.getLast? with
  | some "]" => testUtility st "[" words.dropLast
  | _ => (st.commandMessage "[" "missing ]").done 2

end KernelSweep.Shell
