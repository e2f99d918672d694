import KernelSweep.Number.Literal
import KernelSweep.Text.Blank

set_option autoImplicit false

namespace KernelSweep.Shell

inductive Expr where
  | number (n : Int64)
  | named (name : String)
  | unary (op : String) (body : Expr)
  | binary (op : String) (first second : Expr)
  | choice (condition yes no : Expr)
  | assign (name : String) (op : String) (value : Expr)
  deriving DecidableEq, Repr

inductive ExprToken where
  | number (n : Int64)
  | name (text : String)
  | operator (text : String)
  deriving DecidableEq, Repr

def exprOperators : List String :=
  ["<<=", ">>=", "&&", "||", "==", "!=", "<=", ">=", "<<", ">>", "+=", "-=", "*=", "/=", "%=",
    "+", "-", "*", "/", "%", "(", ")", "<", ">", "!", "~", "&", "|", "^", "?", ":", "="]

/-- The tokens of an expression. The first argument bounds their number. -/
def exprTokens : Nat → List Char → Option (List ExprToken)
  | 0, _ => none
  | _, [] => some []
  | fuel + 1, c :: rest =>
    let isWord (c : Char) := c.isAlphanum || c == '_'
    if Text.isBlank c then exprTokens fuel rest
    else if c.isDigit then do
      let digits := c :: rest.takeWhile isWord
      let n ← Number.readLiteral digits
      let more ← exprTokens fuel (rest.dropWhile isWord)
      return .number (Int64.ofInt n) :: more
    else if isWord c then do
      let more ← exprTokens fuel (rest.dropWhile isWord)
      return .name (String.ofList (c :: rest.takeWhile isWord)) :: more
    else
      match exprOperators.find? fun op => op.toList.isPrefixOf (c :: rest) with
      | none => none
      | some op => do
        let more ← exprTokens fuel ((c :: rest).drop op.length)
        return .operator op :: more

/-- Strength of the binary operators; the stronger binds first. -/
def strength? : String → Option Nat
  | "||" => some 1
  | "&&" => some 2
  | "|" => some 3
  | "^" => some 4
  | "&" => some 5
  | "==" | "!=" => some 6
  | "<" | "<=" | ">" | ">=" => some 7
  | "<<" | ">>" => some 8
  | "+" | "-" => some 9
  | "*" | "/" | "%" => some 10
  | _ => none

def isAssignment (op : String) : Bool :=
  ["=", "+=", "-=", "*=", "/=", "%=", "<<=", ">>="].contains op

abbrev ReadExpr := Option (Expr × List ExprToken)

mutual

/-- Assignments and choices. Every reader takes a bound on the depth of its calls. -/
def readExpr : Nat → List ExprToken → ReadExpr
  | 0, _ => none
  | fuel + 1, ts =>
    match ts with
    | .name x :: .operator op :: rest =>
      if isAssignment op then do
        let (value, rest) ← readExpr fuel rest
        return (.assign x op value, rest)
      else readChoice fuel ts
    | _ => readChoice fuel ts

def readChoice : Nat → List ExprToken → ReadExpr
  | 0, _ => none
  | fuel + 1, ts => do
    let (condition, rest) ← readBinary fuel 1 ts
    match rest with
    | .operator "?" :: rest =>
      let (yes, rest) ← readExpr fuel rest
      match rest with
      | .operator ":" :: rest =>
        let (no, rest) ← readChoice fuel rest
        return (.choice condition yes no, rest)
      | _ => none
    | _ => return (condition, rest)

/-- Operators at least as strong as the given one. -/
def readBinary : Nat → Nat → List ExprToken → ReadExpr
  | 0, _, _ => none
  | fuel + 1, least, ts => do
    let (first, rest) ← readUnary fuel ts
    readBinaryRest fuel least first rest

def readBinaryRest : Nat → Nat → Expr → List ExprToken → ReadExpr
  | 0, _, _, _ => none
  | fuel + 1, least, first, ts =>
    match ts with
    | .operator op :: rest =>
      match strength? op with
      | none => some (first, ts)
      | some s =>
        if s < least then some (first, ts)
        else do
          let (second, rest) ← readBinary fuel (s + 1) rest
          readBinaryRest fuel least (.binary op first second) rest
    | _ => some (first, ts)

def readUnary : Nat → List ExprToken → ReadExpr
  | 0, _ => none
  | fuel + 1, ts =>
    match ts with
    | .number n :: rest => some (.number n, rest)
    | .name x :: rest => some (.named x, rest)
    | .operator "(" :: rest => do
      let (body, rest) ← readExpr fuel rest
      match rest with
      | .operator ")" :: rest => return (body, rest)
      | _ => none
    | .operator op :: rest =>
      if ["-", "+", "!", "~"].contains op then do
        let (body, rest) ← readUnary fuel rest
        return (.unary op body, rest)
      else none
    | [] => none

end

/-- Reads an expression; nothing at all is zero. -/
def Expr.parse (text : String) : Option Expr := do
  let ts ← exprTokens (text.length + 1) text.toList
  if ts.isEmpty then return .number 0
  let (e, rest) ← readExpr (8 * (ts.length + 1)) ts
  if rest.isEmpty then return e else none

inductive ExprError where
  | divisionByZero
  | notANumber (text : String)
  deriving DecidableEq, Repr

/-- The variables an expression reads and writes, the latest value first. -/
abbrev Bindings := List (String × String)

def ofBool (b : Bool) : Int64 := if b then 1 else 0

def binaryValue (op : String) (a b : Int64) : Except ExprError Int64 :=
  match op with
  | "+" => .ok (a + b)
  | "-" => .ok (a - b)
  | "*" => .ok (a * b)
  | "/" => if b = 0 then .error .divisionByZero else .ok (a / b)
  | "%" => if b = 0 then .error .divisionByZero else .ok (a % b)
  | "<" => .ok (ofBool (decide (a < b)))
  | "<=" => .ok (ofBool (decide (a ≤ b)))
  | ">" => .ok (ofBool (decide (b < a)))
  | ">=" => .ok (ofBool (decide (b ≤ a)))
  | "==" => .ok (ofBool (a == b))
  | "!=" => .ok (ofBool (a != b))
  | "<<" => .ok (a <<< b)
  | ">>" => .ok (a >>> b)
  | "&" => .ok (a &&& b)
  | "|" => .ok (a ||| b)
  | "^" => .ok (a ^^^ b)
  | "&&" => .ok (ofBool (a != 0 && b != 0))
  | "||" => .ok (ofBool (a != 0 || b != 0))
  | _ => .ok b

/-- The number a variable holds; one without a value counts as zero. -/
def variableValue (vars : Bindings) (name : String) : Except ExprError Int64 :=
  match vars.lookup name with
  | none | some "" => .ok 0
  | some text =>
    let (negative, digits) := Number.splitSign (Text.trim text).toList
    match Number.readLiteral digits with
    | some n => .ok (Int64.ofInt (if negative then -n else n))
    | none => .error (.notANumber text)

namespace Expr

def eval : Expr → Bindings → Except ExprError (Int64 × Bindings)
  | .number n, vars => .ok (n, vars)
  | .named name, vars => (variableValue vars name).map fun n => (n, vars)
  | .unary op body, vars => do
    let (n, vars) ← eval body vars
    match op with
    | "-" => return (-n, vars)
    | "!" => return (ofBool (n == 0), vars)
    | "~" => return (~~~n, vars)
    | _ => return (n, vars)
  | .binary "&&" first second, vars => do
    let (a, vars) ← eval first vars
    if a = 0 then return (0, vars)
    let (b, vars) ← eval second vars
    return (ofBool (b != 0), vars)
  | .binary "||" first second, vars => do
    let (a, vars) ← eval first vars
    if a ≠ 0 then return (1, vars)
    let (b, vars) ← eval second vars
    return (ofBool (b != 0), vars)
  | .binary op first second, vars => do
    let (a, vars) ← eval first vars
    let (b, vars) ← eval second vars
    let n ← binaryValue op a b
    return (n, vars)
  | .choice condition yes no, vars => do
    let (n, vars) ← eval condition vars
    if n ≠ 0 then eval yes vars else eval no vars
  | .assign name op value, vars => do
    let (b, vars) ← eval value vars
    let a ← variableValue vars name
    let n ← binaryValue (String.ofList op.toList.dropLast) a b
    return (n, (name, Number.decimal n) :: vars)

end Expr

end KernelSweep.Shell
