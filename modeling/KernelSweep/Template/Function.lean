import KernelSweep.Template.Format

set_option autoImplicit false

namespace KernelSweep.Template

open KernelSweep.Text (Bytes)
open KernelSweep.Number (Binary64)

inductive Function where
  | and
  | or
  | not
  | len
  | index
  | slice
  | call
  | print
  | printf
  | println
  | html
  | script
  | query
  | eq
  | ne
  | lt
  | le
  | gt
  | ge
  deriving DecidableEq, Repr

/-- How many arguments a function takes. -/
inductive Arity where
  | exactly (n : Nat)
  | atLeast (n : Nat)
  deriving DecidableEq, Repr

namespace Function

def name : Function → String
  | .and => "and"
  | .or => "or"
  | .not => "not"
  | .len => "len"
  | .index => "index"
  | .slice => "slice"
  | .call => "call"
  | .print => "print"
  | .printf => "printf"
  | .println => "println"
  | .html => "html"
  | .script => "js"
  | .query => "urlquery"
  | .eq => "eq"
  | .ne => "ne"
  | .lt => "lt"
  | .le => "le"
  | .gt => "gt"
  | .ge => "ge"

def all : List Function :=
  [.and, .or, .not, .len, .index, .slice, .call, .print, .printf, .println, .html, .script, .query,
    .eq, .ne, .lt, .le, .gt, .ge]

def ofName? (name : String) : Option Function := all.find? fun f => f.name == name

def arity : Function → Arity
  | .len | .not => .exactly 1
  | .ne | .lt | .le | .gt | .ge => .exactly 2
  | .and | .or | .eq | .printf | .index | .slice | .call => .atLeast 1
  | .print | .println | .html | .script | .query => .atLeast 0

end Function

inductive CallError where
  | nothingToCompare
  | notComparable
  | incompatible (type other : String)
  | lengthOf (type : String)
  | lengthOfNothing
  | indexOfNothing
  | notIndexed (type : String)
  | indexNothing
  | indexType (type : String)
  | indexRange (n : Int)
  /-- Right behind the last byte. -/
  | indexEnd
  | sliceOfNothing
  | notSliced (type : String)
  | sliceCount (n : Nat)
  | sliceCapacity
  | sliceOrder (low high : Nat)
  | callOfNothing
  | notFunction (shown type : String)
  deriving DecidableEq, Repr

def CallError.message : CallError → String
  | .nothingToCompare => "missing argument for comparison"
  | .notComparable => "invalid type for comparison"
  | .incompatible type other =>
    "incompatible types for comparison: " ++ type ++ " and " ++ other
  | .lengthOf type => "len of type " ++ type
  | .lengthOfNothing => "reflect: call of reflect.Value.Type on zero Value"
  | .indexOfNothing => "index of untyped nil"
  | .notIndexed type => "can't index item of type " ++ type
  | .indexNothing => "cannot index slice/array with nil"
  | .indexType type => "cannot index slice/array with type " ++ type
  | .indexRange n => "index out of range: " ++ toString n
  | .indexEnd => "reflect: string index out of range"
  | .sliceOfNothing => "slice of untyped nil"
  | .notSliced type => "can't slice item of type " ++ type
  | .sliceCount n => "too many slice indexes: " ++ toString n
  | .sliceCapacity => "cannot 3-index slice a string"
  | .sliceOrder low high => "invalid slice index: " ++ toString low ++ " > " ++ toString high
  | .callOfNothing => "call of nil"
  | .notFunction shown type => "non-function " ++ shown ++ " of type " ++ type

namespace Function

/-- Kinds of values that can be compared; a byte compares with an integer by its value. -/
def isBasic : Value → Bool
  | .absent | .record .. => false
  | _ => true

def ordinal? : Value → Option Int
  | .int n => some n.toInt
  | .byte b => some b.toNat
  | _ => none

/-- Equality. Nothing equals only nothing, and values of different kinds cannot be compared. -/
def equal (v w : Value) : Except CallError Bool :=
  match ordinal? v, ordinal? w with
  | some m, some n => .ok (m == n)
  | _, _ =>
    match v, w with
    | .absent, .absent => .ok true
    | .absent, _ | _, .absent => .ok false
    | v, w =>
      if v.typeName = w.typeName then .ok (Value.same v w)
      else .error (.incompatible v.typeName w.typeName)

/-- Whether the first value equals one of the others. -/
def equalsAny (v : Value) : List Value → Except CallError Bool
  | [] => .ok false
  | w :: rest => do if ← equal v w then return true else equalsAny v rest

/-- The order of texts byte by byte. -/
def bytesLess : Bytes → Bytes → Bool
  | [], [] => false
  | [], _ :: _ => true
  | _ :: _, [] => false
  | a :: as, b :: bs => if a < b then true else if b < a then false else bytesLess as bs

/-- The order of finite numbers, by the exact quotients they stand for. -/
def floatLess (x y : Binary64) : Bool :=
  let signedNumerator (x : Binary64) : Int := Number.signed x.isNegative x.ratio.1
  decide (signedNumerator x * (y.ratio.2 : Int) < signedNumerator y * (x.ratio.2 : Int))

def less (v w : Value) : Except CallError Bool :=
  if !isBasic v || !isBasic w then .error .notComparable
  else
    match ordinal? v, ordinal? w with
    | some m, some n => .ok (decide (m < n))
    | _, _ =>
      match v, w with
      | .text s, .text t => .ok (bytesLess s t)
      | .float x, .float y => .ok (floatLess x y)
      | v, w =>
        if v.typeName = w.typeName then .error .notComparable
        else .error (.incompatible v.typeName w.typeName)

def atMost (v w : Value) : Except CallError Bool := do
  if ← less v w then return true else equal v w

/-- A place in a text of so many bytes, or right behind it. -/
def placeOf (size : Nat) (v : Value) : Except CallError Nat :=
  match ordinal? v, v with
  | some n, _ => if 0 ≤ n ∧ n ≤ size then .ok n.toNat else .error (.indexRange n)
  | none, .absent => .error .indexNothing
  | none, v => .error (.indexType v.typeName)

/-- One step into a text. -/
def element (v place : Value) : Except CallError Value :=
  match v with
  | .text s => do
    let i ← placeOf s.length place
    match s[i]? with
    | some b => return .byte b
    | none => throw .indexEnd
  | v => .error (.notIndexed v.typeName)

def elements (v : Value) (places : List Value) : Except CallError Value :=
  match v with
  | .absent => .error .indexOfNothing
  | v => places.foldlM element v

def sliced (v : Value) (places : List Value) : Except CallError Value :=
  match v with
  | .absent => .error .sliceOfNothing
  | v =>
    if 3 < places.length then .error (.sliceCount places.length)
    else
      match v with
      | .text s => do
        if places.length = 3 then throw .sliceCapacity
        let found ← places.mapM (placeOf s.length)
        let low := found.headD 0
        let high := (found[1]?).getD s.length
        if high < low then throw (.sliceOrder low high)
        return .text ((s.take high).drop low)
      | v => .error (.notSliced v.typeName)

def length : Value → Except CallError Value
  | .text s => .ok (.int (Int64.ofNat s.length))
  | .absent => .error .lengthOfNothing
  | v => .error (.lengthOf v.typeName)

/-- The text to escape: values side by side, and a phrase for nothing. -/
def joined (vs : List Value) : Bytes :=
  Value.printed (vs.map fun
    | .absent => .ofString "<no value>"
    | v => v)

def htmlEscape : UInt8 → Bytes
  | 0x22 => Text.encode "&#34;"
  | 0x27 => Text.encode "&#39;"
  | 0x26 => Text.encode "&amp;"
  | 0x3c => Text.encode "&lt;"
  | 0x3e => Text.encode "&gt;"
  | 0x00 => Text.encode "\ufffd"
  | b => [b]

def upperHex (digits n : Nat) : String :=
  String.ofList ((Text.hex digits n).toList.map Char.toUpper)

/-- Inside a quoted constant of a script. -/
def scriptEscape : Text.Piece → Bytes
  | .stray b => [b]
  | .char c =>
    if c = '\\' ∨ c = '\'' ∨ c = '"' then Text.encode ("\\" ++ String.singleton c)
    else if c.toNat < 0x20 ∨ c = '<' ∨ c = '>' ∨ c = '&' ∨ c = '=' ∨
        (0x80 ≤ c.toNat ∧ !Text.isPrintable c) then
      Text.encode ("\\u" ++ upperHex 4 c.toNat)
    else Text.encode (String.singleton c)

/-- Inside the query of an address. -/
def queryEscape (b : UInt8) : Bytes :=
  let c := Char.ofNat b.toNat
  if c.isAlphanum || c == '-' || c == '_' || c == '.' || c == '~' then [b]
  else if c = ' ' then [0x2b]
  else Text.encode ("%" ++ upperHex 2 b.toNat)

/-- Calls a function. `called` is how its first argument reads. -/
def apply (f : Function) (called : String) (args : List Value) : Except CallError Value :=
  match f, args with
  | .len, [v] => length v
  | .not, [v] => .ok (.bool !v.isTrue)
  | .index, v :: places => elements v places
  | .slice, v :: places => sliced v places
  | .call, .absent :: _ => .error .callOfNothing
  | .call, v :: _ => .error (.notFunction called v.typeName)
  | .eq, [_] => .error .nothingToCompare
  | .eq, v :: rest => (equalsAny v rest).map .bool
  | .ne, [v, w] => (equal v w).map fun b => .bool !b
  | .lt, [v, w] => (less v w).map .bool
  | .le, [v, w] => (atMost v w).map .bool
  | .gt, [v, w] => (atMost v w).map fun b => .bool !b
  | .ge, [v, w] => (less v w).map fun b => .bool !b
  | .print, vs => .ok (.text (Value.printed vs))
  | .println, vs => .ok (.text (Value.printedLine vs))
  | .printf, .text f :: vs => .ok (.text (format f vs))
  | .html, vs => .ok (.text ((joined vs).flatMap htmlEscape))
  | .script, vs => .ok (.text ((Text.decode (joined vs)).flatMap scriptEscape))
  | .query, vs => .ok (.text ((joined vs).flatMap queryEscape))
  | _, _ => .ok .absent

end Function

end KernelSweep.Template
