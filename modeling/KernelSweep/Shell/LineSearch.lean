import KernelSweep.Shell.Filter
import KernelSweep.Shell.Pattern

set_option autoImplicit false

namespace KernelSweep.Shell

/-- One character of an expression, or any number of it. -/
structure SearchItem where
  item : PatternItem
  many : Bool
  deriving DecidableEq, Repr

structure Expression where
  atStart : Bool
  items : List SearchItem
  atEnd : Bool
  deriving DecidableEq, Repr

def PatternItem.accepts (item : PatternItem) (c : Char) : Bool :=
  match item with
  | .char d => c == d
  | .anyChar => true
  | .anyText => false
  | .oneOf negated ranges =>
    ranges.any (fun r => decide (r.1 ≤ c) && decide (c ≤ r.2)) != negated

/-- The set behind an opening bracket; a circumflex negates it. -/
def searchSet? (cs : List Char) : Option (PatternItem × List Char) :=
  let marked : List PatternChar := match cs with
    | '^' :: rest => ⟨'!', false⟩ :: rest.map (⟨·, false⟩)
    | _ => cs.map fun c => ⟨c, c == '!'⟩
  (bracket? marked).map fun (item, after) => (item, after.map (·.char))

/-- The items of an expression. The first argument bounds their number. -/
def searchItems : Nat → List Char → List SearchItem
  | 0, _ | _, [] => []
  | fuel + 1, c :: rest =>
    let (item, after) : PatternItem × List Char := match c, rest with
      | '\\', d :: after => (.char d, after)
      | '.', _ => (.anyChar, rest)
      | '[', _ => (searchSet? rest).getD (.char '[', rest)
      | _, _ => (.char c, rest)
    match after with
    | '*' :: after => ⟨item, true⟩ :: searchItems fuel after
    | _ => ⟨item, false⟩ :: searchItems fuel after

def Expression.parse (text : String) : Expression :=
  let cs := text.toList
  let (atStart, cs) := match cs with
    | '^' :: rest => (true, rest)
    | _ => (false, cs)
  let atEnd := cs.getLast? == some '$' && cs.dropLast.getLast? != some '\\'
  ⟨atStart, searchItems (cs.length + 1) (if atEnd then cs.dropLast else cs), atEnd⟩

/-- A text in which no character is special. -/
def Expression.literal (text : String) : Expression :=
  ⟨false, text.toList.map fun c => ⟨.char c, false⟩, false⟩

/-- Whether the items match from here on. -/
def matchesHere (atEnd : Bool) : List SearchItem → List Char → Bool
  | [], cs => !atEnd || cs.isEmpty
  | ⟨_, true⟩ :: items, [] => matchesHere atEnd items []
  | ⟨item, true⟩ :: items, c :: cs =>
    matchesHere atEnd items (c :: cs) ||
      (item.accepts c && matchesHere atEnd (⟨item, true⟩ :: items) cs)
  | ⟨item, false⟩ :: items, c :: cs => item.accepts c && matchesHere atEnd items cs
  | ⟨_, false⟩ :: _, [] => false
termination_by items cs => items.length + cs.length

/-- Whether the items match from here on or from a later place. -/
def matchesFrom (atEnd : Bool) (items : List SearchItem) : List Char → Bool
  | [] => matchesHere atEnd items []
  | c :: cs => matchesHere atEnd items (c :: cs) || matchesFrom atEnd items cs

/-- Whether the expression matches somewhere in a line. -/
def Expression.matches (e : Expression) (line : List Char) : Bool :=
  if e.atStart then matchesHere e.atEnd e.items line else matchesFrom e.atEnd e.items line

/-- Lines that match, or with `v` those that do not; `c` counts them and `q` is silent. -/
def searchUtility (st : State) (options : List Char) (operands : List String) : Step :=
  match operands with
  | [] => (st.complain "Usage: grep [OPTION]... PATTERNS [FILE]...").done 2
  | pattern :: operands =>
    let (content, st) := gather ("grep: " ++ ·) 2 { st with status := 0 } operands
    let expression :=
      if options.contains 'F' then Expression.literal pattern else Expression.parse pattern
    let fold (cs : List Char) := if options.contains 'i' then cs.map Char.toLower else cs
    let expression := if options.contains 'i' then
      { expression with items := expression.items.map fun i =>
          match i.item with
          | .char c => { i with item := .char c.toLower }
          | _ => i }
      else expression
    let hits := (byteLines content).filter fun line =>
      expression.matches (fold (Text.trimNewlines (Text.decodeLossy line)).toList) !=
        options.contains 'v'
    let text : List UInt8 :=
      if options.contains 'q' then []
      else if options.contains 'c' then Text.encode (toString hits.length ++ "\n")
      else hits.flatMap fun line => line.filter (· != 10) ++ [10]
    (st.say text).done (if st.status ≠ 0 then st.status else if hits.isEmpty then 1 else 0)

end KernelSweep.Shell
