import KernelSweep.Report.Table
import KernelSweep.Text.Width

set_option autoImplicit false

namespace KernelSweep.Table

inductive Side where
  | left
  | right
  deriving DecidableEq, Repr

/-- What a line looks like after its carriage returns: each takes the cursor back to the start, and
what follows covers what is there. -/
def overwrite (line : List Char) : List Char :=
  (Text.splitList (· == '\r') line).foldl
    (fun shown piece => piece ++ shown.drop piece.length) []

/-- Joins a carriage return to the line feed after it. -/
def dropReturns : List Char → List Char
  | '\r' :: '\n' :: rest => '\n' :: dropReturns rest
  | c :: rest => c :: dropReturns rest
  | [] => []

def expandTabs (cs : List Char) : List Char :=
  cs.flatMap fun c => if c = '\t' then [' ', ' ', ' ', ' '] else [c]

/-- The lines of a text as a terminal shows them. -/
def linesOf (s : String) : List String :=
  (Text.splitList (· == '\n') (dropReturns (expandTabs s.toList))).map fun line =>
    String.ofList (overwrite line)

def width (lines : List String) : Nat := Text.widest (Text.join "\n" lines)

def blanks (n : Nat) : String := String.ofList (List.replicate n ' ')

/-- Fills a line up to a width. Blanks on the ragged side do not count. -/
def align (side : Side) (width : Nat) (line : String) : String :=
  match side with
  | .left =>
    let text := String.ofList (Text.dropTail (· == ' ') line.toList)
    text ++ blanks (width - Text.width text)
  | .right =>
    let text := String.ofList (line.toList.dropWhile (· == ' '))
    blanks (width - Text.width text) ++ text

/-- One line of a row. -/
def rowLine (columns : List (Side × Nat)) (texts : List String) : String :=
  "|" ++ String.join
    ((columns.zip texts).map fun (column, text) => " " ++ align column.1 column.2 text ++ " |")

/-- A row with cells of different heights: short cells end in blank lines. -/
def rowLines (columns : List (Side × Nat)) (cells : List (List String)) : List String :=
  let height := (cells.map List.length).foldl max 1
  (List.range height).map fun i => rowLine columns (cells.map fun lines => lines[i]?.getD "")

def dashes (n : Nat) : String := String.ofList (List.replicate n '-')

def separator (columns : List (Side × Nat)) : String :=
  "+" ++ String.join (columns.map fun column => dashes (column.2 + 2) ++ "+")

/-- Width between the outer borders. -/
def innerWidth (columns : List (Side × Nat)) : Nat :=
  (columns.map fun column => column.2 + 3).foldl (· + ·) 0 - 1

def Cell.shown : Cell → List String
  | .text s => linesOf s
  | .int n => linesOf (toString n)
  | .span d => linesOf d.text

def Cell.isNumeric : Cell → Bool
  | .text _ => false
  | .int _ | .span _ => true

/-- A column of numbers is aligned to the right. In a table without rows nothing speaks against a
column of numbers. -/
def side (t : Contents) (column : Nat) : Side :=
  if t.rows.all fun row => (row[column]?.map Cell.isNumeric).getD false then .right else .left

/-- The cells as they are shown, the header and the footer in capitals. -/
structure Drawn where
  header : List (List String)
  rows : List (List (List String))
  footer : List (List String)

def drawn (t : Contents) : Drawn where
  header := t.header.map fun s => linesOf s.toUpper
  rows := t.rows.map fun row => row.map Cell.shown
  footer := t.footer.map fun s => linesOf s.toUpper

def columns (t : Contents) : List (Side × Nat) :=
  let d := drawn t
  let widths := (d.header :: d.footer :: d.rows).foldl
    (fun widths row => widths.zipWith (fun w lines => max w (width lines)) row)
    (t.header.map fun _ => 0)
  widths.zipIdx.map fun (w, column) => (side t column, w)

def lines (t : Contents) : List String :=
  let d := drawn t
  let cols := columns t
  let border := separator cols
  ["+" ++ dashes (innerWidth cols) ++ "+",
    "| " ++ align .left (innerWidth cols - 2) t.title ++ " |", border] ++
  rowLines cols d.header ++ [border] ++ d.rows.flatMap (rowLines cols) ++ [border] ++
  rowLines cols d.footer ++ [border]

/-- A stand-in for a library. A cell may have several lines, and a column is as wide as its widest
line. -/
def draw : Writer := fun t => Text.join "\n" (lines t)

end KernelSweep.Table
