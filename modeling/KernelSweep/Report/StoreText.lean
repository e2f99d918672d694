import KernelSweep.Number.Integer
import KernelSweep.Report.Database
import KernelSweep.Text.Blank

set_option autoImplicit false

namespace KernelSweep.ResultStore

/-- Bytes without tabs and line feeds. -/
def escaped (bytes : Text.Bytes) : Text.Bytes :=
  bytes.flatMap fun
    | 0x5c => Text.encode "\\\\"
    | 0x09 => Text.encode "\\t"
    | 0x0a => Text.encode "\\n"
    | b => [b]

def unescaped : Text.Bytes → Text.Bytes
  | 0x5c :: 0x74 :: rest => 0x09 :: unescaped rest
  | 0x5c :: 0x6e :: rest => 0x0a :: unescaped rest
  | 0x5c :: b :: rest => b :: unescaped rest
  | b :: rest => b :: unescaped rest
  | [] => []

/-- The kind of a value stands before it. -/
def Value.shown : Value → Text.Bytes
  | .text bytes => Text.encode "=" ++ escaped bytes
  | .int n => Text.encode ("#" ++ Number.decimal n)
  | .null => Text.encode "-"

def Value.read? : Text.Bytes → Option Value
  | 0x3d :: rest => some (.text (unescaped rest))
  | 0x23 :: rest => (Number.readInt64 (Text.decodeLossy rest).toList).map .int
  | [0x2d] => some .null
  | _ => none

def Row.shown (w : Row) : Text.Bytes :=
  List.intercalate [0x09] (Text.encode (toString w.id) :: w.cells.map fun cell => cell.2.shown)

def Row.read? (line : Text.Bytes) : Option Row := do
  let id :: cells := Text.splitList (· == 0x09) line | none
  let id ← Number.readNat 10 (Text.decodeLossy id).toList
  let values ← cells.mapM Value.read?
  guard (values.length == insertRun.columns.length)
  return ⟨id, insertRun.columns.zip values⟩

def Table.head : Text.Bytes := Text.encode (Text.join "\t" ("id" :: insertRun.columns))

/-- A table as text: the names of the columns, and then a row on a line, with a tab between two
cells. -/
def Table.shown (t : Table) : Text.Bytes :=
  (Table.head :: t.rows.map Row.shown).flatMap (· ++ [0x0a])

def Table.read? (content : Text.Bytes) : Option Table := do
  let head :: lines := (Text.splitList (· == 0x0a) content).dropLast | none
  guard (head == Table.head)
  let rows ← lines.mapM Row.read?
  return ⟨rows, (rows.getLast?.map (·.id)).getD 0⟩

end KernelSweep.ResultStore
