import KernelSweep.Text.Printable
import KernelSweep.Text.Utf8

set_option autoImplicit false

namespace KernelSweep.Text

/-- Lower-case hexadecimal digits, at least `digits` of them. -/
def hex (digits n : Nat) : String :=
  let ds := Nat.toDigits 16 n
  String.ofList (List.replicate (digits - ds.length) '0' ++ ds)

def escapeControl? (c : Char) : Option String :=
  match c.toNat with
  | 0x07 => some "\\a"
  | 0x08 => some "\\b"
  | 0x0c => some "\\f"
  | 0x0a => some "\\n"
  | 0x0d => some "\\r"
  | 0x09 => some "\\t"
  | 0x0b => some "\\v"
  | _ => none

/-- How a character is written between the given quotes, those that satisfy `plain` as they are. -/
def escapeUnless (plain : Char → Bool) (quote c : Char) : String :=
  if c == quote || c == '\\' then "\\" ++ String.singleton c
  else if plain c then String.singleton c
  else
    match escapeControl? c with
    | some text => text
    | none =>
      if c.toNat < 0x20 || c.toNat == 0x7f then "\\x" ++ hex 2 c.toNat
      else if c.toNat < 0x10000 then "\\u" ++ hex 4 c.toNat
      else "\\U" ++ hex 8 c.toNat

def escapeChar (quote c : Char) : String := escapeUnless isPrintable quote c

/-- Printable and within ASCII. -/
def isPlainAscii (c : Char) : Bool := decide (c.toNat < 0x80) && isPrintable c

def escapePieceUnless (plain : Char → Bool) (quote : Char) : Piece → String
  | .char c => escapeUnless plain quote c
  | .stray b => "\\x" ++ hex 2 b.toNat

def quoted (s : String) : String :=
  "\"" ++ String.join (s.toList.map (escapeChar '"')) ++ "\""

/-- Quoted with the characters that satisfy `plain` as they are. -/
def quotedUnless (plain : Char → Bool) (bytes : Bytes) : String :=
  "\"" ++ String.join ((decode bytes).map (escapePieceUnless plain '"')) ++ "\""

def quotedBytes (bytes : Bytes) : String := quotedUnless isPrintable bytes

def quotedCharUnless (plain : Char → Bool) (c : Char) : String :=
  "'" ++ escapeUnless plain '\'' c ++ "'"

def quotedChar (c : Char) : String := quotedCharUnless isPrintable c

/-- Whether a text can stand between back quotes, which know no escapes. -/
def fitsBackQuotes (bytes : Bytes) : Bool :=
  (decode bytes).all fun
    | .char c =>
      !(c == '\ufeff' || c == '\x60' || c.toNat == 0x7f || (decide (c.toNat < 0x20) && c != '\t'))
    | .stray _ => false

/-- Quoted with every byte that is no plain ASCII written as two digits. -/
def quotedAscii (s : String) : String :=
  let shown (c : Char) : String :=
    if c.toNat < 0x20 || 0x80 ≤ c.toNat then
      String.join ((encode (String.singleton c)).map fun b => "\\x" ++ hex 2 b.toNat)
    else if c == '"' || c == '\\' then "\\" ++ String.singleton c
    else String.singleton c
  "\"" ++ String.join (s.toList.map shown) ++ "\""

/-- Quoted texts in square brackets, a space between them. -/
def quotedList (ss : List String) : String :=
  "[" ++ String.intercalate " " (ss.map quoted) ++ "]"

end KernelSweep.Text
