set_option autoImplicit false

namespace KernelSweep.Text

/-- The characters with the white-space property, no-break and ideographic spaces included. -/
def isBlank (c : Char) : Bool :=
  let n := c.toNat
  (0x09 ≤ n && n ≤ 0x0d) || n == 0x20 || n == 0x85 || n == 0xa0 || n == 0x1680 ||
    (0x2000 ≤ n && n ≤ 0x200a) || n == 0x2028 || n == 0x2029 || n == 0x202f || n == 0x205f ||
    n == 0x3000

/-- Drops the longest tail whose elements satisfy `p`. -/
def dropTail {α : Type} (p : α → Bool) (xs : List α) : List α :=
  (xs.reverse.dropWhile p).reverse

def trimList {α : Type} (p : α → Bool) (xs : List α) : List α :=
  dropTail p (xs.dropWhile p)

/-- Removes blanks from both ends. -/
def trim (s : String) : String := String.ofList (trimList isBlank s.toList)

/-- The part before the first element satisfying `p`, and the part after it when there is one. -/
def cutList {α : Type} (p : α → Bool) (xs : List α) : List α × Option (List α) :=
  (xs.takeWhile (!p ·),
    match xs.dropWhile (!p ·) with
    | [] => none
    | _ :: rest => some rest)

/-- The text before the first `sep`, and the text after it when there is one. -/
def cut (sep : Char) (s : String) : String × Option String :=
  let (before, after) := cutList (· == sep) s.toList
  (String.ofList before, after.map String.ofList)

/-- Removes every line feed from the end. -/
def trimNewlines (s : String) : String := String.ofList (dropTail (· == '\n') s.toList)

/-- The same of bytes. -/
def trimLineFeeds (bytes : List UInt8) : List UInt8 := dropTail (· == 10) bytes

/-- The pieces between the separators; there is always at least one. -/
def splitList {α : Type} (p : α → Bool) : List α → List (List α)
  | [] => [[]]
  | x :: rest =>
    if p x then [] :: splitList p rest
    else
      match splitList p rest with
      | [] => [[x]]
      | piece :: pieces => (x :: piece) :: pieces

def split (sep : Char) (s : String) : List String :=
  (splitList (· == sep) s.toList).map String.ofList

def lines (s : String) : List String := split '\n' s

/-- The text between the pieces is the separator. -/
def join (sep : String) : List String → String
  | [] => ""
  | [s] => s
  | s :: rest => s ++ sep ++ join sep rest

end KernelSweep.Text
