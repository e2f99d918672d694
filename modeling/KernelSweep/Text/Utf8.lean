set_option autoImplicit false

namespace KernelSweep.Text

/-- A text that need not be well formed. -/
abbrev Bytes := List UInt8

inductive Piece where
  | char (c : Char)
  | stray (b : UInt8)
  deriving DecidableEq, Repr

/-- The low six bits of a continuation byte. -/
def continuation? (b : UInt8) : Option Nat :=
  if 0x80 ≤ b && b ≤ 0xbf then some (b.toNat - 0x80) else none

def twoBytes? (b₀ b₁ : UInt8) : Option Char := do
  guard (0xc2 ≤ b₀ && b₀ ≤ 0xdf)
  let low ← continuation? b₁
  return Char.ofNat ((b₀.toNat - 0xc0) * 64 + low)

/-- Refuses overlong forms and surrogates. -/
def threeBytes? (b₀ b₁ b₂ : UInt8) : Option Char := do
  guard (0xe0 ≤ b₀ && b₀ ≤ 0xef)
  let mid ← continuation? b₁
  let low ← continuation? b₂
  let n := ((b₀.toNat - 0xe0) * 64 + mid) * 64 + low
  guard (0x800 ≤ n && !(0xd800 ≤ n && n ≤ 0xdfff))
  return Char.ofNat n

/-- Refuses overlong forms and everything past the last code point. -/
def fourBytes? (b₀ b₁ b₂ b₃ : UInt8) : Option Char := do
  guard (0xf0 ≤ b₀ && b₀ ≤ 0xf4)
  let high ← continuation? b₁
  let mid ← continuation? b₂
  let low ← continuation? b₃
  let n := (((b₀.toNat - 0xf0) * 64 + high) * 64 + mid) * 64 + low
  guard (0x10000 ≤ n && n ≤ 0x10ffff)
  return Char.ofNat n

/-- A byte that starts no character is stray on its own; reading goes on at the next one. -/
def decode : List UInt8 → List Piece
  | [] => []
  | b₀ :: rest =>
    if b₀ < 0x80 then .char (Char.ofNat b₀.toNat) :: decode rest
    else
      match rest with
      | b₁ :: b₂ :: b₃ :: tail =>
        match twoBytes? b₀ b₁, threeBytes? b₀ b₁ b₂, fourBytes? b₀ b₁ b₂ b₃ with
        | some c, _, _ => .char c :: decode (b₂ :: b₃ :: tail)
        | none, some c, _ => .char c :: decode (b₃ :: tail)
        | none, none, some c => .char c :: decode tail
        | none, none, none => .stray b₀ :: decode (b₁ :: b₂ :: b₃ :: tail)
      | [b₁, b₂] =>
        match twoBytes? b₀ b₁, threeBytes? b₀ b₁ b₂ with
        | some c, _ => .char c :: decode [b₂]
        | none, some c => [.char c]
        | none, none => .stray b₀ :: decode [b₁, b₂]
      | [b₁] =>
        match twoBytes? b₀ b₁ with
        | some c => [.char c]
        | none => .stray b₀ :: decode [b₁]
      | [] => [.stray b₀]

/-- The bytes of a text. -/
def encode (s : String) : List UInt8 := s.toUTF8.toList

def Piece.bytes : Piece → List UInt8
  | .char c => encode (String.singleton c)
  | .stray b => [b]

/-- A stray byte is shown as the replacement character. -/
def Piece.shown : Piece → Char
  | .char c => c
  | .stray _ => '\ufffd'

/-- How many characters some bytes form, stray bytes counted one by one. -/
def charCount (bytes : Bytes) : Nat := (decode bytes).length

/-- The text of some bytes, each stray byte replaced. -/
def decodeLossy (bytes : List UInt8) : String :=
  String.ofList ((decode bytes).map Piece.shown)

end KernelSweep.Text
