import KernelSweep.Proofs.Text.ByteOrder
import Mathlib.Data.Option.Basic

set_option autoImplicit false

namespace KernelSweep.Text

section Widths

variable {b₀ b₁ b₂ b₃ : UInt8} {c : Char} (high : ¬ b₀ < 0x80) (rest : List UInt8)
include high

theorem decode_of_two (two : twoBytes? b₀ b₁ = some c) :
    decode (b₀ :: b₁ :: rest) = .char c :: decode rest := by
  rcases rest with _ | ⟨x, _ | ⟨y, tail⟩⟩ <;>
    rw [decode.eq_def] <;> simp only [high, two, ↓reduceIte, decode]

theorem decode_of_three (two : twoBytes? b₀ b₁ = none) (three : threeBytes? b₀ b₁ b₂ = some c) :
    decode (b₀ :: b₁ :: b₂ :: rest) = .char c :: decode rest := by
  rcases rest with _ | ⟨x, tail⟩ <;>
    rw [decode.eq_def] <;> simp only [high, two, three, ↓reduceIte, decode]

theorem decode_of_four (two : twoBytes? b₀ b₁ = none) (three : threeBytes? b₀ b₁ b₂ = none)
    (four : fourBytes? b₀ b₁ b₂ b₃ = some c) :
    decode (b₀ :: b₁ :: b₂ :: b₃ :: rest) = .char c :: decode rest := by
  rw [decode.eq_def]
  simp only [high, two, three, four, ↓reduceIte]

end Widths

section Bytes

variable {b₀ b₁ b₂ b₃ : UInt8} {n : Nat}

theorem continuation?_of_digit (digit : b₁.toNat = n % 64 + 128) :
    continuation? b₁ = some (n % 64) := by
  have low : (0x80 : UInt8) ≤ b₁ := by
    rw [UInt8.le_iff_toNat_le, digit]
    exact Nat.le_add_left ..
  have high : b₁ ≤ (0xbf : UInt8) := by
    rw [UInt8.le_iff_toNat_le, digit]
    exact Nat.le_of_lt_succ (Nat.add_lt_add_right (Nat.mod_lt n (by decide)) 128)
  simp only [continuation?, low, high, decide_true, Bool.and_true, ↓reduceIte, digit,
    Nat.add_sub_cancel]

theorem twoBytes?_of_digits (first : b₀.toNat = 192 + n / 64) (wide : 128 ≤ n)
    (narrow : n < 2048) (second : b₁.toNat = n % 64 + 128) :
    twoBytes? b₀ b₁ = some (Char.ofNat n) := by
  have low : (0xc2 : UInt8) ≤ b₀ := by
    rw [UInt8.le_iff_toNat_le, first]
    show 194 ≤ 192 + n / 64
    omega
  have high : b₀ ≤ (0xdf : UInt8) := by
    rw [UInt8.le_iff_toNat_le, first]
    show 192 + n / 64 ≤ 223
    omega
  have whole : n / 64 * 64 + n % 64 = n := by omega
  simp [twoBytes?, low, high, continuation?_of_digit second, first, whole]

/-- A first byte above those of two bytes. -/
theorem twoBytes?_of_high (above : 224 ≤ b₀.toNat) (b₁ : UInt8) : twoBytes? b₀ b₁ = none := by
  have high : ¬ b₀ ≤ (0xdf : UInt8) := by
    rw [UInt8.le_iff_toNat_le]
    exact Nat.not_le.mpr above
  simp only [twoBytes?, high, decide_false, Bool.and_false, Bool.false_eq_true, guard, ↓reduceIte]
  rfl

theorem threeBytes?_of_digits (first : b₀.toNat = 224 + n / 4096) (wide : 2048 ≤ n)
    (narrow : n < 65536) (scalar : n < 0xd800 ∨ 0xdfff < n)
    (second : b₁.toNat = n / 64 % 64 + 128) (third : b₂.toNat = n % 64 + 128) :
    threeBytes? b₀ b₁ b₂ = some (Char.ofNat n) := by
  have low : (0xe0 : UInt8) ≤ b₀ := by
    rw [UInt8.le_iff_toNat_le, first]
    exact Nat.le_add_right ..
  have high : b₀ ≤ (0xef : UInt8) := by
    rw [UInt8.le_iff_toNat_le, first]
    show 224 + n / 4096 ≤ 239
    omega
  have whole : (n / 4096 * 64 + n / 64 % 64) * 64 + n % 64 = n := by omega
  have outside : n < 55296 ∨ 57343 < n := scalar
  simp [threeBytes?, low, high, continuation?_of_digit second, continuation?_of_digit third, first,
    whole, wide, outside, guard]

theorem threeBytes?_of_high (above : 240 ≤ b₀.toNat) (b₁ b₂ : UInt8) :
    threeBytes? b₀ b₁ b₂ = none := by
  have high : ¬ b₀ ≤ (0xef : UInt8) := by
    rw [UInt8.le_iff_toNat_le]
    exact Nat.not_le.mpr above
  simp only [threeBytes?, high, decide_false, Bool.and_false, Bool.false_eq_true, guard,
    ↓reduceIte]
  rfl

theorem fourBytes?_of_digits (first : b₀.toNat = 240 + n / 262144) (wide : 65536 ≤ n)
    (narrow : n < 0x110000) (second : b₁.toNat = n / 64 / 64 % 64 + 128)
    (third : b₂.toNat = n / 64 % 64 + 128) (fourth : b₃.toNat = n % 64 + 128) :
    fourBytes? b₀ b₁ b₂ b₃ = some (Char.ofNat n) := by
  have low : (0xf0 : UInt8) ≤ b₀ := by
    rw [UInt8.le_iff_toNat_le, first]
    exact Nat.le_add_right ..
  have high : b₀ ≤ (0xf4 : UInt8) := by
    rw [UInt8.le_iff_toNat_le, first]
    show 240 + n / 262144 ≤ 244
    omega
  have whole : ((n / 262144 * 64 + n / 64 / 64 % 64) * 64 + n / 64 % 64) * 64 +
      n % 64 = n := by omega
  have last : n ≤ 0x10ffff := Nat.le_of_lt_succ narrow
  simp [fourBytes?, low, high, continuation?_of_digit second, continuation?_of_digit third,
    continuation?_of_digit fourth, first, whole, wide, last, guard]

end Bytes

theorem decode_utf8EncodeChar (c : Char) (rest : List UInt8) :
    decode (String.utf8EncodeChar c ++ rest) = .char c :: decode rest := by
  have last : c.toNat < 0x110000 := toNat_lt c
  have scalar : c.toNat < 0xd800 ∨ 0xdfff < c.toNat := by
    rcases c.valid with low | ⟨above, -⟩
    · exact .inl low
    · exact .inr above
  have read : Char.ofNat c.toNat = c := Char.ofNat_toNat c
  have lead : (UInt8.ofNat (leading c.toNat)).toNat = leading c.toNat :=
    UInt8.toNat_ofNat_of_lt' (leading_lt last)
  have digit (n : Nat) : (UInt8.ofNat (n % 64 + 128)).toNat = n % 64 + 128 := by
    apply UInt8.toNat_ofNat_of_lt'
    exact Nat.lt_trans (Nat.add_lt_add_right (Nat.mod_lt n (by decide)) 128) (by decide)
  rw [utf8EncodeChar_eq]
  unfold leading at lead
  unfold leading following
  generalize c.toNat = n at *
  split_ifs at lead ⊢ with one two three
  · have low : UInt8.ofNat n < 0x80 := by
      rw [UInt8.lt_iff_toNat_lt, lead]
      exact Nat.lt_succ_of_le one
    rw [digitBytes, List.singleton_append, decode.eq_def]
    simp only [low, ↓reduceIte, lead, read]
  · have high : ¬ UInt8.ofNat (192 + n / 64) < 0x80 := by
      rw [UInt8.lt_iff_toNat_lt, lead]
      exact Nat.not_lt.mpr (Nat.le_trans (by decide) (Nat.le_add_right 192 _))
    have two' := twoBytes?_of_digits lead (by omega) (by omega) (digit n)
    simp only [digitBytes, List.nil_append, List.cons_append]
    rw [decode_of_two high rest two', read]
  · have high : ¬ UInt8.ofNat (224 + n / 4096) < 0x80 := by
      rw [UInt8.lt_iff_toNat_lt, lead]
      exact Nat.not_lt.mpr (Nat.le_trans (by decide) (Nat.le_add_right 224 _))
    have notTwo := twoBytes?_of_high (lead ▸ Nat.le_add_right 224 _) (.ofNat (n / 64 % 64 + 128))
    have three' := threeBytes?_of_digits lead (by omega) (by omega) scalar (digit (n / 64))
      (digit n)
    simp only [digitBytes, List.nil_append, List.cons_append]
    rw [decode_of_three high rest notTwo three', read]
  · have high : ¬ UInt8.ofNat (240 + n / 262144) < 0x80 := by
      rw [UInt8.lt_iff_toNat_lt, lead]
      exact Nat.not_lt.mpr (Nat.le_trans (by decide) (Nat.le_add_right 240 _))
    have notTwo := twoBytes?_of_high (lead ▸ Nat.le_trans (by decide) (Nat.le_add_right 240 _))
      (.ofNat (n / 64 / 64 % 64 + 128))
    have notThree := threeBytes?_of_high (lead ▸ Nat.le_add_right 240 _)
      (.ofNat (n / 64 / 64 % 64 + 128)) (.ofNat (n / 64 % 64 + 128))
    have four := fourBytes?_of_digits lead (by omega) last (digit (n / 64 / 64)) (digit (n / 64))
      (digit n)
    simp only [digitBytes, List.nil_append, List.cons_append]
    rw [decode_of_four high rest notTwo notThree four, read]

theorem decode_encode (s : String) : decode (encode s) = s.toList.map .char := by
  rw [encode_eq]
  induction s.toList with
  | nil => rfl
  | cons c rest ih => rw [List.flatMap_cons, decode_utf8EncodeChar, ih, List.map_cons]

theorem decodeLossy_encode (s : String) : decodeLossy (encode s) = s := by
  rw [decodeLossy, decode_encode, List.map_map]
  show String.ofList (s.toList.map id) = s
  rw [List.map_id, String.ofList_toList]

theorem encode_injective : Function.Injective encode := by
  intro s t same
  rw [← decodeLossy_encode s, same, decodeLossy_encode]

@[simp] theorem encode_empty : encode "" = [] := by
  rw [encode_eq]
  rfl

theorem encode_eq_nil_iff {s : String} : encode s = [] ↔ s = "" := by
  rw [← encode_empty, encode_injective.eq_iff]

end KernelSweep.Text
