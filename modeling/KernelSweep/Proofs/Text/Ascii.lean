import KernelSweep.Text.Utf8
import Mathlib.Data.List.Basic

set_option autoImplicit false

namespace KernelSweep.Text

theorem toList_loop (bytes : ByteArray) (i : Nat) (done : List UInt8) :
    ByteArray.toList.loop bytes i done = done.reverse ++ bytes.data.toList.drop i := by
  fun_induction ByteArray.toList.loop bytes i done with
  | case1 i done more ih =>
    have within : i < bytes.data.toList.length := by simpa using more
    rw [ih, List.drop_eq_getElem_cons within]
    simp [ByteArray.get!, more]
  | case2 i done ended =>
    rw [List.drop_eq_nil_of_le (by simpa using Nat.le_of_not_lt ended), List.append_nil]

/-- The bytes of a text are those of its characters. -/
theorem encode_eq (s : String) : encode s = s.toList.flatMap String.utf8EncodeChar := by
  rw [encode, String.toUTF8_eq_toByteArray, ByteArray.toList, toList_loop,
    ← String.utf8Encode_toList, List.utf8Encode, List.toList_data_toByteArray]
  rfl

theorem toNat_toUInt8 {c : Char} (small : c.toNat < 128) : c.toUInt8.toNat = c.toNat := by
  show c.toNat % 256 = c.toNat
  omega

section Ascii

variable {cs : List Char} (ascii : ∀ c ∈ cs, c.toNat < 128)
include ascii

theorem flatMap_utf8EncodeChar : cs.flatMap String.utf8EncodeChar = cs.map Char.toUInt8 := by
  induction cs with
  | nil => rfl
  | cons c rest ih =>
    obtain ⟨small, later⟩ := List.forall_mem_cons.mp ascii
    have single : c.utf8Size = 1 := by
      rw [Char.utf8Size_eq_one_iff, UInt32.le_iff_toNat_le]
      exact Nat.le_of_lt_succ small
    rw [List.flatMap_cons, String.utf8EncodeChar_eq_singleton single, ih later]
    rfl

theorem decode_map_toUInt8 : decode (cs.map Char.toUInt8) = cs.map .char := by
  induction cs with
  | nil => rfl
  | cons c rest ih =>
    obtain ⟨small, later⟩ := List.forall_mem_cons.mp ascii
    have low : c.toUInt8 < 0x80 := by
      rw [UInt8.lt_iff_toNat_lt, toNat_toUInt8 small]
      exact small
    rw [List.map_cons, decode.eq_def]
    simp only [low, ↓reduceIte, ih later, toNat_toUInt8 small, Char.ofNat_toNat, List.map_cons]

/-- A byte of an ASCII character stands for that character only. -/
theorem mem_of_toUInt8_mem {d : Char} (small : d.toNat < 128)
    (member : d.toUInt8 ∈ cs.map Char.toUInt8) : d ∈ cs := by
  obtain ⟨c, here, same⟩ := List.mem_map.mp member
  have value := congrArg UInt8.toNat same
  rw [toNat_toUInt8 (ascii c here), toNat_toUInt8 small] at value
  rwa [← Char.toNat_inj.mp value]

end Ascii

theorem encode_of_ascii {s : String} (ascii : ∀ c ∈ s.toList, c.toNat < 128) :
    encode s = s.toList.map Char.toUInt8 := by
  rw [encode_eq, flatMap_utf8EncodeChar ascii]

end KernelSweep.Text
