import KernelSweep.Proofs.Text.Ascii
import Mathlib.Algebra.GroupWithZero.Nat
import Mathlib.Tactic.SplitIfs

set_option autoImplicit false

namespace KernelSweep.Text

/-- The last digits of a number in base 64, one to a byte, the most significant first. -/
def digitBytes : Nat → Nat → List UInt8
  | 0, _ => []
  | count + 1, n => digitBytes count (n / 64) ++ [UInt8.ofNat (n % 64 + 128)]

/-- How many bytes follow the first one. -/
def following (n : Nat) : Nat :=
  if n ≤ 127 then 0 else if n ≤ 2047 then 1 else if n ≤ 65535 then 2 else 3

/-- The first byte: the digits that are left, and a mark for the number of bytes that follow. -/
def leading (n : Nat) : Nat :=
  if n ≤ 127 then n else if n ≤ 2047 then 192 + n / 64
  else if n ≤ 65535 then 224 + n / 4096 else 240 + n / 262144

theorem toNat_lt (c : Char) : c.toNat < 0x110000 := by
  rcases c.valid with low | ⟨-, high⟩
  · exact Nat.lt_trans low (by decide)
  · exact high

theorem utf8EncodeChar_eq (c : Char) :
    String.utf8EncodeChar c =
      UInt8.ofNat (leading c.toNat) :: digitBytes (following c.toNat) c.toNat := by
  have last : c.toNat < 0x110000 := toNat_lt c
  have code : c.val.toNat = c.toNat := rfl
  unfold String.utf8EncodeChar leading following
  simp only [code]
  generalize c.toNat = n at *
  split_ifs
  · rfl
  · have first : n / 64 % 32 + 192 = 192 + n / 64 := by omega
    simp only [digitBytes, first, List.nil_append]
  · have first : n / 4096 % 16 + 224 = 224 + n / 4096 := by omega
    simp only [digitBytes, first, List.nil_append, List.singleton_append]
  · have first : n / 262144 % 8 + 240 = 240 + n / 262144 := by omega
    have second : n / 4096 = n / 64 / 64 := by omega
    simp only [digitBytes, first, second, List.nil_append, List.cons_append]

theorem ofNat_lt_ofNat {a b : Nat} (less : a < b) (small : b < 256) :
    UInt8.ofNat a < UInt8.ofNat b := by
  rw [UInt8.lt_iff_toNat_lt, UInt8.toNat_ofNat_of_lt' small,
    UInt8.toNat_ofNat_of_lt' (Nat.lt_trans less small)]
  exact less

/-- The digits in which two numbers differ decide, whatever follows. -/
theorem digitBytes_append_lt {count v w : Nat} (less : v < w)
    (same : v / 64 ^ count = w / 64 ^ count) (xs ys : List UInt8) :
    digitBytes count v ++ xs < digitBytes count w ++ ys := by
  induction count generalizing v w xs ys with
  | zero => simp only [Nat.pow_zero, Nat.div_one] at same; omega
  | succ count ih =>
    simp only [digitBytes, List.append_assoc, List.singleton_append]
    rw [Nat.pow_succ', ← Nat.div_div_eq_div_mul, ← Nat.div_div_eq_div_mul] at same
    by_cases higher : v / 64 < w / 64
    · exact ih higher same _ _
    · have equal : v / 64 = w / 64 := by omega
      rw [equal]
      apply List.append_left_lt
      exact List.cons_lt_cons_iff.mpr (.inl (ofNat_lt_ofNat (by omega) (by omega)))

/-- A larger character has a larger first byte, or the same one and with it as many bytes. -/
theorem leading_cases {v w : Nat} (less : v < w) (last : w < 0x110000) :
    leading v < leading w ∨ leading v = leading w ∧ following v = following w ∧
      v / 64 ^ following w = w / 64 ^ following w := by
  unfold leading following
  split_ifs <;> simp only [Nat.reducePow, true_and] <;> omega

theorem leading_lt {n : Nat} (last : n < 0x110000) : leading n < 256 := by
  unfold leading
  split_ifs <;> omega

theorem utf8EncodeChar_append_lt {c d : Char} (less : c < d) (xs ys : List UInt8) :
    String.utf8EncodeChar c ++ xs < String.utf8EncodeChar d ++ ys := by
  have last : d.toNat < 0x110000 := toNat_lt d
  have less' : c.toNat < d.toNat := less
  rw [utf8EncodeChar_eq, utf8EncodeChar_eq, List.cons_append, List.cons_append,
    List.cons_lt_cons_iff]
  rcases leading_cases less' last with smaller | ⟨same, count, rest⟩
  · exact .inl (ofNat_lt_ofNat smaller (leading_lt last))
  · rw [same, count]
    exact .inr ⟨rfl, digitBytes_append_lt less' rest xs ys⟩

theorem flatMap_utf8EncodeChar_lt {cs ds : List Char} (less : cs < ds) :
    cs.flatMap String.utf8EncodeChar < ds.flatMap String.utf8EncodeChar := by
  induction cs generalizing ds with
  | nil =>
    cases ds with
    | nil => exact absurd less (List.lt_irrefl [])
    | cons d ds =>
      rw [List.flatMap_nil, List.flatMap_cons, utf8EncodeChar_eq]
      exact List.nil_lt_cons ..
  | cons c cs ih =>
    cases ds with
    | nil => exact absurd less (List.not_lt_nil _)
    | cons d ds =>
      rw [List.flatMap_cons, List.flatMap_cons]
      rcases List.cons_lt_cons_iff.mp less with smaller | ⟨rfl, later⟩
      · exact utf8EncodeChar_append_lt smaller _ _
      · exact List.append_left_lt (ih later)

/-- Texts in ascending order have their bytes in ascending order. -/
theorem encode_lt_encode {s t : String} (less : s < t) : encode s < encode t := by
  rw [encode_eq, encode_eq]
  exact flatMap_utf8EncodeChar_lt less

end KernelSweep.Text
