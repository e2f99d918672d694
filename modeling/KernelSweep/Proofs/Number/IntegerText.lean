import KernelSweep.Proofs.Number.Word

set_option autoImplicit false

namespace KernelSweep.Number

/-- Decimal digits, one at least, and the number they stand for. -/
structure IsNumeral (digits : List Char) (n : Nat) : Prop where
  filled : digits ≠ []
  all : ∀ c ∈ digits, c.isDigit = true
  value : Nat.ofDigitChars 10 digits 0 = n

/-- A text that stands for a word: digits, with a plus, a minus or nothing in front. -/
def IsInteger (text : List Char) (w : Int64) : Prop :=
  ∃ digits n, IsNumeral digits n ∧
    ((text = digits ∨ text = '+' :: digits) ∧ w.toInt = n ∨ text = '-' :: digits ∧ w.toInt = -n)

theorem digit?_of_isDigit {c : Char} (digit : c.isDigit = true) :
    digit? 10 c = some (c.toNat - '0'.toNat) := by
  obtain ⟨low, high⟩ := Char.isDigit_iff_toNat.mp digit
  have decimal : '0' ≤ c ∧ c ≤ '9' := ⟨low, high⟩
  have small : c.toNat - '0'.toNat < 10 := by
    simp only [Char.reduceToNat] at high ⊢
    omega
  simp only [digit?, decimal, and_self, small, ↓reduceIte]

theorem digit?_of_not_isDigit {c : Char} (other : c.isDigit = false) : digit? 10 c = none := by
  have outside : ¬ ('0' ≤ c ∧ c ≤ '9') := fun inside =>
    absurd (Char.isDigit_iff_toNat.mpr inside) (by simp [other])
  simp only [digit?, outside, ↓reduceIte]
  apply if_neg
  split
  · omega
  · split <;> omega

theorem readDigits_eq_some_iff {acc n : Nat} {cs : List Char} :
    readDigits 10 acc cs = some n ↔
      (∀ c ∈ cs, c.isDigit = true) ∧ Nat.ofDigitChars 10 cs acc = n := by
  induction cs generalizing acc with
  | nil => simp [readDigits]
  | cons c rest ih =>
    rw [readDigits]
    by_cases digit : c.isDigit = true
    · rw [digit?_of_isDigit digit]
      simp only [ih, List.forall_mem_cons, digit, true_and, Nat.ofDigitChars_cons, Nat.mul_comm 10]
    · have other : c.isDigit = false := Bool.eq_false_iff.mpr digit
      simp [digit?_of_not_isDigit other, other]

theorem readNat_eq_some_iff {cs : List Char} {n : Nat} :
    readNat 10 cs = some n ↔ IsNumeral cs n := by
  cases cs with
  | nil => exact iff_of_false (by simp [readNat]) fun numeral => numeral.filled rfl
  | cons c rest =>
    rw [readNat, readDigits_eq_some_iff]
    · exact ⟨fun ⟨all, value⟩ => ⟨List.cons_ne_nil _ _, all, value⟩,
        fun numeral => ⟨numeral.all, numeral.value⟩⟩
    · exact List.cons_ne_nil _ _

theorem toInt64?_eq_some_iff {n : Int} {w : Int64} : toInt64? n = some w ↔ w.toInt = n := by
  unfold toInt64?
  split
  · rename_i fits
    have value := Int64.toInt_ofInt_of_le fits.1 (Int.lt_add_one_of_le fits.2)
    rw [Option.some_inj, ← Int64.toInt_inj, value, eq_comm]
  · rename_i beyond
    refine iff_of_false (by simp) ?_
    rintro rfl
    exact beyond (isWord_toInt w)

/-- The three ways a text can begin. -/
theorem splitSign_cases (cs : List Char) :
    (∃ rest, cs = '+' :: rest ∧ splitSign cs = (false, rest)) ∨
      (∃ rest, cs = '-' :: rest ∧ splitSign cs = (true, rest)) ∨
      (cs.head? ≠ some '+' ∧ cs.head? ≠ some '-' ∧ splitSign cs = (false, cs)) := by
  unfold splitSign
  split
  · exact .inl ⟨_, rfl, rfl⟩
  · exact .inr (.inl ⟨_, rfl, rfl⟩)
  · rename_i plus minus
    refine .inr (.inr ⟨?_, ?_, rfl⟩)
    · intro first
      obtain ⟨rest, rfl⟩ := List.head?_eq_some_iff.mp first
      exact plus rest rfl
    · intro first
      obtain ⟨rest, rfl⟩ := List.head?_eq_some_iff.mp first
      exact minus rest rfl

theorem splitSign_of_digits {digits : List Char} (all : ∀ c ∈ digits, c.isDigit = true) :
    splitSign digits = (false, digits) := by
  rcases splitSign_cases digits with ⟨rest, rfl, -⟩ | ⟨rest, rfl, -⟩ | ⟨-, -, unsigned⟩
  · exact absurd (all '+' List.mem_cons_self) (by decide)
  · exact absurd (all '-' List.mem_cons_self) (by decide)
  · exact unsigned

theorem readInt64_eq_some_iff {text : List Char} {w : Int64} :
    readInt64 text = some w ↔ IsInteger text w := by
  have reads : ∀ negative digits, splitSign text = (negative, digits) →
      (readInt64 text = some w ↔ ∃ n, IsNumeral digits n ∧ w.toInt = signed negative n) := by
    intro negative digits cut
    simp only [readInt64, cut, Option.bind_eq_some_iff, readNat_eq_some_iff, toInt64?_eq_some_iff]
  constructor
  · intro read
    rcases splitSign_cases text with ⟨digits, rfl, cut⟩ | ⟨digits, rfl, cut⟩ | ⟨-, -, cut⟩
    all_goals
      obtain ⟨n, numeral, value⟩ := (reads _ _ cut).mp read
    · exact ⟨digits, n, numeral, .inl ⟨.inr rfl, value⟩⟩
    · exact ⟨digits, n, numeral, .inr ⟨rfl, value⟩⟩
    · exact ⟨text, n, numeral, .inl ⟨.inl rfl, value⟩⟩
  · rintro ⟨digits, n, numeral, ⟨rfl | rfl, value⟩ | ⟨rfl, value⟩⟩
    · exact (reads false text (splitSign_of_digits numeral.all)).mpr ⟨n, numeral, value⟩
    · exact (reads false digits rfl).mpr ⟨n, numeral, value⟩
    · exact (reads true digits rfl).mpr ⟨n, numeral, value⟩

theorem isNumeral_toDigits (n : Nat) : IsNumeral (Nat.toDigits 10 n) n where
  filled := Nat.toDigits_ne_nil
  all _ member := Nat.isDigit_of_mem_toDigits (by decide) (by decide) member
  value := Nat.ofDigitChars_ten_toDigits

theorem toList_decimal (w : Int64) :
    (decimal w).toList =
      if w.toInt < 0 then '-' :: Nat.toDigits 10 w.toInt.natAbs
      else Nat.toDigits 10 w.toInt.natAbs := by
  rw [decimal]
  cases w.toInt with
  | ofNat n =>
    have written : toString (Int.ofNat n) = n.repr := rfl
    rw [written, Nat.toList_repr, if_neg (by simp)]
    rfl
  | negSucc n =>
    have written : toString (Int.negSucc n) = "-" ++ (n + 1).repr := rfl
    rw [written, String.toList_append, Nat.toList_repr, if_pos (Int.negSucc_lt_zero n)]
    rfl

theorem isInteger_decimal (w : Int64) : IsInteger (decimal w).toList w := by
  rw [toList_decimal]
  split
  · exact ⟨_, _, isNumeral_toDigits _, .inr ⟨rfl, by omega⟩⟩
  · exact ⟨_, _, isNumeral_toDigits _, .inl ⟨.inl rfl, by omega⟩⟩

theorem decimal_inj {v w : Int64} : decimal v = decimal w ↔ v = w := by
  constructor
  · intro same
    have first := readInt64_eq_some_iff.mpr (isInteger_decimal v)
    have second := readInt64_eq_some_iff.mpr (isInteger_decimal w)
    rw [same] at first
    exact Option.some.inj (first.symm.trans second)
  · rintro rfl
    rfl

/-- A numeral holds digits and a minus. -/
theorem not_mem_decimal {c : Char} (sign : c ≠ '-') (other : c.isDigit = false) (w : Int64) :
    c ∉ (decimal w).toList := by
  have digits : c ∉ Nat.toDigits 10 w.toInt.natAbs := by
    intro member
    have digit := (isNumeral_toDigits w.toInt.natAbs).all c member
    rw [other] at digit
    cases digit
  rw [toList_decimal]
  split
  · exact List.not_mem_cons_of_ne_of_not_mem sign digits
  · exact digits

end KernelSweep.Number
