import KernelSweep.Proofs.Number.Numeral

set_option autoImplicit false

namespace KernelSweep.Number

section Writing

variable {digits : List Char} {n : Nat}

theorem isDigit_replicate (count : Nat) : ∀ c ∈ List.replicate count '0', c.isDigit = true := by
  intro c member
  rw [List.eq_of_mem_replicate member]
  decide

theorem IsNumeral.zeros_append (numeral : IsNumeral digits n) (count : Nat) :
    IsNumeral (List.replicate count '0' ++ digits) n where
  filled := by simp [numeral.filled]
  all := List.forall_mem_append.mpr ⟨isDigit_replicate count, numeral.all⟩
  value := by
    rw [Nat.ofDigitChars_append, Nat.ofDigitChars_replicate_zero, Nat.mul_zero, numeral.value]

theorem IsNumeral.append_zeros (numeral : IsNumeral digits n) (count : Nat) :
    IsNumeral (digits ++ List.replicate count '0') (10 ^ count * n) where
  filled := by simp [numeral.filled]
  all := List.forall_mem_append.mpr ⟨numeral.all, isDigit_replicate count⟩
  value := by rw [Nat.ofDigitChars_append, numeral.value, Nat.ofDigitChars_replicate_zero]

theorem toList_padLeft (places : Nat) (s : String) :
    (padLeft places s).toList = List.replicate (places - s.length) '0' ++ s.toList := by
  rw [padLeft, String.toList_append, String.toList_ofList]

theorem toList_positional (digits : List Char) (point : Int) :
    (positional digits point).toList =
      if point ≤ 0 then ['0'] ++ '.' :: (List.replicate (-point).toNat '0' ++ digits)
      else if digits.length ≤ point.toNat then
        digits ++ List.replicate (point.toNat - digits.length) '0'
      else digits.take point.toNat ++ '.' :: digits.drop point.toNat := by
  unfold positional
  split
  · simp
  · split <;> simp

/-- Zeros behind the digits change the decimal but not its value; otherwise the decimal itself is
written. -/
theorem isDecimal_positional (numeral : IsNumeral digits n) (point : Int) :
    ∃ d : Decimal, IsDecimal (positional digits point).toList d ∧
      d.toRat = n * 10 ^ (point - digits.length) := by
  rw [toList_positional]
  split
  · rename_i left
    have padded : IsNumeral (['0'] ++ (List.replicate (-point).toNat '0' ++ digits)) n :=
      (numeral.zeros_append (-point).toNat).zeros_append 1
    refine ⟨_, .plain (.pointed padded), ?_⟩
    rw [Decimal.toRat]
    congr 2
    simp only [List.length_append, List.length_replicate]
    omega
  · split
    · rename_i right fewer
      refine ⟨_, .plain (.whole (numeral.append_zeros _)), ?_⟩
      have places : point - digits.length = ((point.toNat - digits.length : Nat) : Int) := by omega
      rw [Decimal.toRat, places, zpow_natCast]
      push_cast
      ring
    · rename_i right more
      rw [← List.take_append_drop point.toNat digits] at numeral
      refine ⟨_, .plain (.pointed numeral), ?_⟩
      rw [Decimal.toRat]
      congr 2
      simp only [List.length_drop]
      omega

theorem toList_scientific (places : Nat) (digits : List Char) (exponent : Int) :
    (scientific places digits exponent).toList =
      (digits.take 1 ++ if (digits.drop 1).isEmpty then [] else '.' :: digits.drop 1) ++
        'e' :: (if decide (exponent < 0) then '-' else '+') ::
          (List.replicate (places - (toString exponent.natAbs).length) '0' ++
            Nat.toDigits 10 exponent.natAbs) := by
  have written : (toString exponent.natAbs).toList = Nat.toDigits 10 exponent.natAbs :=
    Nat.toList_repr
  simp only [scientific, String.toList_append, String.toList_ofList, toList_padLeft, written,
    decide_eq_true_eq, List.append_assoc]
  congr 1
  congr 1
  · split <;> simp
  · split <;> rfl

theorem isDecimal_scientific (numeral : IsNumeral digits n) (places : Nat) {exponent : Int}
    (small : exponent.natAbs < exponentLimit) :
    IsDecimal (scientific places digits exponent).toList ⟨n, exponent + 1 - digits.length⟩ := by
  have power := (isNumeral_toDigits exponent.natAbs).zeros_append
    (places - (toString exponent.natAbs).length)
  have size : signed (decide (exponent < 0)) exponent.natAbs = exponent := by
    simp only [signed, decide_eq_true_eq]
    split <;> omega
  rw [toList_scientific]
  cases digits with
  | nil => exact absurd rfl numeral.filled
  | cons first rest =>
    cases rest with
    | nil =>
      have place : exponent + 1 - ([first].length : Int) =
          signed (decide (exponent < 0)) exponent.natAbs - ((0 : Nat) : Int) := by
        rw [size, List.length_singleton]
        omega
      rw [place]
      exact .powered (decide (exponent < 0)) (.whole numeral) power small
    | cons second rest =>
      have place : exponent + 1 - ((first :: second :: rest).length : Int) =
          signed (decide (exponent < 0)) exponent.natAbs - ((second :: rest).length : Int) := by
        rw [size, List.length_cons]
        omega
      have pointed : IsSignificand ([first] ++ '.' :: second :: rest) n (second :: rest).length :=
        .pointed numeral
      rw [place]
      exact .powered (decide (exponent < 0)) pointed power small

/-- Whatever the form, the text has the value of the decimal. -/
theorem isDecimal_text (format : ExponentFormat) {d : Decimal}
    (small : (d.exponent + digitCount d.digits - 1).natAbs < exponentLimit) :
    ∃ other, IsDecimal (d.text format).toList other ∧ other.toRat = d.toRat := by
  have numeral := isNumeral_toDigits d.digits
  unfold Decimal.text
  simp only
  split
  · obtain ⟨other, written, value⟩ := isDecimal_positional numeral
      (d.exponent + (Nat.toDigits 10 d.digits).length)
    refine ⟨other, written, ?_⟩
    rw [value, Decimal.toRat, Int.add_sub_cancel]
  · refine ⟨_, isDecimal_scientific numeral _ small, ?_⟩
    rw [Decimal.toRat, Decimal.toRat, Int.sub_add_cancel, Int.add_sub_cancel]

theorem digitCount_le (n : Nat) : digitCount n ≤ n + 1 := by
  rw [digitCount_le_iff (Nat.succ_pos n)]
  calc n < 10 ^ n := Nat.lt_pow_self (by decide)
    _ ≤ 10 ^ (n + 1) := Nat.pow_le_pow_right (by decide) (Nat.le_succ n)

theorem length_positional_le (digits : List Char) (point : Int) :
    (positional digits point).toList.length ≤ digits.length + point.natAbs + 2 := by
  rw [toList_positional]
  split
  · simp only [List.length_append, List.length_cons, List.length_nil, List.length_replicate]
    omega
  · split
    · rw [List.length_append, List.length_replicate]
      omega
    · rw [List.length_append, List.length_cons, List.length_take, List.length_drop]
      omega

theorem length_scientific_le (places : Nat) (digits : List Char) (exponent : Int) :
    (scientific places digits exponent).toList.length ≤
      digits.length + exponent.natAbs + places + 4 := by
  have power := digitCount_le exponent.natAbs
  have written : (toString exponent.natAbs).length = digitCount exponent.natAbs := by
    rw [← String.length_toList]
    exact congrArg List.length Nat.toList_repr
  unfold digitCount at power written
  have front : (digits.take 1).length +
      (if (digits.drop 1).isEmpty then [] else '.' :: digits.drop 1).length ≤
        digits.length + 1 := by
    rw [List.length_take]
    split
    · rw [List.length_nil]
      omega
    · rw [List.length_cons, List.length_drop]
      omega
  rw [toList_scientific, List.length_append, List.length_append, List.length_cons, List.length_cons,
    List.length_append, List.length_replicate, written]
  omega

/-- The text is not much longer than the digits and the zeros that go with them. -/
theorem length_text_le (format : ExponentFormat) (d : Decimal) :
    (d.text format).toList.length ≤
      digitCount d.digits + (d.exponent + digitCount d.digits).natAbs + format.places + 5 := by
  unfold Decimal.text digitCount
  simp only
  split
  · have most := length_positional_le (Nat.toDigits 10 d.digits)
      (d.exponent + (Nat.toDigits 10 d.digits).length)
    omega
  · have most := length_scientific_le format.places (Nat.toDigits 10 d.digits)
      (d.exponent + (Nat.toDigits 10 d.digits).length - 1)
    omega

end Writing

section Whole

variable {x : Binary64}

theorem eq_zero_of_isZero (zero : x.isZero = true) : Binary64.zero x.isNegative = x := by
  simp only [Binary64.isZero, Bool.and_eq_true, beq_iff_eq] at zero
  have bits := x.ofMagnitude_bits
  rwa [zero.1, zero.2, Nat.zero_mul] at bits

theorem eq_infinity_of_isInfinite (infinite : x.isInfinite = true) :
    Binary64.infinity x.isNegative = x := by
  simp only [Binary64.isInfinite, Bool.and_eq_true, beq_iff_eq] at infinite
  have bits := x.ofMagnitude_bits
  rwa [infinite.1, infinite.2] at bits

theorem isFinite_iff : x.isFinite = true ↔ x.isNaN = false ∧ x.isInfinite = false := by
  by_cases top : x.exponentField = 2047 <;> by_cases fraction : x.fraction = 0 <;>
    simp [Binary64.isFinite, Binary64.isNaN, Binary64.isInfinite, top, fraction]

theorem isFinite_of_isZero (zero : x.isZero = true) : x.isFinite = true := by
  simp only [Binary64.isZero, Bool.and_eq_true, beq_iff_eq] at zero
  simp [Binary64.isFinite, zero.1]

theorem isNaN_of_isInfinite (infinite : x.isInfinite = true) : x.isNaN = false := by
  simp only [Binary64.isInfinite, Bool.and_eq_true, beq_iff_eq] at infinite
  simp [Binary64.isNaN, infinite.2]

/-- The four kinds of numbers, each with its text. -/
theorem text_cases (x : Binary64) :
    x.isNaN = true ∧ x.text = "NaN" ∨
      x.isInfinite = true ∧ x.text = (if x.isNegative then "-Inf" else "+Inf") ∨
      x.isZero = true ∧ x.text = (if x.isNegative then "-0" else "0") ∨
      x.isFinite = true ∧ x.isZero = false ∧
        x.text.toList = (if x.isNegative then ['-'] else []) ++
          ((shortest x).text .report).toList := by
  unfold Binary64.text
  by_cases number : x.isNaN = true
  · exact .inl ⟨number, by simp [number]⟩
  by_cases infinite : x.isInfinite = true
  · exact .inr (.inl ⟨infinite, by simp [number, infinite]⟩)
  by_cases zero : x.isZero = true
  · refine .inr (.inr (.inl ⟨zero, ?_⟩))
    cases x.isNegative <;> simp [number, infinite, zero]
  · rw [Bool.not_eq_true] at number infinite zero
    refine .inr (.inr (.inr ⟨isFinite_iff.mpr ⟨number, infinite⟩, zero, ?_⟩))
    cases x.isNegative <;> simp [number, infinite, zero]

/-- The text of a number other than zero is a numeral for it. -/
theorem exists_isDecimal (finite : x.isFinite = true) (other : x.isZero = false) :
    ∃ d : Decimal, IsDecimal ((shortest x).text .report).toList d ∧
      d.toBinary64 x.isNegative = x := by
  have point := natAbs_point_shortest_le finite other
  obtain ⟨d, decimal, value⟩ := isDecimal_text .report (d := shortest x)
    (by unfold exponentLimit; omega)
  refine ⟨d, decimal, ?_⟩
  rw [Decimal.toBinary64_of_toRat value, toBinary64_shortest finite]

/-- Every number is read from its text; of the NaNs only one is. -/
theorem readFloat_text (x : Binary64) :
    readFloat x.text.toList = some (if x.isNaN then Binary64.nan else x) := by
  rcases text_cases x with ⟨number, text⟩ | ⟨infinite, text⟩ | ⟨zero, text⟩ | ⟨finite, other, text⟩
  · rw [text, if_pos number]
    decide
  · rw [text, isNaN_of_isInfinite infinite, if_neg Bool.false_ne_true]
    have read : ∀ negative : Bool, readFloat (if negative then "-Inf" else "+Inf").toList =
        some (Binary64.infinity negative) := by decide
    rw [read, eq_infinity_of_isInfinite infinite]
  · rw [text, (isFinite_iff.mp (isFinite_of_isZero zero)).1, if_neg Bool.false_ne_true]
    have read : ∀ negative : Bool, readFloat (if negative then "-0" else "0").toList =
        some (Binary64.zero negative) := by decide
    rw [read, eq_zero_of_isZero zero]
  · rw [text, (isFinite_iff.mp finite).1, if_neg Bool.false_ne_true]
    obtain ⟨d, decimal, same⟩ := exists_isDecimal finite other
    rw [← same] at finite other
    rw [readFloat_of_isDecimal decimal finite other, same]

theorem length_text_lt (x : Binary64) : x.text.toList.length < 3000 := by
  rcases text_cases x with ⟨-, text⟩ | ⟨-, text⟩ | ⟨-, text⟩ | ⟨finite, other, text⟩
  · rw [text]
    decide
  · rw [text]
    cases x.isNegative <;> decide
  · rw [text]
    cases x.isNegative <;> decide
  · have point := natAbs_point_shortest_le finite other
    have least := exponent_shortest_ge x
    have most := length_text_le .report (shortest x)
    have places : ExponentFormat.report.places = 2 := rfl
    have sign : (if x.isNegative then ['-'] else []).length ≤ 1 := by cases x.isNegative <;> decide
    rw [text, List.length_append]
    omega

/-- The letters of the special values. -/
def specialChars : List Char := ['N', 'a', 'I', 'n', 'f']

theorem chars_text (x : Binary64) :
    ∀ c ∈ x.text.toList, c ∈ numeralChars ∨ c ∈ specialChars := by
  rcases text_cases x with ⟨-, text⟩ | ⟨-, text⟩ | ⟨-, text⟩ | ⟨finite, other, text⟩
  · rw [text]
    simp [specialChars]
  · rw [text]
    cases x.isNegative <;> simp [numeralChars, specialChars]
  · rw [text]
    cases x.isNegative <;> simp [numeralChars]
  · obtain ⟨d, decimal, -⟩ := exists_isDecimal finite other
    rw [text, List.forall_mem_append]
    refine ⟨?_, fun c member => .inl (decimal.chars c member)⟩
    cases x.isNegative <;> simp [numeralChars]

end Whole

end KernelSweep.Number
