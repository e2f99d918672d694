import KernelSweep.Number.FloatReading
import KernelSweep.Proofs.Number.IntegerText
import KernelSweep.Proofs.Number.Shortest

set_option autoImplicit false

namespace KernelSweep.Number

/-- The digits `n` around a point, `places` of them behind it. A point that no digit follows is left
out. -/
inductive IsSignificand : List Char → Nat → Nat → Prop
  | whole {digits : List Char} {n : Nat} (numeral : IsNumeral digits n) : IsSignificand digits n 0
  | pointed {front back : List Char} {n : Nat} (numeral : IsNumeral (front ++ back) n) :
    IsSignificand (front ++ '.' :: back) n back.length

/-- The size an exponent may have before its digits are no longer all read. -/
def exponentLimit : Nat := 100000

/-- A numeral and the decimal it stands for. -/
inductive IsDecimal : List Char → Decimal → Prop
  | plain {text : List Char} {n places : Nat} (front : IsSignificand text n places) :
    IsDecimal text ⟨n, -(places : Int)⟩
  | powered {text digits : List Char} {n places k : Nat} (negative : Bool)
    (front : IsSignificand text n places) (power : IsNumeral digits k) (small : k < exponentLimit) :
    IsDecimal (text ++ 'e' :: (if negative then '-' else '+') :: digits)
      ⟨n, signed negative k - places⟩

/-- The characters numerals are made of. -/
def numeralChars : List Char :=
  ['0', '1', '2', '3', '4', '5', '6', '7', '8', '9', '.', 'e', '+', '-']

section Characters

variable {text digits : List Char}

theorem mem_numeralChars_of_isDigit {c : Char} (digit : c.isDigit = true) : c ∈ numeralChars := by
  have listed : ∀ n ≤ '9'.toNat, '0'.toNat ≤ n → Char.ofNat n ∈ numeralChars := by decide
  obtain ⟨low, high⟩ := Char.isDigit_iff_toNat.mp digit
  rw [← Char.ofNat_toNat c]
  exact listed c.toNat high low

/-- A fact about all characters of numerals, tried on each of them. -/
theorem forall_numeralChars {p : Char → Bool} (tried : numeralChars.all p = true) :
    ∀ c ∈ numeralChars, p c = true :=
  List.all_eq_true.mp tried

theorem numeralChars_of_digits (all : ∀ c ∈ digits, c.isDigit = true) :
    ∀ c ∈ digits, c ∈ numeralChars :=
  fun c member => mem_numeralChars_of_isDigit (all c member)

theorem IsSignificand.chars {n places : Nat} (front : IsSignificand text n places) :
    ∀ c ∈ text, c ∈ numeralChars := by
  cases front with
  | whole numeral => exact numeralChars_of_digits numeral.all
  | pointed numeral =>
    have all := numeralChars_of_digits numeral.all
    intro c member
    rcases List.mem_append.mp member with before | behind
    · exact all c (List.mem_append_left _ before)
    · rcases List.mem_cons.mp behind with rfl | after
      · decide
      · exact all c (List.mem_append_right _ after)

theorem IsDecimal.chars {d : Decimal} (decimal : IsDecimal text d) :
    ∀ c ∈ text, c ∈ numeralChars := by
  cases decimal with
  | plain front => exact front.chars
  | powered negative front power small =>
    intro c member
    rcases List.mem_append.mp member with before | behind
    · exact front.chars c before
    · rcases List.mem_cons.mp behind with rfl | behind
      · decide
      · rcases List.mem_cons.mp behind with rfl | after
        · cases negative <;> decide
        · exact mem_numeralChars_of_isDigit (power.all c after)

theorem underscoresOkFrom_of_none {hex : Bool} {before : Before} (start : before ≠ .underscore)
    (plain : '_' ∉ text) : underscoresOkFrom hex before text = true := by
  induction text generalizing before with
  | nil => simpa [underscoresOkFrom] using start
  | cons c rest ih =>
    have other : c ≠ '_' := fun same => plain (same ▸ List.mem_cons_self)
    have later : '_' ∉ rest := fun member => plain (List.mem_cons_of_mem _ member)
    have afterDigit : underscoresOkFrom hex .digit rest = true := ih (by decide) later
    have afterOther : underscoresOkFrom hex .other rest = true := ih (by decide) later
    simp only [underscoresOkFrom, other, ↓reduceIte, afterDigit, afterOther, Bool.and_true,
      bne_iff_ne.mpr start, ite_self]

theorem underscoresOk_of_none (plain : '_' ∉ text) : underscoresOk text = true := by
  unfold underscoresOk
  split
  · have later := fun member => plain (List.mem_cons_of_mem _ (List.mem_cons_of_mem _ member))
    split
    · exact underscoresOkFrom_of_none (by decide) later
    · split
      · exact underscoresOkFrom_of_none (by decide) later
      · exact underscoresOkFrom_of_none (by decide) plain
  · exact underscoresOkFrom_of_none (by decide) plain

/-- The words for special values all have the same letter in them, which no numeral has. -/
theorem readSpecial_of_chars (all : ∀ c ∈ text, c ∈ numeralChars) : readSpecial text = none := by
  have lowered : 'n' ∉ text.map Char.toLower := by
    intro member
    obtain ⟨c, here, letter⟩ := List.mem_map.mp member
    have other := forall_numeralChars (p := fun c => c.toLower != 'n') (by decide) c (all c here)
    exact bne_iff_ne.mp other letter
  have other : ∀ word : String, 'n' ∈ word.toList →
      String.ofList (text.map Char.toLower) ≠ word := by
    rintro word marked rfl
    exact lowered (by simpa using marked)
  simp only [readSpecial, other "inf" (by decide), other "+inf" (by decide),
    other "infinity" (by decide), other "+infinity" (by decide), other "-inf" (by decide),
    other "-infinity" (by decide), other "nan" (by decide), or_self, ↓reduceIte]

theorem readNumeral_of_chars (all : ∀ c ∈ text, c ∈ numeralChars) (negative : Bool) :
    readNumeral negative text = readNumeral.readDecimal negative text := by
  have unmarked : '_' ∉ text := fun member => absurd (all _ member) (by decide)
  unfold readNumeral
  rw [underscoresOk_of_none unmarked]
  simp only [Bool.not_true, Bool.false_eq_true, ↓reduceIte]
  split
  · rename_i x c rest
    have decimal := forall_numeralChars (p := fun c => c.toLower != 'x') (by decide) x
      (all x (by simp))
    rw [if_neg (bne_iff_ne.mp decimal)]
  · rfl

end Characters

section Reading

variable {text digits rest : List Char} {n places k : Nat}

/-- A significand with more digits behind those it has. -/
def Significand.extend (s : Significand) (digits : List Char) : Significand :=
  { s with
    digits := Nat.ofDigitChars 10 digits s.digits
    count := s.count + digits.length
    afterPoint := s.afterPoint + if s.sawPoint then digits.length else 0 }

theorem readSignificand_digits (all : ∀ c ∈ digits, c.isDigit = true) (s : Significand)
    (rest : List Char) :
    readSignificand 10 s (digits ++ rest) = readSignificand 10 (s.extend digits) rest := by
  induction digits generalizing s with
  | nil => simp [Significand.extend]
  | cons c digits ih =>
    obtain ⟨digit, later⟩ := List.forall_mem_cons.mp all
    have separator : c ≠ '_' := by rintro rfl; exact absurd digit (by decide)
    have point : c ≠ '.' := by rintro rfl; exact absurd digit (by decide)
    rw [List.cons_append, readSignificand, if_neg separator, if_neg point, digit?_of_isDigit digit]
    simp only [ih later]
    congr 1
    cases seen : s.sawPoint <;>
      simp only [Significand.extend, seen, Nat.ofDigitChars_cons, Nat.mul_comm 10, List.length_cons,
        Bool.false_eq_true, ↓reduceIte, Significand.mk.injEq, true_and, and_true] <;>
      omega

/-- Nothing or a power of ten stands behind a significand. -/
theorem readSignificand_end (s : Significand) (ends : rest = [] ∨ ∃ tail, rest = 'e' :: tail) :
    readSignificand 10 s rest = (s, rest) := by
  rcases ends with rfl | ⟨tail, rfl⟩ <;> rfl

theorem readSignificand_of_isSignificand (front : IsSignificand text n places)
    (ends : rest = [] ∨ ∃ tail, rest = 'e' :: tail) :
    ∃ s, readSignificand 10 {} (text ++ rest) = (s, rest) ∧ s.digits = n ∧ s.afterPoint = places ∧
      s.count ≠ 0 := by
  cases front with
  | whole numeral =>
    refine ⟨_, (readSignificand_digits numeral.all _ _).trans (readSignificand_end _ ends), ?_⟩
    simpa [Significand.extend, numeral.value] using numeral.filled
  | @pointed front back n numeral =>
    obtain ⟨before, after⟩ := List.forall_mem_append.mp numeral.all
    have value := numeral.value
    rw [Nat.ofDigitChars_append] at value
    have count : front.length + back.length ≠ 0 := by
      rw [← List.length_append, Ne, List.length_eq_zero_iff]
      exact numeral.filled
    refine ⟨({ ({} : Significand).extend front with sawPoint := true }).extend back, ?_, ?_⟩
    · rw [List.append_assoc, readSignificand_digits before, List.cons_append, readSignificand,
        if_neg (by decide), if_pos rfl, if_neg (by simp [Significand.extend]),
        readSignificand_digits after, readSignificand_end _ ends]
    · simpa [Significand.extend, value] using count

theorem le_ofDigitChars (digits : List Char) (acc : Nat) :
    acc ≤ Nat.ofDigitChars 10 digits acc := by
  rw [Nat.ofDigitChars_eq_ofDigitChars_zero]
  have positive := Nat.one_le_pow digits.length 10 (by decide)
  nlinarith

/-- All digits of an exponent count as long as its size stays below the limit. -/
theorem readExponentDigits_of_small (all : ∀ c ∈ digits, c.isDigit = true) {acc : Nat}
    (small : Nat.ofDigitChars 10 digits acc < exponentLimit) :
    readExponentDigits acc digits = (Nat.ofDigitChars 10 digits acc, []) := by
  induction digits generalizing acc with
  | nil => rfl
  | cons c digits ih =>
    obtain ⟨digit, later⟩ := List.forall_mem_cons.mp all
    have separator : c ≠ '_' := by rintro rfl; exact absurd digit (by decide)
    rw [Nat.ofDigitChars_cons] at small ⊢
    -- Digits behind a fifth one would be dropped, but then the number would be past the limit.
    have least := le_ofDigitChars digits (10 * acc + (c.toNat - '0'.toNat))
    have room : acc < 10000 := by
      unfold exponentLimit at small
      omega
    simp only [readExponentDigits, separator, ↓reduceIte, digit?_of_isDigit digit, room,
      Nat.mul_comm acc]
    exact ih later small

theorem readExponent_of_isNumeral (negative : Bool) (power : IsNumeral digits k)
    (small : k < exponentLimit) :
    readExponent ((if negative then '-' else '+') :: digits) = some (signed negative k, []) := by
  have cut : splitSign ((if negative then '-' else '+') :: digits) = (negative, digits) := by
    cases negative <;> rfl
  have read := readExponentDigits_of_small power.all (by rwa [power.value])
  rw [power.value] at read
  unfold readExponent
  rw [cut]
  cases digits with
  | nil => exact absurd rfl power.filled
  | cons c rest => simp [digit?_of_isDigit (power.all c List.mem_cons_self), read]

theorem readDecimal_of_isDecimal {d : Decimal} (decimal : IsDecimal text d) (nonzero : d.digits ≠ 0)
    (low : -decimalRange ≤ d.exponent + digitCount d.digits)
    (high : d.exponent + digitCount d.digits ≤ decimalRange) (negative : Bool) :
    readNumeral.readDecimal negative text = .some (d.toBinary64 negative) := by
  have value : ∀ (s : Significand) (e : Int), s.digits = d.digits → e - s.afterPoint = d.exponent →
      ofDecimalText negative s e = d.toBinary64 negative := by
    intro s e digits exponent
    simp only [ofDecimalText, digits, exponent, nonzero, ↓reduceIte, Int.not_lt.mpr low,
      Int.not_lt.mpr high]
  have reads : ∀ (s : Significand) (rest : List Char) (e : Option Int),
      readSignificand 10 {} text = (s, rest) → s.count ≠ 0 →
      readMarkedExponent 'e' rest = .some (e, []) → s.digits = d.digits →
      e.getD 0 - s.afterPoint = d.exponent →
      readNumeral.readDecimal negative text = .some (d.toBinary64 negative) := by
    intro s rest e front count back digits exponent
    simp only [readNumeral.readDecimal, front, back, value s _ digits exponent]
  cases decimal with
  | plain front =>
    obtain ⟨s, read, digits, after, count⟩ :=
      readSignificand_of_isSignificand front (.inl rfl)
    rw [List.append_nil] at read
    exact reads s [] none read count rfl digits (by simp [after])
  | @powered text power n places k sign front numeral small =>
    obtain ⟨s, read, digits, after, count⟩ :=
      readSignificand_of_isSignificand front (.inr ⟨(if sign then '-' else '+') :: power, rfl⟩)
    refine reads s _ (.some (signed sign k)) read count ?_ digits (by simp [after])
    simp [readMarkedExponent, readExponent_of_isNumeral sign numeral small]

theorem splitSign_cons {c : Char} (plus : c ≠ '+') (minus : c ≠ '-') (rest : List Char) :
    splitSign (c :: rest) = (false, c :: rest) := by
  rcases splitSign_cases (c :: rest) with ⟨_, begins, -⟩ | ⟨_, begins, -⟩ | ⟨-, -, cut⟩
  · exact absurd (List.cons.inj begins).1 plus
  · exact absurd (List.cons.inj begins).1 minus
  · exact cut

theorem splitSign_of_isSignificand (front : IsSignificand text n places)
    (rest : List Char) : splitSign (text ++ rest) = (false, text ++ rest) := by
  have digit : ∀ c : Char, c.isDigit = true →
      ∀ tail, splitSign (c :: tail) = (false, c :: tail) := by
    intro c digit tail
    refine splitSign_cons ?_ ?_ tail <;> rintro rfl <;> exact absurd digit (by decide)
  cases front with
  | whole numeral =>
    cases text with
    | nil => exact absurd rfl numeral.filled
    | cons c digits => exact digit c (numeral.all c List.mem_cons_self) _
  | @pointed front back n numeral =>
    cases front with
    | nil => rfl
    | cons c front => exact digit c (numeral.all c List.mem_cons_self) _

theorem splitSign_of_isDecimal {d : Decimal} (decimal : IsDecimal text d) :
    splitSign text = (false, text) := by
  cases decimal with
  | plain front =>
    have cut := splitSign_of_isSignificand front []
    rwa [List.append_nil] at cut
  | powered negative front power small => exact splitSign_of_isSignificand front _

/-- A numeral for a finite number is read as that number, with its sign. -/
theorem readFloat_of_isDecimal {d : Decimal} (decimal : IsDecimal text d) {negative : Bool}
    (finite : (d.toBinary64 negative).isFinite = true)
    (other : (d.toBinary64 negative).isZero = false) :
    readFloat ((if negative then ['-'] else []) ++ text) = some (d.toBinary64 negative) := by
  have point := Decimal.natAbs_point_le finite other
  have read := readDecimal_of_isDecimal decimal (Decimal.digits_ne_zero finite other)
    (by unfold decimalRange; omega) (by unfold decimalRange; omega) negative
  have special : readSpecial ((if negative then ['-'] else []) ++ text) = none := by
    apply readSpecial_of_chars
    rw [List.forall_mem_append]
    refine ⟨?_, decimal.chars⟩
    cases negative <;> simp [numeralChars]
  have cut : splitSign ((if negative then ['-'] else []) ++ text) = (negative, text) := by
    cases negative with
    | false => exact splitSign_of_isDecimal decimal
    | true => rfl
  simp only [readFloat, special, cut, readNumeral_of_chars decimal.chars, read, Option.bind_some,
    finite, ↓reduceIte]

end Reading

end KernelSweep.Number
