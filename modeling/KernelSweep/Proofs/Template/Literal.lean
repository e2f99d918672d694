import KernelSweep.Proofs.Number.IntegerText
import KernelSweep.Proofs.Text.Cuts
import KernelSweep.Template.Constant
import KernelSweep.Template.Token
import Mathlib.Data.List.TakeWhile

set_option autoImplicit false

namespace KernelSweep.Template

open Number

section Spelling

variable {base acc n : Nat} {c : Char} {cs : List Char}

theorem isSome_of_readDigits (read : readDigits base acc cs = some n) :
    ∀ c ∈ cs, (digit? base c).isSome = true := by
  induction cs generalizing acc with
  | nil => simp
  | cons c rest ih =>
    rw [readDigits] at read
    cases found : digit? base c with
    | none => rw [found] at read; cases read
    | some d =>
      rw [found] at read
      exact List.forall_mem_cons.mpr ⟨by rw [found]; rfl, ih read⟩

theorem isDigit_of_digit? (small : base ≤ 10) (found : (digit? base c).isSome = true) :
    c.isDigit = true := by
  by_contra other
  have outside : ¬ ('0' ≤ c ∧ c ≤ '9') := fun inside =>
    other (Char.isDigit_iff_toNat.mpr inside)
  simp only [digit?, outside, ↓reduceIte] at found
  split_ifs at found with large <;> first | omega | cases found

theorem marks_of_mem (known : c ∈ "xXoObB".toList) :
    c = 'x' ∨ c = 'X' ∨ c = 'o' ∨ c = 'O' ∨ c = 'b' ∨ c = 'B' := by
  simpa using known

theorem signs_of_mem (known : cs ∈ [[], ['+'], ['-']]) : cs = [] ∨ cs = ['+'] ∨ cs = ['-'] := by
  simpa using known

/-- Literals without a sign: digits behind the mark of their base, or a digit and decimal characters
behind it. -/
inductive IsUnsigned : List Char → Prop
  | marked {mark : Char} {digits : List Char} (known : mark ∈ "xXoObB".toList)
    (filled : digits ≠ []) (all : ∀ c ∈ digits, Scan.digitsOf [mark] c = true) :
    IsUnsigned ('0' :: mark :: digits)
  | decimal {first : Char} {digits : List Char} (digit : first.isDigit = true)
    (all : ∀ c ∈ digits, Scan.isDecimal c = true) : IsUnsigned (first :: digits)

theorem IsUnsigned.head (unsigned : IsUnsigned cs) :
    ∃ first digits, cs = first :: digits ∧ first.isDigit = true := by
  cases unsigned with
  | marked => exact ⟨_, _, rfl, rfl⟩
  | decimal digit => exact ⟨_, _, rfl, digit⟩

/-- Literals with a sign or without one. -/
def IsLiteral (cs : List Char) : Prop :=
  ∃ sign unsigned, cs = sign ++ unsigned ∧ sign ∈ [[], ['+'], ['-']] ∧ IsUnsigned unsigned

/-- What is read without the underscores consists of digits and underscores. -/
theorem digits_of_read (read : readDigits base 0 (cs.filter (· != '_')) = some n) :
    ∀ c ∈ cs, (digit? base c).isSome = true ∨ c = '_' := by
  intro c member
  by_cases apart : c = '_'
  · exact .inr apart
  · exact .inl (isSome_of_readDigits read c (List.mem_filter.mpr ⟨member, by simpa using apart⟩))

theorem isDecimal_of_read (small : base ≤ 10)
    (read : readDigits base 0 (cs.filter (· != '_')) = some n) :
    ∀ c ∈ cs, Scan.isDecimal c = true := by
  intro c member
  rw [Scan.isDecimal, Bool.or_eq_true]
  exact (digits_of_read read c member).imp (isDigit_of_digit? small) (by simp [·])

theorem isUnsigned_of_read (filled : cs ≠ []) (tidy : underscoresOk cs = true)
    (read : readDigits (literalBase cs).1 0 ((literalBase cs).2.filter (· != '_')) =
      .some n) : IsUnsigned cs := by
  have based {base : Nat} {mark c : Char} {rest : List Char} (known : mark ∈ "xXoObB".toList)
      (digits : ∀ c, Scan.digitsOf [mark] c = ((digit? base c).isSome || c == '_'))
      (read : readDigits base 0 ((c :: rest).filter (· != '_')) = .some n) :
      IsUnsigned ('0' :: mark :: c :: rest) := by
    refine .marked known (List.cons_ne_nil _ _) fun d member => ?_
    rw [digits, Bool.or_eq_true, beq_iff_eq]
    exact digits_of_read read d member
  unfold literalBase at read
  split at read
  · split at read
    · exact based (by decide) (fun _ => rfl) read
    · exact based (by decide) (fun _ => rfl) read
    · exact based (by decide) (fun _ => rfl) read
    · exact based (by decide) (fun _ => rfl) read
    · exact based (by decide) (fun _ => rfl) read
    · exact based (by decide) (fun _ => rfl) read
    · exact .decimal rfl (isDecimal_of_read (by simp) read)
  · exact .decimal rfl (isDecimal_of_read (by simp) read)
  · rename_i unmarked plain
    cases cs with
    | nil => exact absurd rfl filled
    | cons first digits =>
      have all := isDecimal_of_read (by simp) read
      obtain ⟨here, later⟩ := List.forall_mem_cons.mp all
      refine .decimal ?_ later
      rw [Scan.isDecimal, Bool.or_eq_true, beq_iff_eq] at here
      -- No underscore may come first.
      rcases here with digit | rfl
      · exact digit
      · simp [underscoresOk, underscoresOkFrom, digit?] at tidy

theorem isLiteral_of_readLiteral {n : Int} (read : readLiteral cs = some n) : IsLiteral cs := by
  have unsigned {negative : Bool} {rest : List Char} (cut : splitSign cs = (negative, rest)) :
      IsUnsigned rest := by
    simp only [readLiteral, cut] at read
    split_ifs at read with bad
    rw [Bool.or_eq_true, not_or, List.isEmpty_iff, Bool.not_eq_true', Bool.not_eq_false] at bad
    obtain ⟨m, read, -⟩ := Option.map_eq_some_iff.mp read
    exact isUnsigned_of_read bad.1 bad.2 read
  rcases splitSign_cases cs with ⟨rest, rfl, cut⟩ | ⟨rest, rfl, cut⟩ | ⟨-, -, cut⟩
  · exact ⟨['+'], rest, rfl, by simp, unsigned cut⟩
  · exact ⟨['-'], rest, rfl, by simp, unsigned cut⟩
  · exact ⟨[], cs, rfl, by simp, unsigned cut⟩

end Spelling

namespace Scan

/-- What may stand behind a term: a blank or a closing brace. -/
def Ends (rest : List Char) : Prop :=
  ∀ c, rest.head? = some c → c ∈ [' ', '\t', '\r', '\n', '}']

variable {p : Char → Bool} {rest : List Char}

theorem Ends.not (ends : Ends rest) (other : [' ', '\t', '\r', '\n', '}'].all (!p ·) = true) :
    ∀ c, rest.head? = some c → p c = false := by
  intro c first
  simpa using List.all_eq_true.mp other c (ends c first)

theorem accept_of_not (ends : ∀ c, rest.head? = some c → p c = false) :
    accept p rest = ([], rest) := by
  cases rest with
  | nil => rfl
  | cons c rest => simp only [accept, ends c rfl, Bool.false_eq_true, ↓reduceIte]

theorem takeWhile_append {digits : List Char} (all : ∀ c ∈ digits, p c = true)
    (ends : ∀ c, rest.head? = some c → p c = false) : (digits ++ rest).takeWhile p = digits := by
  rw [List.takeWhile_append_of_pos all]
  cases rest with
  | nil => simp
  | cons c rest => simp [ends c rfl]

theorem dropWhile_append {digits : List Char} (all : ∀ c ∈ digits, p c = true)
    (ends : ∀ c, rest.head? = some c → p c = false) : (digits ++ rest).dropWhile p = rest := by
  rw [List.dropWhile_append_of_pos all]
  exact Text.dropWhile_of_head ends

/-- Digits of any base are none of the characters that may stand behind a literal. -/
theorem digitsOf_of_ends {mark : Char} (known : mark ∈ "xXoObB".toList) (ends : Ends rest) :
    ∀ c, rest.head? = some c → digitsOf [mark] c = false := by
  rcases marks_of_mem known with rfl | rfl | rfl | rfl | rfl | rfl
  all_goals exact ends.not (by decide)

theorem isDecimal_of_isDigit {c : Char} (digit : c.isDigit = true) : isDecimal c = true := by
  rw [isDecimal, digit, Bool.true_or]

theorem accept_mark_of_decimal {digits : List Char} (all : ∀ c ∈ digits, isDecimal c = true)
    (ends : Ends rest) :
    accept "xXoObB".toList.contains (digits ++ rest) = ([], digits ++ rest) := by
  apply accept_of_not
  cases digits with
  | nil => exact ends.not (by decide)
  | cons c digits =>
    rintro d first
    obtain rfl : c = d := by simpa using first
    have decimal := all c List.mem_cons_self
    by_contra other
    rw [Bool.not_eq_false] at other
    rcases marks_of_mem (List.contains_iff_mem.mp other) with rfl | rfl | rfl | rfl | rfl | rfl
    all_goals cases decimal

theorem accept_sign {sign unsigned : List Char} (known : sign ∈ [[], ['+'], ['-']])
    (shape : IsUnsigned unsigned) :
    accept (fun c => c == '+' || c == '-') (sign ++ (unsigned ++ rest)) =
      (sign, unsigned ++ rest) := by
  obtain ⟨first, digits, rfl, digit⟩ := shape.head
  rcases signs_of_mem known with rfl | rfl | rfl
  · apply accept_of_not
    rintro c head
    obtain rfl : first = c := by simpa using head
    by_contra other
    have signed : first = '+' ∨ first = '-' := by
      simpa only [Bool.not_eq_false, Bool.or_eq_true, beq_iff_eq] using other
    rcases signed with rfl | rfl <;> cases digit
  · rfl
  · rfl

theorem cutNumber_append {cs : List Char} (literal : IsLiteral cs) (ends : Ends rest) :
    cutNumber (cs ++ rest) = (cs, rest) := by
  obtain ⟨sign, unsigned, rfl, known, shape⟩ := literal
  have noPoint := accept_of_not (ends.not (p := (· == '.')) (by decide))
  have noPower : ∀ powers, powers ∈ [[], ['e', 'E'], ['p', 'P']] →
      accept powers.contains rest = ([], rest) := by
    intro powers known
    have cases : powers = [] ∨ powers = ['e', 'E'] ∨ powers = ['p', 'P'] := by simpa using known
    rcases cases with rfl | rfl | rfl
    all_goals exact accept_of_not (ends.not (by decide))
  have noUnit := accept_of_not (ends.not (p := (· == 'i')) (by decide))
  unfold cutNumber
  rw [List.append_assoc, accept_sign known shape]
  cases shape with
  | @marked mark digits known filled all =>
    have zero : accept (· == '0') ('0' :: mark :: (digits ++ rest)) =
      (['0'], mark :: (digits ++ rest)) := rfl
    have marked : accept "xXoObB".toList.contains (mark :: (digits ++ rest)) =
        ([mark], digits ++ rest) := by
      simp only [accept, List.contains_iff_mem.mpr known, ↓reduceIte]
    have solid := digitsOf_of_ends known ends
    have noPower' := noPower (if [mark] = ['x'] ∨ [mark] = ['X'] then ['p', 'P'] else [])
      (by split_ifs <;> simp)
    simp only [List.cons_append, zero, marked, List.isEmpty_cons, Bool.false_eq_true, ↓reduceIte,
      takeWhile_append all solid, dropWhile_append all solid, noPoint, List.isEmpty_nil, noPower',
      noUnit, List.append_nil, List.append_assoc, List.nil_append]
  | @decimal first digits digit all =>
    have solid := ends.not (p := isDecimal) (by decide)
    have noPower' := noPower ['e', 'E'] (by simp)
    by_cases zero : first = '0'
    · subst zero
      have zero : accept (· == '0') ('0' :: (digits ++ rest)) = (['0'], digits ++ rest) := rfl
      simp only [List.cons_append, zero, accept_mark_of_decimal all ends, digitsOf,
        List.isEmpty_cons, Bool.false_eq_true, ↓reduceIte, takeWhile_append all solid,
        dropWhile_append all solid, noPoint, List.isEmpty_nil, noPower', noUnit, List.append_nil,
        List.append_assoc, List.nil_append]
    · have all' : ∀ c ∈ first :: digits, isDecimal c = true :=
        List.forall_mem_cons.mpr ⟨isDecimal_of_isDigit digit, all⟩
      have other : accept (· == '0') (first :: digits ++ rest) = ([], first :: digits ++ rest) := by
        simp [accept, zero]
      simp only [other, digitsOf, List.isEmpty_nil, ↓reduceIte, takeWhile_append all' solid,
        dropWhile_append all' solid, noPoint, noPower', noUnit, List.append_nil]

/-- A literal is a whole number to the scan: what stands behind it is no part of a word. -/
theorem takeNumber_append {cs : List Char} (literal : IsLiteral cs) (ends : Ends rest) :
    takeNumber (cs ++ rest) = .ok (cs, rest) := by
  rw [takeNumber, cutNumber_append literal ends]
  cases rest with
  | nil => rfl
  | cons c rest =>
    have apart : isWord c = false := ends.not (by decide +kernel) c rfl
    simp only [apart, Bool.false_eq_true, ↓reduceIte]

end Scan

namespace Constant

variable {sign unsigned cs : List Char}

/-- The value of an integer constant that a word holds. Behind a sign, the digit `e` of a
hexadecimal one passes for the mark of a power, and the value is a number with one. -/
def integer (cs : List Char) (n : Int) : Value :=
  if hasFloatMark cs && !isHexInteger cs then .float (Binary64.ofInt n) else .int (Int64.ofInt n)

/-- Hexadecimal literals without a sign. -/
def IsHexadecimal (unsigned : List Char) : Prop :=
  ∃ mark digits, unsigned = '0' :: mark :: digits ∧ mark ∈ ['x', 'X'] ∧ digits ≠ [] ∧
    ∀ c ∈ digits, ((digit? 16 c).isSome || c == '_') = true

theorem isHexadecimal_of_hasFloatMark (known : sign ∈ [[], ['+'], ['-']])
    (shape : IsUnsigned unsigned) (marked : hasFloatMark (sign ++ unsigned) = true) :
    IsHexadecimal unsigned := by
  obtain ⟨c, member, power⟩ := List.any_eq_true.mp marked
  have powers : c = '.' ∨ c = 'e' ∨ c = 'E' ∨ c = 'p' ∨ c = 'P' := by
    simpa using List.contains_iff_mem.mp power
  have unsignedMember : c ∈ unsigned := by
    rcases signs_of_mem known with rfl | rfl | rfl
    · exact member
    · exact (List.mem_cons.mp member).resolve_left (by rintro rfl; simp at powers)
    · exact (List.mem_cons.mp member).resolve_left (by rintro rfl; simp at powers)
  cases shape with
  | @marked mark digits known filled all =>
    have marks := marks_of_mem known
    have later : c ∈ digits := by
      rcases List.mem_cons.mp unsignedMember with rfl | rest
      · simp at powers
      · rcases List.mem_cons.mp rest with rfl | later
        · rcases powers with rfl | rfl | rfl | rfl | rfl <;> simp at marks
        · exact later
    have digit := all c later
    rcases marks with rfl | rfl | rfl | rfl | rfl | rfl
    · exact ⟨_, _, rfl, by simp, filled, all⟩
    · exact ⟨_, _, rfl, by simp, filled, all⟩
    all_goals rcases powers with rfl | rfl | rfl | rfl | rfl <;> cases digit
  | @decimal first digits digit all =>
    have decimal : Scan.isDecimal c = true := by
      rcases List.mem_cons.mp unsignedMember with rfl | later
      · exact Scan.isDecimal_of_isDigit digit
      · exact all c later
    rcases powers with rfl | rfl | rfl | rfl | rfl <;> cases decimal

theorem isHexInteger_of_isHexadecimal (hexadecimal : IsHexadecimal unsigned) :
    isHexInteger unsigned = true := by
  obtain ⟨mark, digits, rfl, known, filled, all⟩ := hexadecimal
  cases digits with
  | nil => exact absurd rfl filled
  | cons c rest =>
    have plain : (c :: rest).any "pP".toList.contains = false := by
      rw [List.any_eq_false]
      intro d member power
      have powers : d = 'p' ∨ d = 'P' := by simpa using List.contains_iff_mem.mp power
      rcases powers with rfl | rfl <;> cases all _ member
    have marks : mark = 'x' ∨ mark = 'X' := by simpa using known
    rcases marks with rfl | rfl <;> simp only [isHexInteger, plain] <;> rfl

theorem readSpecial_of_zero (zero : '0' ∈ cs) : readSpecial cs = none := by
  have lowered : '0' ∈ cs.map Char.toLower := List.mem_map.mpr ⟨'0', zero, rfl⟩
  have other : ∀ word : String, '0' ∉ word.toList →
      String.ofList (cs.map Char.toLower) ≠ word := by
    rintro word unmarked rfl
    exact unmarked (by simpa using lowered)
  simp only [readSpecial, other "inf" (by decide), other "+inf" (by decide),
    other "infinity" (by decide), other "+infinity" (by decide), other "-inf" (by decide),
    other "-infinity" (by decide), other "nan" (by decide), or_self, ↓reduceIte]

theorem readSignificand_hex {digits : List Char} (s : Significand)
    (all : ∀ c ∈ digits, ((digit? 16 c).isSome || c == '_') = true) :
    (readSignificand 16 s digits).2 = [] := by
  induction digits generalizing s with
  | nil => rfl
  | cons c rest ih =>
    obtain ⟨here, later⟩ := List.forall_mem_cons.mp all
    rw [readSignificand]
    by_cases underscore : c = '_'
    · rw [if_pos underscore]
      exact ih _ later
    · have point : c ≠ '.' := by
        rintro rfl
        cases here
      rw [if_neg underscore, if_neg point]
      cases found : digit? 16 c with
      | some d => exact ih _ later
      | none =>
        rw [found, Option.isSome_none, Bool.false_or, beq_iff_eq] at here
        exact absurd here underscore

/-- A hexadecimal number with a fraction needs the mark of a power. -/
theorem readFloat_of_isHexadecimal (known : sign ∈ [[], ['+'], ['-']])
    (hexadecimal : IsHexadecimal unsigned) : readFloat (sign ++ unsigned) = none := by
  obtain ⟨mark, digits, rfl, marked, filled, all⟩ := hexadecimal
  have numeral (negative : Bool) : readNumeral negative ('0' :: mark :: digits) = none := by
    cases digits with
    | nil => exact absurd rfl filled
    | cons c rest =>
      have hex : mark.toLower = 'x' := by
        have marks : mark = 'x' ∨ mark = 'X' := by simpa using marked
        rcases marks with rfl | rfl <;> rfl
      have ended := readSignificand_hex {} all
      unfold readNumeral
      split_ifs with tidy
      · rfl
      · simp only [hex, ↓reduceIte]
        cases read : readSignificand 16 {} (c :: rest) with
        | mk s tail =>
          rw [read] at ended
          simp only at ended
          subst ended
          cases s.count <;> rfl
  have zero : '0' ∈ sign ++ '0' :: mark :: digits := by simp
  rw [readFloat, readSpecial_of_zero zero]
  rcases signs_of_mem known with rfl | rfl | rfl
  · exact congrArg (Option.bind · _) (numeral false)
  · exact congrArg (Option.bind · _) (numeral false)
  · exact congrArg (Option.bind · _) (numeral true)

theorem getLast?_ne_unit (known : sign ∈ [[], ['+'], ['-']]) (shape : IsUnsigned unsigned) :
    ((sign ++ unsigned).getLast? == some 'i') = false := by
  rw [beq_eq_false_iff_ne]
  intro last
  have member : 'i' ∈ unsigned := by
    have member := List.mem_of_getLast? last
    rcases signs_of_mem known with rfl | rfl | rfl <;> simpa using member
  cases shape with
  | @marked mark digits known filled all =>
    have marks := marks_of_mem known
    have digit : Scan.digitsOf [mark] 'i' = true := by
      refine all _ ?_
      rcases marks with rfl | rfl | rfl | rfl | rfl | rfl <;> simpa using member
    rcases marks with rfl | rfl | rfl | rfl | rfl | rfl <;> cases digit
  | @decimal first digits digit all =>
    rcases List.mem_cons.mp member with rfl | later
    · cases digit
    · cases all _ later

theorem number_of_isWord {n : Int} (read : readLiteral cs = some n) (fits : IsWord n) :
    number (String.ofList cs) = .ok (some (integer cs n)) := by
  obtain ⟨sign, unsigned, rfl, known, shape⟩ := isLiteral_of_readLiteral read
  have here : isWord (sign ++ unsigned) n = true := by
    rw [isWord_iff] at fits
    simp [isWord, wordLimit, fits]
  have value : toInt64? n = some (Int64.ofInt n) := if_pos fits
  simp only [number, String.toList_ofList, getLast?_ne_unit known shape, Bool.false_eq_true,
    ↓reduceIte, read, Option.filter_some, here, integerValue, value, Option.map_some, integer]
  split_ifs <;> rfl

/-- A constant that no word holds is refused or left without a value. -/
theorem number_of_not_isWord {n : Int} (read : readLiteral cs = some n) (large : ¬ IsWord n) :
    number (String.ofList cs) = .ok none ∨ ∃ e, number (String.ofList cs) = .error e := by
  obtain ⟨sign, unsigned, rfl, known, shape⟩ := isLiteral_of_readLiteral read
  simp only [number, String.toList_ofList, getLast?_ne_unit known shape, Bool.false_eq_true,
    ↓reduceIte, read, Option.filter_some]
  by_cases here : isWord (sign ++ unsigned) n = true
  · -- Only a constant without a sign may go beyond the words.
    left
    have unsigned' : sign = [] := by
      rw [isWord_iff] at large
      obtain ⟨low, high⟩ := Bool.and_eq_true_iff.mp here
      rw [decide_eq_true_eq, wordLimit] at low
      rcases signs_of_mem known with rfl | rfl | rfl
      · rfl
      · have high : n < wordLimit := by simpa using high
        rw [wordLimit] at high
        omega
      · have high : n < wordLimit := by simpa using high
        rw [wordLimit] at high
        omega
    subst unsigned'
    have plain : (hasFloatMark unsigned && !isHexInteger unsigned) = false := by
      cases marked : hasFloatMark unsigned with
      | false => rfl
      | true =>
        rw [isHexInteger_of_isHexadecimal (isHexadecimal_of_hasFloatMark known shape marked)]
        rfl
    have tooLarge : toInt64? n = none := if_neg large
    rw [List.nil_append] at here ⊢
    simp only [here, ↓reduceIte, integerValue, plain, Bool.false_eq_true, tooLarge,
      Option.map_none]
  · right
    simp only [here, Bool.false_eq_true, ↓reduceIte]
    by_cases marked : hasFloatMark (sign ++ unsigned) = true
    · rw [readFloat_of_isHexadecimal known (isHexadecimal_of_hasFloatMark known shape marked)]
      exact ⟨_, rfl⟩
    · simp only [marked, Bool.false_eq_true, ↓reduceIte]
      cases readFloat (sign ++ unsigned) <;> exact ⟨_, rfl⟩

end Constant

end KernelSweep.Template
