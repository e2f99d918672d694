import KernelSweep.Proofs.Number.FloatRoundTrip
import KernelSweep.Proofs.Occupancy.Grammar
import KernelSweep.Proofs.Text.Ascii

set_option autoImplicit false

namespace KernelSweep.Occupancy

open Number Text

/-- One byte long and visible. -/
def isSolid (c : Char) : Bool := decide (c.toNat < 128) && !isBlank c

section Solid

variable {cs : List Char}

theorem isSolid_iff {c : Char} : isSolid c = true ↔ c.toNat < 128 ∧ isBlank c = false := by
  simp [isSolid]

theorem ascii_of_solid (solid : ∀ c ∈ cs, isSolid c = true) : ∀ c ∈ cs, c.toNat < 128 :=
  fun c member => (isSolid_iff.mp (solid c member)).1

/-- A blank is not among the bytes of visible characters. -/
theorem blank_not_mem (solid : ∀ c ∈ cs, isSolid c = true) {d : Char} (small : d.toNat < 128)
    (blank : isBlank d = true) : d.toUInt8 ∉ cs.map Char.toUInt8 := by
  intro member
  have here := mem_of_toUInt8_mem (ascii_of_solid solid) small member
  have visible := (isSolid_iff.mp (solid d here)).2
  rw [blank] at visible
  exact absurd visible (by decide)

theorem isSolid_of_numeral (all : ∀ c ∈ cs, c ∈ numeralChars) : ∀ c ∈ cs, isSolid c = true :=
  fun c member => forall_numeralChars (by decide) c (all c member)

theorem solid_decimal (w : Int64) : ∀ c ∈ (decimal w).toList, isSolid c = true := by
  have digits := numeralChars_of_digits (isNumeral_toDigits w.toInt.natAbs).all
  apply isSolid_of_numeral
  rw [toList_decimal]
  split
  · exact List.forall_mem_cons.mpr ⟨by decide, digits⟩
  · exact digits

theorem length_decimal_lt (w : Int64) : (decimal w).toList.length < 30 := by
  have low := w.le_toInt
  have high := w.toInt_lt
  have few : digitCount w.toInt.natAbs ≤ 20 := by
    rw [digitCount_le_iff (by decide)]
    omega
  unfold digitCount at few
  rw [toList_decimal]
  split
  · rw [List.length_cons]
    omega
  · omega

theorem solid_text (x : Binary64) : ∀ c ∈ x.text.toList, isSolid c = true := by
  intro c member
  rcases chars_text x c member with numeral | letter
  · exact forall_numeralChars (by decide) c numeral
  · have tried : specialChars.all isSolid = true := by decide
    exact List.all_eq_true.mp tried c letter

end Solid

section Line

variable {label value : List Char} (labels : ∀ c ∈ label, isSolid c = true)
  (values : ∀ c ∈ value, isSolid c = true)

/-- A written line: a label, a space and a value. -/
def lineOf (label value : List Char) : List UInt8 := (label ++ ' ' :: value).map Char.toUInt8

include labels values

/-- The only blank in a line is its space. -/
theorem not_mem_lineOf {d : Char} (small : d.toNat < 128) (blank : isBlank d = true)
    (other : d.toUInt8 ≠ space) : d.toUInt8 ∉ lineOf label value := by
  rw [lineOf, List.map_append, List.map_cons]
  intro member
  rcases List.mem_append.mp member with before | behind
  · exact blank_not_mem labels small blank before
  · rcases List.mem_cons.mp behind with between | after
    · exact other between
    · exact blank_not_mem values small blank after

theorem hasValue_lineOf (short : label.length + 1 + value.length < lineLimit) :
    HasValue (lineOf label value) (value.map .char) where
  short := by
    rw [lineOf, List.length_map, List.length_append, List.length_cons]
    omega
  behind := by
    refine ⟨label.map Char.toUInt8, value.map Char.toUInt8, ?_, ?_, ?_⟩
    · have unended : carriageReturn ∉ lineOf label value :=
        not_mem_lineOf labels values (d := '\r') (by decide) (by decide) (by decide)
      have kept : dropReturn (lineOf label value) = lineOf label value := by
        unfold dropReturn
        rw [if_neg fun last => unended (List.mem_of_getLast? last)]
      rw [kept, lineOf, List.map_append, List.map_cons]
      rfl
    · exact blank_not_mem labels (d := ' ') (by decide) (by decide)
    · rw [decode_map_toUInt8 (ascii_of_solid values)]
      apply trims_self
      intro piece member
      obtain ⟨c, here, rfl⟩ := List.mem_map.mp member
      exact (isSolid_iff.mp (values c here)).2

end Line

section Report

variable (r : Record)

/-- The three lines of a written report. -/
theorem encode_text :
    encode r.text =
      lineOf "smem".toList (decimal r.sharedMemory).toList ++ lineFeed ::
        (lineOf "blocksize".toList (decimal r.threads).toList ++ lineFeed ::
          (lineOf "occupancy".toList r.occupancy.text.toList ++ lineFeed :: [])) := by
  have ascii : ∀ c ∈ r.text.toList, c.toNat < 128 := by
    have labels : ∀ label ∈ ["smem ", "\nblocksize ", "\noccupancy ", "\n"], ∀ c ∈ label.toList,
        c.toNat < 128 := by simp
    have first := ascii_of_solid (solid_decimal r.sharedMemory)
    have second := ascii_of_solid (solid_decimal r.threads)
    have third := ascii_of_solid (solid_text r.occupancy)
    simp only [Record.text, String.toList_append, List.forall_mem_append]
    exact ⟨⟨⟨⟨⟨⟨labels _ (by simp), first⟩, labels _ (by simp)⟩, second⟩, labels _ (by simp)⟩,
      third⟩, labels _ (by simp)⟩
  rw [encode_of_ascii ascii]
  have feed : Char.toUInt8 '\n' = lineFeed := rfl
  simp [Record.text, lineOf, feed]

/-- A written line is one line of a report, and has the value that was written. -/
theorem lineOf_moderate (label : List Char) (tried : label.all isSolid = true)
    (few : label.length < 30) {value : List Char} (values : ∀ c ∈ value, isSolid c = true)
    (moderate : value.length < 3000) :
    lineFeed ∉ lineOf label value ∧ HasValue (lineOf label value) (value.map .char) := by
  have labels := List.all_eq_true.mp tried
  constructor
  · exact not_mem_lineOf labels values (d := '\n') (by decide) (by decide) (by decide)
  · apply hasValue_lineOf labels values
    unfold lineLimit
    omega

/-- What is read from the report of a record is what its three values make. -/
theorem parse_of_makes {answer : Except RecordError Record}
    (makes : Makes ((decimal r.sharedMemory).toList.map .char)
      ((decimal r.threads).toList.map .char) (r.occupancy.text.toList.map .char) answer) :
    Record.parse (encode r.text) = answer := by
  have smem := length_decimal_lt r.sharedMemory
  have threads := length_decimal_lt r.threads
  obtain ⟨one, first⟩ := lineOf_moderate "smem".toList (by decide) (by decide)
    (solid_decimal r.sharedMemory) (by omega)
  obtain ⟨two, second⟩ := lineOf_moderate "blocksize".toList (by decide) (by decide)
    (solid_decimal r.threads) (by omega)
  obtain ⟨three, third⟩ := lineOf_moderate "occupancy".toList (by decide) (by decide)
    (solid_text r.occupancy) (length_text_lt r.occupancy)
  rw [encode_text]
  exact parse_of_means (.ended one (.ended two (.ended three .empty)))
    (.values rfl first second third makes)

end Report

/-- A record that a report may hold is read back as it is, a negative zero included. Any other one
is malformed. -/
theorem parse_written_report (r : Record) :
    (0 < r.threads ∧ r.occupancy.isFinite = true ∧ r.occupancy.isBelowZero = false →
        Record.parse (encode r.text) = .ok r) ∧
      (¬ (0 < r.threads ∧ r.occupancy.isFinite = true ∧ r.occupancy.isBelowZero = false) →
        ∃ e, Record.parse (encode r.text) = .error e ∧ e.isMalformed = true) := by
  have first : IsIntegerValue ((decimal r.sharedMemory).toList.map .char) r.sharedMemory :=
    ⟨_, rfl, isInteger_decimal r.sharedMemory⟩
  have second : IsIntegerValue ((decimal r.threads).toList.map .char) r.threads :=
    ⟨_, rfl, isInteger_decimal r.threads⟩
  have third : IsFloatValue (r.occupancy.text.toList.map .char)
      (if r.occupancy.isNaN then Binary64.nan else r.occupancy) :=
    ⟨_, rfl, readFloat_text r.occupancy⟩
  constructor
  · rintro ⟨positive, finite, nonneg⟩
    obtain ⟨number, bounded⟩ := isFinite_iff.mp finite
    rw [if_neg (Bool.eq_false_iff.mp number)] at third
    exact parse_of_makes r (.record first second positive third ⟨number, bounded, nonneg⟩)
  · intro refused
    by_cases positive : 0 < r.threads
    · by_cases number : r.occupancy.isNaN = true
      · -- Every NaN has the same text, so another one than was written may be read.
        rw [if_pos number] at third
        refine ⟨_, parse_of_makes r (.outOfRange first second positive third ?_), rfl⟩
        intro within
        exact absurd within.1 (by decide)
      · rw [if_neg number] at third
        rw [Bool.not_eq_true] at number
        refine ⟨_, parse_of_makes r (.outOfRange first second positive third ?_), rfl⟩
        rintro ⟨-, bounded, nonneg⟩
        exact refused ⟨positive, isFinite_iff.mpr ⟨number, bounded⟩, nonneg⟩
    · exact ⟨_, parse_of_makes r (.notPositive first second (Int64.not_lt.mp positive)), rfl⟩

def negativeZero : Binary64 := ⟨0x8000000000000000⟩

theorem negativeZero_read_back :
    (0 < (512 : Int64) ∧ negativeZero.isFinite = true ∧ negativeZero.isBelowZero = false) ∧
      Record.parse (encode (Record.text ⟨24576, 512, negativeZero⟩)) =
        .ok ⟨24576, 512, negativeZero⟩ ∧
      ¬ 0 < (0 : Int64) ∧
      ∃ e, Record.parse (encode (Record.text ⟨24576, 0, negativeZero⟩)) = .error e ∧
        e.isMalformed = true := by
  have kept : 0 < (512 : Int64) ∧ negativeZero.isFinite = true ∧
      negativeZero.isBelowZero = false := by decide
  have unwritten : ¬ 0 < (0 : Int64) := by decide
  exact ⟨kept, (parse_written_report ⟨24576, 512, negativeZero⟩).1 kept, unwritten,
    (parse_written_report ⟨24576, 0, negativeZero⟩).2 fun positive => unwritten positive.1⟩

end KernelSweep.Occupancy
