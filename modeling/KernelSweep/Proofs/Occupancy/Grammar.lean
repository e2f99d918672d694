import KernelSweep.Occupancy.Record
import KernelSweep.Proofs.Number.IntegerText
import KernelSweep.Proofs.Text.Cuts

set_option autoImplicit false

namespace KernelSweep.Occupancy

open Number Text

/-- The lines of an input. A line feed ends a line, and what follows the last one is a line of its
own unless it is empty. -/
inductive HasLines : List UInt8 → List (List UInt8) → Prop
  | empty : HasLines [] []
  | unended {line : List UInt8} (filled : line ≠ []) (whole : lineFeed ∉ line) :
    HasLines line [line]
  | ended {line rest : List UInt8} {lines : List (List UInt8)} (whole : lineFeed ∉ line)
    (later : HasLines rest lines) : HasLines (line ++ lineFeed :: rest) (line :: lines)

def isBlankPiece : Piece → Bool
  | .char c => isBlank c
  | .stray _ => false

/-- A line with a value: it is not too long, and the value is what stands behind its first space,
blanks around it left out. -/
structure HasValue (line : List UInt8) (value : List Piece) : Prop where
  short : line.length < lineLimit
  behind : ∃ label text, dropReturn line = label ++ space :: text ∧ space ∉ label ∧
    Trims isBlankPiece (decode text) value

/-- A line, by its number, that has no value, and what is wrong with it. -/
inductive Faulty (number : Nat) (line : List UInt8) : RecordError → Prop
  | tooLong (long : lineLimit ≤ line.length) : Faulty number line .lineTooLong
  | noValue (short : line.length < lineLimit) (bare : space ∉ line) :
    Faulty number line (.noValue number (dropReturn line))

/-- A value that is an integer in the range of a word. -/
def IsIntegerValue (value : List Piece) (w : Int64) : Prop :=
  ∃ text : List Char, value = text.map .char ∧ IsInteger text w

/-- A value that can be read as a number. -/
def IsFloatValue (value : List Piece) (x : Binary64) : Prop :=
  ∃ text : List Char, value = text.map .char ∧ readFloat text = some x

/-- Neither NaN nor infinite nor below zero. -/
def InRange (x : Binary64) : Prop :=
  x.isNaN = false ∧ x.isInfinite = false ∧ x.isBelowZero = false

/-- What three values make: the first of the conditions on them that fails is the error. -/
inductive Makes (smem threads occupancy : List Piece) : Except RecordError Record → Prop
  | sharedMemory (unread : ∀ w, ¬ IsIntegerValue smem w) :
    Makes smem threads occupancy (.error (.sharedMemory (pieceBytes smem)))
  | threads {memory : Int64} (first : IsIntegerValue smem memory)
    (unread : ∀ w, ¬ IsIntegerValue threads w) :
    Makes smem threads occupancy (.error (.threads (pieceBytes threads)))
  | notPositive {memory size : Int64} (first : IsIntegerValue smem memory)
    (second : IsIntegerValue threads size) (low : size ≤ 0) :
    Makes smem threads occupancy (.error (.threadsNotPositive size))
  | occupancy {memory size : Int64} (first : IsIntegerValue smem memory)
    (second : IsIntegerValue threads size) (positive : 0 < size)
    (unread : ∀ x, ¬ IsFloatValue occupancy x) :
    Makes smem threads occupancy (.error (.occupancy (pieceBytes occupancy)))
  | outOfRange {memory size : Int64} {share : Binary64} (first : IsIntegerValue smem memory)
    (second : IsIntegerValue threads size) (positive : 0 < size)
    (third : IsFloatValue occupancy share) (beyond : ¬ InRange share) :
    Makes smem threads occupancy (.error (.occupancyOutOfRange share))
  | record {memory size : Int64} {share : Binary64} (first : IsIntegerValue smem memory)
    (second : IsIntegerValue threads size) (positive : 0 < size)
    (third : IsFloatValue occupancy share) (within : InRange share) :
    Makes smem threads occupancy (.ok ⟨memory, size, share⟩)

/-- What the lines of a report say. Only the first three count, and the first of them that is faulty
decides. -/
inductive Means (lines : List (List UInt8)) : Except RecordError Record → Prop
  | fault {before after : List (List UInt8)} {line : List UInt8} {e : RecordError}
    (split : lines = before ++ line :: after) (within : before.length < 3)
    (earlier : ∀ l ∈ before, ∃ value, HasValue l value)
    (faulty : Faulty (before.length + 1) line e) : Means lines (.error e)
  | tooFew (fewer : lines.length < 3) (all : ∀ l ∈ lines, ∃ value, HasValue l value) :
    Means lines (.error (.missingLines lines.length))
  | values {first second third : List UInt8} {after : List (List UInt8)}
    {smem threads occupancy : List Piece} {answer : Except RecordError Record}
    (split : lines = first :: second :: third :: after) (one : HasValue first smem)
    (two : HasValue second threads) (three : HasValue third occupancy)
    (makes : Makes smem threads occupancy answer) : Means lines answer

section Lines

variable {input : List UInt8} {line : List UInt8} {lines : List (List UInt8)}

theorem exists_hasLines (input : List UInt8) : ∃ lines, HasLines input lines := by
  -- What follows the first line feed is shorter.
  induction size : input.length using Nat.strongRecOn generalizing input with
  | ind n ih =>
    rcases apart_or_append (· == lineFeed) input with apart | ⟨line, sep, rest, rfl, apart, found⟩
    · have whole : lineFeed ∉ input := fun member => absurd (apart _ member) (by simp)
      cases input with
      | nil => exact ⟨[], .empty⟩
      | cons b rest => exact ⟨[b :: rest], .unended (List.cons_ne_nil b rest) whole⟩
    · obtain rfl : sep = lineFeed := by simpa using found
      have shorter : rest.length < n := by
        rw [← size, List.length_append, List.length_cons]
        omega
      obtain ⟨lines, later⟩ := ih rest.length shorter rest rfl
      exact ⟨line :: lines, .ended (fun member => absurd (apart _ member) (by simp)) later⟩

theorem firstLine_of_hasLines (has : HasLines input (line :: lines)) :
    ∃ rest, firstLine input = some (line, rest) ∧ HasLines rest lines := by
  cases has with
  | unended filled whole =>
    refine ⟨[], ?_, .empty⟩
    simp [firstLine, filled, cutList_of_apart (apart_of_not_mem whole)]
  | ended whole later =>
    refine ⟨_, ?_, later⟩
    rw [firstLine, cutList_append (apart_of_not_mem whole) (beq_self_eq_true _)]
    simp

theorem eq_nil_of_hasLines (has : HasLines input []) : input = [] := by
  cases has
  rfl

end Lines

section Values

variable {line : List UInt8} {value : List Piece} {number : Nat} {e : RecordError}

theorem trimmedPieces_eq (bytes : List UInt8) :
    trimmedPieces bytes = trimList isBlankPiece (decode bytes) := rfl

/-- The carriage return that is dropped is no space. -/
theorem space_mem_dropReturn_iff : space ∈ dropReturn line ↔ space ∈ line := by
  unfold dropReturn
  split
  · rename_i ends
    obtain ⟨front, rfl⟩ := List.getLast?_eq_some_iff.mp ends
    rw [List.dropLast_concat, List.mem_append, List.mem_singleton]
    exact ⟨.inl, fun member => member.resolve_right (by decide)⟩
  · rfl

theorem lineValue_of_hasValue (has : HasValue line value) :
    lineValue number (dropReturn line) = .ok value := by
  obtain ⟨label, text, content, apart, trims⟩ := has.behind
  rw [lineValue, content, cutList_append (apart_of_not_mem apart) (beq_self_eq_true _)]
  simp only [trimmedPieces_eq, trimList_eq_iff.mpr trims]

theorem lineValue_of_bare (bare : space ∉ line) :
    lineValue number (dropReturn line) = .error (.noValue number (dropReturn line)) := by
  rw [← space_mem_dropReturn_iff] at bare
  rw [lineValue, cutList_of_apart (apart_of_not_mem bare)]

/-- A line has a value or a fault. -/
theorem hasValue_or_faulty (number : Nat) (line : List UInt8) :
    (∃ value, HasValue line value) ∨ ∃ e, Faulty number line e := by
  by_cases short : line.length < lineLimit
  · rcases apart_or_append (· == space) (dropReturn line) with
      apart | ⟨label, sep, text, content, apart, found⟩
    · have bare : space ∉ dropReturn line := fun member => absurd (apart _ member) (by simp)
      rw [space_mem_dropReturn_iff] at bare
      exact .inr ⟨_, .noValue short bare⟩
    · obtain rfl : sep = space := by simpa using found
      have before : space ∉ label := fun member => absurd (apart _ member) (by simp)
      exact .inl ⟨_, short, label, text, content, before, trimList_eq_iff.mp rfl⟩
  · exact .inr ⟨_, .tooLong (Nat.le_of_not_lt short)⟩

end Values

section Reading

variable {input line : List UInt8} {before after lines : List (List UInt8)} {value : List Piece}
  {e : RecordError}

theorem lineValues_of_hasValue (has : HasLines input (line :: lines))
    (behind : HasValue line value) :
    ∃ rest, HasLines rest lines ∧ ∀ number count,
      lineValues number (count + 1) input =
        (lineValues (number + 1) count rest).map (value :: ·) := by
  obtain ⟨rest, first, later⟩ := firstLine_of_hasLines has
  refine ⟨rest, later, fun number count => ?_⟩
  have short : ¬ lineLimit ≤ line.length := Nat.not_le.mpr behind.short
  simp only [lineValues, first, short, ↓reduceIte, lineValue_of_hasValue behind]
  cases lineValues (number + 1) count rest <;> rfl

theorem lineValues_of_faulty (has : HasLines input (line :: lines)) {number : Nat}
    (faulty : Faulty number line e) (count : Nat) :
    lineValues number (count + 1) input = .error e := by
  obtain ⟨rest, first, -⟩ := firstLine_of_hasLines has
  cases faulty with
  | tooLong long => simp only [lineValues, first, long, ↓reduceIte]
  | noValue short bare =>
    have enough : ¬ lineLimit ≤ line.length := Nat.not_le.mpr short
    simp only [lineValues, first, enough, ↓reduceIte, lineValue_of_bare bare]
    rfl

/-- The lines before the faulty one are passed over, whatever their number. -/
theorem lineValues_stop_at_fault (has : HasLines input (before ++ line :: after))
    (earlier : ∀ l ∈ before, ∃ value, HasValue l value) {number : Nat}
    (faulty : Faulty (number + before.length) line e) (count : Nat) :
    lineValues number (before.length + 1 + count) input = .error e := by
  induction before generalizing input number with
  | nil =>
    rw [List.length_nil, Nat.zero_add, Nat.add_comm]
    exact lineValues_of_faulty has faulty count
  | cons first before ih =>
    obtain ⟨value, behind⟩ := earlier first List.mem_cons_self
    obtain ⟨rest, later, reads⟩ := lineValues_of_hasValue has behind
    have place : number + (first :: before).length = number + 1 + before.length := by
      rw [List.length_cons]
      omega
    have total : (first :: before).length + 1 + count = before.length + 1 + count + 1 := by
      rw [List.length_cons]
      omega
    rw [place] at faulty
    rw [total, reads, ih later (fun l member => earlier l (List.mem_cons_of_mem _ member)) faulty]
    rfl

/-- The error for too few lines counts those that there were. -/
theorem lineValues_stop_at_end (has : HasLines input lines)
    (all : ∀ l ∈ lines, ∃ value, HasValue l value) (number count : Nat) :
    lineValues (number + 1) (lines.length + 1 + count) input =
      .error (.missingLines (number + lines.length)) := by
  induction lines generalizing input number with
  | nil =>
    cases eq_nil_of_hasLines has
    rw [List.length_nil, Nat.zero_add, Nat.add_comm 1]
    rfl
  | cons first lines ih =>
    obtain ⟨value, behind⟩ := all first List.mem_cons_self
    obtain ⟨rest, later, reads⟩ := lineValues_of_hasValue has behind
    have total : (first :: lines).length + 1 + count = lines.length + 1 + count + 1 := by
      rw [List.length_cons]
      omega
    have place : number + 1 + lines.length = number + (first :: lines).length := by
      rw [List.length_cons]
      omega
    rw [total, reads, ih later (fun l member => all l (List.mem_cons_of_mem _ member)), place]
    rfl

theorem pieceChars_eq_some_iff {text : List Char} :
    pieceChars value = some text ↔ value = text.map .char := by
  induction value generalizing text with
  | nil => cases text <;> simp [pieceChars]
  | cons piece rest ih =>
    cases piece with
    | char c =>
      cases text with
      | nil => simp [pieceChars]
      | cons d text => simpa [pieceChars, ih] using and_comm
    | stray b => cases text <;> simp [pieceChars]

theorem readInt64_pieces {w : Int64} :
    (pieceChars value).bind readInt64 = some w ↔ IsIntegerValue value w := by
  simp only [Option.bind_eq_some_iff, pieceChars_eq_some_iff, readInt64_eq_some_iff, IsIntegerValue]

theorem readFloat_pieces {x : Binary64} :
    (pieceChars value).bind readFloat = some x ↔ IsFloatValue value x := by
  simp only [Option.bind_eq_some_iff, pieceChars_eq_some_iff, IsFloatValue]

/-- A value that no word is read from is not an integer. -/
theorem readInt64_pieces_eq_none_iff :
    (pieceChars value).bind readInt64 = none ↔ ∀ w, ¬ IsIntegerValue value w := by
  simp only [Option.eq_none_iff_forall_ne_some, ne_eq, readInt64_pieces]

theorem readFloat_pieces_eq_none_iff :
    (pieceChars value).bind readFloat = none ↔ ∀ x, ¬ IsFloatValue value x := by
  simp only [Option.eq_none_iff_forall_ne_some, ne_eq, readFloat_pieces]

end Reading

section Record

variable {input : List UInt8} {smem threads occupancy : List Piece}
  {answer : Except RecordError Record}

theorem inRange_iff {x : Binary64} :
    InRange x ↔ (x.isBelowZero || x.isNaN || x.isInfinite) = false := by
  simp only [InRange, Bool.or_eq_false_iff]
  exact ⟨fun ⟨number, finite, nonneg⟩ => ⟨⟨nonneg, number⟩, finite⟩,
    fun ⟨⟨nonneg, number⟩, finite⟩ => ⟨number, finite, nonneg⟩⟩

theorem ofValues_of_makes (makes : Makes smem threads occupancy answer) :
    Record.ofValues smem threads occupancy = answer := by
  unfold Record.ofValues
  cases makes with
  | sharedMemory unread => rw [readInt64_pieces_eq_none_iff.mpr unread]; rfl
  | threads first unread =>
    rw [readInt64_pieces.mpr first, readInt64_pieces_eq_none_iff.mpr unread]; rfl
  | notPositive first second low =>
    rw [readInt64_pieces.mpr first, readInt64_pieces.mpr second]
    simp only [low, ↓reduceIte]
    rfl
  | occupancy first second positive unread =>
    rw [readInt64_pieces.mpr first, readInt64_pieces.mpr second,
      readFloat_pieces_eq_none_iff.mpr unread]
    simp only [Int64.not_le.mpr positive, ↓reduceIte]
    rfl
  | outOfRange first second positive third beyond =>
    rw [readInt64_pieces.mpr first, readInt64_pieces.mpr second, readFloat_pieces.mpr third]
    rw [inRange_iff, Bool.not_eq_false] at beyond
    simp only [Int64.not_le.mpr positive, beyond, ↓reduceIte]
    rfl
  | record first second positive third within =>
    rw [readInt64_pieces.mpr first, readInt64_pieces.mpr second, readFloat_pieces.mpr third]
    rw [inRange_iff] at within
    simp only [Int64.not_le.mpr positive, within, ↓reduceIte, Bool.false_eq_true]
    rfl

theorem exists_makes (smem threads occupancy : List Piece) :
    ∃ answer, Makes smem threads occupancy answer := by
  by_cases one : ∃ w, IsIntegerValue smem w
  · obtain ⟨memory, first⟩ := one
    by_cases two : ∃ w, IsIntegerValue threads w
    · obtain ⟨size, second⟩ := two
      by_cases positive : 0 < size
      · by_cases three : ∃ x, IsFloatValue occupancy x
        · obtain ⟨share, third⟩ := three
          by_cases within : InRange share
          · exact ⟨_, .record first second positive third within⟩
          · exact ⟨_, .outOfRange first second positive third within⟩
        · exact ⟨_, .occupancy first second positive (not_exists.mp three)⟩
      · exact ⟨_, .notPositive first second (Int64.not_lt.mp positive)⟩
    · exact ⟨_, .threads first (not_exists.mp two)⟩
  · exact ⟨_, .sharedMemory (not_exists.mp one)⟩

theorem parse_of_error {e : RecordError} (stopped : lineValues 1 3 input = .error e) :
    Record.parse input = .error e := by
  rw [Record.parse, stopped]
  rfl

theorem parse_of_values (read : lineValues 1 3 input = .ok [smem, threads, occupancy]) :
    Record.parse input = Record.ofValues smem threads occupancy := by
  rw [Record.parse, read]
  rfl

theorem parse_of_means {lines : List (List UInt8)} (has : HasLines input lines)
    (means : Means lines answer) : Record.parse input = answer := by
  cases means with
  | @fault before after line e split within earlier faulty =>
    subst split
    rw [Nat.add_comm] at faulty
    have three : before.length + 1 + (2 - before.length) = 3 := by omega
    apply parse_of_error
    rw [← three]
    exact lineValues_stop_at_fault has earlier faulty _
  | tooFew fewer all =>
    have three : lines.length + 1 + (2 - lines.length) = 3 := by omega
    apply parse_of_error
    rw [← three, lineValues_stop_at_end has all 0, Nat.zero_add]
  | values split one two three makes =>
    subst split
    obtain ⟨rest, has, first⟩ := lineValues_of_hasValue has one
    obtain ⟨rest, has, second⟩ := lineValues_of_hasValue has two
    obtain ⟨rest, has, third⟩ := lineValues_of_hasValue has three
    rw [← ofValues_of_makes makes]
    apply parse_of_values
    rw [first, second, third]
    rfl

/-- There is always something that the lines of a report say. -/
theorem exists_means (lines : List (List UInt8)) : ∃ answer, Means lines answer := by
  rcases forall_or_first (fun l => ∃ value, HasValue l value) (lines.take 3) with
    all | ⟨before, line, after, split, earlier, fails⟩
  · match lines, all with
    | [], all => exact ⟨_, .tooFew (by simp) all⟩
    | [_], all => exact ⟨_, .tooFew (by simp) all⟩
    | [_, _], all => exact ⟨_, .tooFew (by simp) all⟩
    | first :: second :: third :: after, all =>
      obtain ⟨smem, one⟩ := all first (by simp)
      obtain ⟨threads, two⟩ := all second (by simp)
      obtain ⟨occupancy, three⟩ := all third (by simp)
      obtain ⟨answer, makes⟩ := exists_makes smem threads occupancy
      exact ⟨answer, .values rfl one two three makes⟩
  · obtain ⟨e, faulty⟩ := (hasValue_or_faulty (before.length + 1) line).resolve_left fails
    have within : before.length < 3 := by
      have size := congrArg List.length split
      rw [List.length_take, List.length_append, List.length_cons] at size
      omega
    have whole : lines = before ++ line :: (after ++ lines.drop 3) := by
      rw [← List.cons_append, ← List.append_assoc, ← split, List.take_append_drop]
    exact ⟨_, .fault whole within earlier faulty⟩

/-- Reading gives what the lines say and nothing else. -/
theorem parse_eq_iff :
    Record.parse input = answer ↔ ∃ lines, HasLines input lines ∧ Means lines answer := by
  constructor
  · rintro rfl
    obtain ⟨lines, has⟩ := exists_hasLines input
    obtain ⟨said, means⟩ := exists_means lines
    rw [parse_of_means has means]
    exact ⟨lines, has, means⟩
  · rintro ⟨lines, has, means⟩
    exact parse_of_means has means

/-- Lines behind the third one say nothing. -/
theorem means_of_three {first second third : List UInt8} {after : List (List UInt8)}
    (means : Means (first :: second :: third :: after) answer) (other : List (List UInt8)) :
    Means (first :: second :: third :: other) answer := by
  cases means with
  | @fault before _ line e split within earlier faulty =>
    match before with
    | [] =>
      cases split
      exact .fault rfl within earlier faulty
    | [_] =>
      cases split
      exact .fault rfl within earlier faulty
    | [_, _] =>
      cases split
      exact .fault rfl within earlier faulty
    | _ :: _ :: _ :: _ =>
      simp only [List.length_cons] at within
      omega
  | tooFew fewer _ =>
    simp only [List.length_cons] at fewer
    omega
  | values split one two three makes =>
    cases split
    exact .values rfl one two three makes

theorem parse_of_three {first second third : List UInt8} (one : lineFeed ∉ first)
    (two : lineFeed ∉ second) (three : lineFeed ∉ third) (tail other : List UInt8) :
    Record.parse (first ++ lineFeed :: (second ++ lineFeed :: (third ++ lineFeed :: tail))) =
      Record.parse (first ++ lineFeed :: (second ++ lineFeed :: (third ++ lineFeed :: other))) := by
  obtain ⟨after, ends⟩ := exists_hasLines tail
  obtain ⟨after', ends'⟩ := exists_hasLines other
  obtain ⟨answer, means⟩ := exists_means (first :: second :: third :: after)
  rw [parse_of_means (.ended one (.ended two (.ended three ends))) means,
    parse_of_means (.ended one (.ended two (.ended three ends'))) (means_of_three means after')]

end Record

theorem RecordError.isMalformed_iff (e : RecordError) :
    e.isMalformed = true ↔ e ≠ .lineTooLong := by
  cases e <;> simp [isMalformed]

/-- Every input is read as its lines say, a line that is too long being the only error that is not
about the report itself; and what follows three ended lines makes no difference. -/
theorem parse_follows_grammar (input : List UInt8) :
    (∀ answer, Record.parse input = answer ↔ ∃ lines, HasLines input lines ∧ Means lines answer) ∧
      (∀ e : RecordError, e.isMalformed = true ↔ e ≠ .lineTooLong) ∧
      ∀ first second third tail, lineFeed ∉ first → lineFeed ∉ second → lineFeed ∉ third →
        input = first ++ lineFeed :: (second ++ lineFeed :: (third ++ lineFeed :: tail)) →
        ∀ other, Record.parse input = Record.parse
          (first ++ lineFeed :: (second ++ lineFeed :: (third ++ lineFeed :: other))) := by
  refine ⟨fun answer => parse_eq_iff, RecordError.isMalformed_iff, ?_⟩
  rintro first second third tail one two three rfl other
  exact parse_of_three one two three tail other

/-- The three lines of a report, and what follows them. -/
def fullReport (rest : List UInt8) : List UInt8 :=
  encode "smem 0" ++ lineFeed ::
    (encode "blocksize 512" ++ lineFeed :: (encode "occupancy 1" ++ lineFeed :: rest))

theorem fullReport_follows_grammar :
    lineFeed ∉ encode "smem 0" ∧ lineFeed ∉ encode "blocksize 512" ∧
      lineFeed ∉ encode "occupancy 1" ∧
      (∃ lines, HasLines (fullReport []) lines ∧ Means lines (.ok ⟨0, 512, .ofInt 1⟩)) ∧
      ∀ other, Record.parse (fullReport other) = .ok ⟨0, 512, .ofInt 1⟩ := by
  have one : lineFeed ∉ encode "smem 0" := by decide +kernel
  have two : lineFeed ∉ encode "blocksize 512" := by decide +kernel
  have three : lineFeed ∉ encode "occupancy 1" := by decide +kernel
  have read : Record.parse (fullReport []) = .ok ⟨0, 512, .ofInt 1⟩ := by decide +kernel
  obtain ⟨follows, -, ignores⟩ := parse_follows_grammar (fullReport [])
  refine ⟨one, two, three, (follows _).mp read, fun other => ?_⟩
  rw [← read]
  exact (ignores _ _ _ [] one two three rfl other).symm

end KernelSweep.Occupancy
