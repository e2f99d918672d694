import KernelSweep.Kernel
import KernelSweep.Proofs.Success
import KernelSweep.Proofs.Text.Cuts

set_option autoImplicit false

namespace KernelSweep.Kernel

open Success Text

/-- What an entry says. The part before the first colon, blanks left out, is the name; the part
behind it is the direction. -/
inductive Means (suite entry : String) : Except EntryError Kernel → Prop
  | noName {before : String} {after : Option String} (cuts : Cuts ':' entry before after)
    (blank : TrimsTo before "") : Means suite entry (.error ⟨suite, entry, .emptyName⟩)
  | noDirection {before after name : String} (cuts : Cuts ':' entry before (some after))
    (trims : TrimsTo before name) (named : name ≠ "") (blank : TrimsTo after "") :
    Means suite entry (.error ⟨suite, entry, .emptyDirection⟩)
  | plain {before name : String} (cuts : Cuts ':' entry before none)
    (trims : TrimsTo before name) (named : name ≠ "") : Means suite entry (.ok ⟨suite, name, none⟩)
  | pinned {before after name direction : String} (cuts : Cuts ':' entry before (some after))
    (trims : TrimsTo before name) (named : name ≠ "") (trims' : TrimsTo after direction)
    (directed : direction ≠ "") : Means suite entry (.ok ⟨suite, name, some direction⟩)

section Grammar

variable {suite entry : String} {answer : Except EntryError Kernel} {k : Kernel}

theorem parse_of_means (means : Means suite entry answer) : parse suite entry = answer := by
  cases means with
  | noName cuts blank => simp only [parse, cut_eq_iff.mpr cuts, trim_eq_iff.mpr blank, ↓reduceIte]
  | noDirection cuts trims named blank =>
    simp only [parse, cut_eq_iff.mpr cuts, trim_eq_iff.mpr trims, named, Option.map_some,
      trim_eq_iff.mpr blank, ↓reduceIte]
  | plain cuts trims named =>
    simp only [parse, cut_eq_iff.mpr cuts, trim_eq_iff.mpr trims, named, Option.map_none,
      ↓reduceIte]
  | pinned cuts trims named trims' directed =>
    simp only [parse, cut_eq_iff.mpr cuts, trim_eq_iff.mpr trims, named, Option.map_some,
      trim_eq_iff.mpr trims', directed, ↓reduceIte]

theorem exists_means (suite entry : String) : ∃ answer, Means suite entry answer := by
  have cuts := cuts_cut ':' entry
  have trims := trim_eq_iff.mp (rfl : trim (cut ':' entry).1 = _)
  by_cases named : trim (cut ':' entry).1 = ""
  · exact ⟨_, .noName cuts (named ▸ trims)⟩
  · cases found : (cut ':' entry).2 with
    | none => exact ⟨_, .plain (found ▸ cuts) trims named⟩
    | some after =>
      have trims' := trim_eq_iff.mp (rfl : trim after = _)
      by_cases directed : trim after = ""
      · exact ⟨_, .noDirection (found ▸ cuts) trims named (directed ▸ trims')⟩
      · exact ⟨_, .pinned (found ▸ cuts) trims named trims' directed⟩

theorem parse_eq_iff_means : parse suite entry = answer ↔ Means suite entry answer := by
  constructor
  · rintro rfl
    obtain ⟨answer, means⟩ := exists_means suite entry
    rw [parse_of_means means]
    exact means
  · exact parse_of_means

theorem suite_of_parse (parsed : parse suite entry = .ok k) : k.suite = suite := by
  cases parse_eq_iff_means.mp parsed <;> rfl

/-- There is more than blanks before the first colon. -/
def Named (entry : String) : Prop :=
  ∃ before after name, Cuts ':' entry before after ∧ TrimsTo before name ∧ name ≠ ""

/-- If there is a colon, there is more than blanks behind the first one. -/
def Directed (entry : String) : Prop :=
  ∀ before after, Cuts ':' entry before (some after) →
    ∃ direction, TrimsTo after direction ∧ direction ≠ ""

/-- Reading succeeds when both parts are there, and fails for the name exactly when that is not. -/
theorem reads_iff (suite entry : String) :
    ((∃ k, parse suite entry = .ok k) ↔ Named entry ∧ Directed entry) ∧
      ((∃ e, parse suite entry = .error e ∧ e.cause = .emptyName) ↔ ¬ Named entry) := by
  obtain ⟨answer, means⟩ := exists_means suite entry
  rw [parse_of_means means]
  -- A text is cut in one way and trimmed to one text, so the parts are those of the case at hand.
  simp only [Named, Directed, ← cut_eq_iff, ← trim_eq_iff]
  cases means with
  | noName cuts blank => simp [cut_eq_iff.mpr cuts, trim_eq_iff.mpr blank]
  | noDirection cuts trims named blank =>
    simp [cut_eq_iff.mpr cuts, trim_eq_iff.mpr trims, named, trim_eq_iff.mpr blank]
  | plain cuts trims named => simp [cut_eq_iff.mpr cuts, trim_eq_iff.mpr trims, named]
  | pinned cuts trims named trims' directed =>
    simp [cut_eq_iff.mpr cuts, trim_eq_iff.mpr trims, named, trim_eq_iff.mpr trims', directed]

end Grammar

/-- A kernel spelled out: a direction that says nothing stands where none is pinned. -/
structure Fields where
  suite : String
  name : String
  direction : String
  override : Bool

def fields (k : Kernel) : Fields := ⟨k.suite, k.name, k.pinned.getD "", k.pinned.isSome⟩

/-- The kernels that entries can stand for. -/
structure Fields.IsNormal (f : Fields) : Prop where
  name : f.name ≠ "" ∧ ':' ∉ f.name.toList ∧ IsTrimmed f.name
  pinned : f.override = true → f.direction ≠ "" ∧ IsTrimmed f.direction
  plain : f.override = false → f.direction = ""

section NormalForm

variable {suite entry : String} {k : Kernel}

/-- The first part of a text that is cut does not hold the separator, and so neither does what
trimming leaves of it. -/
theorem colon_not_mem {before name : String} {after : Option String}
    (cuts : Cuts ':' entry before after) (trims : TrimsTo before name) : ':' ∉ name.toList := by
  have apart : ':' ∉ before.toList := by
    cases cuts with
    | whole apart => exact apart
    | parts _ apart => exact apart
  exact fun member => apart (trims.mem member)

theorem isNormal_of_parse (parsed : parse suite entry = .ok k) : k.fields.IsNormal := by
  cases parse_eq_iff_means.mp parsed with
  | plain cuts trims named =>
    refine ⟨⟨named, colon_not_mem cuts trims, trims.isTrimmed⟩, ?_, fun _ => rfl⟩
    intro override
    cases override
  | pinned cuts trims named trims' directed =>
    refine ⟨⟨named, colon_not_mem cuts trims, trims.isTrimmed⟩,
      fun _ => ⟨directed, trims'.isTrimmed⟩, ?_⟩
    intro plain
    cases plain

/-- What a kernel in normal form is written as reads back as that kernel. -/
theorem parse_text (normal : k.fields.IsNormal) : parse k.suite k.text = .ok k := by
  obtain ⟨suite, name, pinned⟩ := k
  obtain ⟨⟨named, apart, trimmed⟩, directed, -⟩ := normal
  apply parse_of_means
  cases pinned with
  | none => exact .plain (.whole apart) (.of_isTrimmed trimmed) named
  | some direction =>
    obtain ⟨directed, trimmed'⟩ := directed rfl
    exact .pinned (.parts rfl apart) (.of_isTrimmed trimmed) named (.of_isTrimmed trimmed') directed

theorem exists_fields_eq {f : Fields} (normal : f.IsNormal) : ∃ k : Kernel, k.fields = f := by
  obtain ⟨suite, name, direction, override⟩ := f
  cases override with
  | false =>
    obtain rfl : direction = "" := normal.plain rfl
    exact ⟨⟨suite, name, none⟩, rfl⟩
  | true => exact ⟨⟨suite, name, some direction⟩, rfl⟩

end NormalForm

theorem exists_parseAll_iff {suite : String} {entries : List String} :
    (∃ ks, parseAll suite entries = .ok ks) ↔
      ∀ entry ∈ entries, ∃ k, parse suite entry = .ok k := by
  rw [← failure?_eq_none_iff, parseAll, failure?_mapM_eq_iff, firstFault_none_iff]

theorem parseAll_eq_error_iff {suite : String} {entries : List String} {e : EntryError} :
    parseAll suite entries = .error e ↔
      ∃ before entry after, entries = before ++ entry :: after ∧
        (∀ earlier ∈ before, ∃ k, parse suite earlier = .ok k) ∧ parse suite entry = .error e := by
  rw [← failure?_eq_some_iff, parseAll, failure?_mapM_eq_iff, firstFault_some_iff]

/-- Kernel entries have a grammar and a normal form. What an entry says is settled by the parts
around its first colon; a kernel that was read is written as an entry that reads back as it; the
kernels that can be read are those in normal form; and a list of entries is read in order, or fails
as the first entry that cannot be read. -/
theorem entries_have_normal_form (suite : String) :
    (∀ entry answer, parse suite entry = answer ↔ Means suite entry answer) ∧
    (∀ entry, ((∃ k, parse suite entry = .ok k) ↔ Named entry ∧ Directed entry) ∧
      ((∃ e, parse suite entry = .error e ∧ e.cause = .emptyName) ↔ ¬ Named entry)) ∧
    (∀ entry k, parse suite entry = .ok k → parse suite k.text = .ok k) ∧
    (∀ f : Fields, (∃ entry k, parse f.suite entry = .ok k ∧ k.fields = f) ↔ f.IsNormal) ∧
    ∀ entries,
      ((∃ ks, parseAll suite entries = .ok ks) ↔
        ∀ entry ∈ entries, ∃ k, parse suite entry = .ok k) ∧
      (∀ ks, parseAll suite entries = .ok ks ↔
        List.Forall₂ (fun entry k => parse suite entry = .ok k) entries ks) ∧
      ∀ e, parseAll suite entries = .error e ↔
        ∃ before entry after, entries = before ++ entry :: after ∧
          (∀ earlier ∈ before, ∃ k, parse suite earlier = .ok k) ∧
          parse suite entry = .error e := by
  refine ⟨fun _ _ => parse_eq_iff_means, reads_iff suite, ?_, ?_, ?_⟩
  · intro entry k parsed
    rw [← suite_of_parse parsed]
    exact parse_text (isNormal_of_parse parsed)
  · intro f
    constructor
    · rintro ⟨entry, k, parsed, rfl⟩
      exact isNormal_of_parse parsed
    · intro normal
      obtain ⟨k, rfl⟩ := exists_fields_eq normal
      exact ⟨k.text, k, parse_text normal, rfl⟩
  · intro entries
    exact ⟨exists_parseAll_iff, fun _ => mapM_eq_ok, fun _ => parseAll_eq_error_iff⟩

-- Only the first colon cuts, so a direction may hold others.
example :
    (parse "mm/mm" " mt : 1: 2 ").toOption = some ⟨"mm/mm", "mt", some "1: 2"⟩ := by
  decide +kernel

end KernelSweep.Kernel
