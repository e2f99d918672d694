import KernelSweep.Text.Blank
import Mathlib.Data.List.TakeWhile

set_option autoImplicit false

namespace KernelSweep.Text

variable {α : Type} {p : α → Bool}

theorem cutList_append {before : List α} (apart : ∀ x ∈ before, p x = false) {sep : α}
    (found : p sep = true) (after : List α) :
    cutList p (before ++ sep :: after) = (before, some after) := by
  have others : ∀ x ∈ before, (!p x) = true := by
    intro x member
    rw [apart x member, Bool.not_false]
  have ends : (!p sep) = false := by rw [found, Bool.not_true]
  simp only [cutList, List.takeWhile_append_of_pos others, List.dropWhile_append_of_pos others,
    List.takeWhile_cons, List.dropWhile_cons, ends, Bool.false_eq_true, ↓reduceIte, List.append_nil]

theorem apart_of_not_mem [BEq α] [LawfulBEq α] {sep : α} {xs : List α} (apart : sep ∉ xs) :
    ∀ x ∈ xs, (x == sep) = false := by
  intro x member
  exact beq_false_of_ne fun same => apart (same ▸ member)

theorem cutList_of_apart {xs : List α} (apart : ∀ x ∈ xs, p x = false) :
    cutList p xs = (xs, none) := by
  have others : ∀ x ∈ xs, (!p x) = true := by
    intro x member
    rw [apart x member, Bool.not_false]
  simp only [cutList, List.takeWhile_eq_self_iff.mpr others, List.dropWhile_eq_nil_iff.mpr others]

/-- The first element without a property, when not all have it. -/
theorem forall_or_first (q : α → Prop) (xs : List α) :
    (∀ x ∈ xs, q x) ∨
      ∃ before x after, xs = before ++ x :: after ∧ (∀ y ∈ before, q y) ∧ ¬ q x := by
  induction xs with
  | nil => exact .inl fun x member => absurd member List.not_mem_nil
  | cons x rest ih =>
    by_cases here : q x
    · rcases ih with all | ⟨before, y, after, rfl, earlier, not⟩
      · exact .inl (List.forall_mem_cons.mpr ⟨here, all⟩)
      · exact .inr ⟨x :: before, y, after, rfl, List.forall_mem_cons.mpr ⟨here, earlier⟩, not⟩
    · exact .inr ⟨[], x, rest, rfl, fun y member => absurd member List.not_mem_nil, here⟩

/-- A list has no separator in it, or it has a first one. -/
theorem apart_or_append (p : α → Bool) (xs : List α) :
    (∀ x ∈ xs, p x = false) ∨
      ∃ before sep after, xs = before ++ sep :: after ∧ (∀ x ∈ before, p x = false) ∧
        p sep = true := by
  simpa only [Bool.not_eq_false] using forall_or_first (fun x => p x = false) xs

/-- The list without the blanks at its two ends: what is left neither begins nor ends with one. -/
def Trims (p : α → Bool) (xs trimmed : List α) : Prop :=
  ∃ before after, xs = before ++ trimmed ++ after ∧ (∀ x ∈ before, p x = true) ∧
    (∀ x ∈ after, p x = true) ∧ (∀ x, trimmed.head? = some x → p x = false) ∧
    ∀ x, trimmed.getLast? = some x → p x = false

theorem trims_self {xs : List α} (solid : ∀ x ∈ xs, p x = false) : Trims p xs xs := by
  refine ⟨[], [], by simp, by simp, by simp, ?_, ?_⟩
  · intro x first
    exact solid x (List.mem_of_head? first)
  · intro x last
    exact solid x (List.mem_of_getLast? last)

theorem dropWhile_of_head {xs : List α} (solid : ∀ x, xs.head? = some x → p x = false) :
    xs.dropWhile p = xs := by
  cases xs with
  | nil => rfl
  | cons x rest => simp only [List.dropWhile_cons, solid x rfl, Bool.false_eq_true, ↓reduceIte]

theorem head_dropWhile (p : α → Bool) (xs : List α) :
    ∀ x, (xs.dropWhile p).head? = some x → p x = false := by
  intro x first
  have kept := List.head?_dropWhile_not p xs
  rw [first] at kept
  exact kept

theorem dropTail_append {xs after : List α} (blank : ∀ x ∈ after, p x = true)
    (solid : ∀ x, xs.getLast? = some x → p x = false) : dropTail p (xs ++ after) = xs := by
  have blank' : ∀ x ∈ after.reverse, p x = true := by simpa using blank
  rw [dropTail, List.reverse_append, List.dropWhile_append_of_pos blank',
    dropWhile_of_head (by simpa using solid), List.reverse_reverse]

theorem exists_dropTail (p : α → Bool) (xs : List α) :
    ∃ after, xs = dropTail p xs ++ after ∧ (∀ x ∈ after, p x = true) ∧
      ∀ x, (dropTail p xs).getLast? = some x → p x = false := by
  refine ⟨(xs.reverse.takeWhile p).reverse, ?_, ?_, ?_⟩
  · rw [dropTail, ← List.reverse_append, List.takeWhile_append_dropWhile, List.reverse_reverse]
  · intro x member
    exact List.mem_takeWhile_imp (List.mem_reverse.mp member)
  · rw [dropTail]
    simpa using head_dropWhile p xs.reverse

theorem trimList_eq_iff {xs trimmed : List α} : trimList p xs = trimmed ↔ Trims p xs trimmed := by
  constructor
  · rintro rfl
    obtain ⟨after, whole, blank, last⟩ := exists_dropTail p (xs.dropWhile p)
    refine ⟨xs.takeWhile p, after, ?_, fun x member => List.mem_takeWhile_imp member, blank, ?_,
      last⟩
    · rw [List.append_assoc, trimList, ← whole, List.takeWhile_append_dropWhile]
    · -- The first element of the whole tail is also that of what is left of it.
      intro x first
      apply head_dropWhile p xs x
      rw [whole, List.head?_append]
      simp only [trimList] at first
      rw [first, Option.some_or]
  · rintro ⟨before, after, rfl, blank, blank', first, last⟩
    rw [trimList, List.append_assoc, List.dropWhile_append_of_pos blank]
    cases trimmed with
    | nil =>
      rw [List.nil_append, List.dropWhile_eq_nil_iff.mpr blank']
      rfl
    | cons x rest =>
      rw [dropWhile_of_head (by simpa using first), dropTail_append blank' last]

/-- The text before the first separator and the text behind it. A text without a separator is all
before it. -/
inductive Cuts (sep : Char) (s : String) : String → Option String → Prop
  | whole (apart : sep ∉ s.toList) : Cuts sep s s none
  | parts {before after : String} (split : s = before ++ String.singleton sep ++ after)
    (apart : sep ∉ before.toList) : Cuts sep s before (some after)

section Cuts

variable {sep : Char} {s before : String} {after : Option String}

/-- A text cut at a separator that its first part does not hold. -/
theorem cut_append (apart : sep ∉ before.toList) (after : String) :
    cut sep (before ++ String.singleton sep ++ after) = (before, some after) := by
  simp only [cut, String.toList_append, String.toList_singleton, List.append_assoc,
    List.singleton_append, cutList_append (apart_of_not_mem apart) (beq_self_eq_true sep),
    Option.map_some, String.ofList_toList]

theorem cut_of_apart (apart : sep ∉ s.toList) : cut sep s = (s, none) := by
  simp only [cut, cutList_of_apart (apart_of_not_mem apart), Option.map_none,
    String.ofList_toList]

theorem cuts_cut (sep : Char) (s : String) : Cuts sep s (cut sep s).1 (cut sep s).2 := by
  rcases apart_or_append (· == sep) s.toList with apart | ⟨front, c, back, split, apart, found⟩
  · have apart' : sep ∉ s.toList := fun member => by simpa using apart sep member
    rw [cut_of_apart apart']
    exact .whole apart'
  · obtain rfl : c = sep := by simpa using found
    have apart' : c ∉ (String.ofList front).toList := by
      rw [String.toList_ofList]
      exact fun member => by simpa using apart c member
    have split' : s = String.ofList front ++ String.singleton c ++ String.ofList back := by
      apply String.toList_injective
      simp [split]
    rw [split', cut_append apart']
    exact .parts rfl apart'

theorem cut_eq_iff : cut sep s = (before, after) ↔ Cuts sep s before after := by
  constructor
  · intro cut
    have parts := cuts_cut sep s
    rw [cut] at parts
    exact parts
  · rintro (apart | ⟨rfl, apart⟩)
    · exact cut_of_apart apart
    · exact cut_append apart _

end Cuts

/-- The text without the blanks at its two ends. -/
def TrimsTo (s trimmed : String) : Prop := Trims isBlank s.toList trimmed.toList

/-- A text that neither begins nor ends with a blank. -/
def IsTrimmed (s : String) : Prop :=
  (∀ c, s.toList.head? = some c → isBlank c = false) ∧
    ∀ c, s.toList.getLast? = some c → isBlank c = false

section Trimming

variable {s trimmed : String}

theorem trim_eq_iff : trim s = trimmed ↔ TrimsTo s trimmed := by
  rw [TrimsTo, ← trimList_eq_iff, trim, ← String.toList_inj, String.toList_ofList]

theorem TrimsTo.isTrimmed (trims : TrimsTo s trimmed) : IsTrimmed trimmed := by
  obtain ⟨-, -, -, -, -, first, last⟩ := trims
  exact ⟨first, last⟩

theorem TrimsTo.of_isTrimmed (ends : IsTrimmed s) : TrimsTo s s :=
  ⟨[], [], by simp, by simp, by simp, ends.1, ends.2⟩

/-- Trimming adds no character. -/
theorem TrimsTo.mem (trims : TrimsTo s trimmed) {c : Char} (member : c ∈ trimmed.toList) :
    c ∈ s.toList := by
  obtain ⟨before, after, split, -⟩ := trims
  rw [split]
  exact List.mem_append_left _ (List.mem_append_right _ member)

end Trimming

end KernelSweep.Text
