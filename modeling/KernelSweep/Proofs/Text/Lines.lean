import KernelSweep.Text.Blank

set_option autoImplicit false

namespace KernelSweep.Text

/-- Lines, each with its end. -/
def unlines (lines : List String) : String := String.join (lines.map (· ++ "\n"))

theorem splitList_of_apart {α : Type} {p : α → Bool} {xs : List α}
    (apart : ∀ x ∈ xs, p x = false) : splitList p xs = [xs] := by
  induction xs with
  | nil => rfl
  | cons x xs ih =>
    have here := apart x (by simp)
    have later := ih fun y member => apart y (by simp [member])
    simp only [splitList, here, later, Bool.false_eq_true, ↓reduceIte]

theorem splitList_ne_nil {α : Type} (p : α → Bool) (xs : List α) : splitList p xs ≠ [] := by
  cases xs with
  | nil => exact List.cons_ne_nil _ _
  | cons x rest =>
    rw [splitList]
    split
    · exact List.cons_ne_nil _ _
    · split <;> exact List.cons_ne_nil _ _

theorem splitList_append_cons {α : Type} {p : α → Bool} {sep : α} (ends : p sep = true)
    (xs rest : List α) :
    splitList p (xs ++ sep :: rest) = splitList p xs ++ splitList p rest := by
  induction xs with
  | nil => simp only [List.nil_append, splitList, ends, ↓reduceIte, List.singleton_append]
  | cons x xs ih =>
    obtain ⟨piece, pieces, parts⟩ := List.exists_cons_of_ne_nil (splitList_ne_nil p xs)
    rw [parts] at ih
    simp only [List.cons_append, splitList, ih, parts]
    split <;> rfl

theorem splitList_append {α : Type} {p : α → Bool} {xs : List α}
    (apart : ∀ x ∈ xs, p x = false) {sep : α} (ends : p sep = true) (rest : List α) :
    splitList p (xs ++ sep :: rest) = xs :: splitList p rest := by
  rw [splitList_append_cons ends, splitList_of_apart apart, List.singleton_append]

theorem apart_of_mem_splitList {α : Type} {p : α → Bool} {xs piece : List α}
    (member : piece ∈ splitList p xs) : ∀ x ∈ piece, p x = false := by
  induction xs generalizing piece with
  | nil =>
    obtain rfl := List.mem_singleton.mp member
    exact fun x here => absurd here List.not_mem_nil
  | cons x xs ih =>
    obtain ⟨first, pieces, parts⟩ := List.exists_cons_of_ne_nil (splitList_ne_nil p xs)
    rw [parts] at ih
    simp only [splitList, parts] at member
    split at member
    · rcases List.mem_cons.mp member with rfl | later
      · exact fun y here => absurd here List.not_mem_nil
      · exact ih later
    · rename_i inside
      rcases List.mem_cons.mp member with rfl | later
      · exact List.forall_mem_cons.mpr
          ⟨Bool.eq_false_iff.mpr inside, ih List.mem_cons_self⟩
      · exact ih (List.mem_cons_of_mem _ later)

section Pieces

variable {sep : Char}

theorem split_of_apart {s : String} (apart : sep ∉ s.toList) : split sep s = [s] := by
  rw [split, splitList_of_apart, List.map_singleton, String.ofList_toList]
  intro c member
  exact beq_false_of_ne fun same => apart (same ▸ member)

theorem split_append (sep : Char) (s t : String) :
    split sep (s ++ String.singleton sep ++ t) = split sep s ++ split sep t := by
  have parts : (s ++ String.singleton sep ++ t).toList = s.toList ++ sep :: t.toList := by
    simp only [String.toList_append, String.toList_singleton, List.append_assoc,
      List.singleton_append]
  rw [split, parts, splitList_append_cons (p := (· == sep)) (beq_self_eq_true sep),
    List.map_append]
  rfl

theorem not_mem_of_mem_split {s piece : String} (member : piece ∈ split sep s) :
    sep ∉ piece.toList := by
  obtain ⟨chars, listed, rfl⟩ := List.mem_map.mp member
  rw [String.toList_ofList]
  intro inside
  simpa using apart_of_mem_splitList listed sep inside

theorem join_cons (between part : String) (rest : List String) :
    ∃ behind, join between (part :: rest) = part ++ behind := by
  cases rest with
  | nil => exact ⟨"", String.append_empty.symm⟩
  | cons next others => exact ⟨between ++ join between (next :: others), String.append_assoc ..⟩

theorem join_concat (between : String) {parts : List String} (filled : parts ≠ []) (last : String) :
    join between (parts ++ [last]) = join between parts ++ between ++ last := by
  induction parts with
  | nil => exact absurd rfl filled
  | cons part rest ih =>
    cases rest with
    | nil => rfl
    | cons next others =>
      have later := ih (List.cons_ne_nil next others)
      rw [List.cons_append] at later
      simp only [List.cons_append, join, later, String.append_assoc]

/-- Pieces without the separator are found again. -/
theorem split_join {parts : List String} (filled : parts ≠ [])
    (apart : ∀ part ∈ parts, sep ∉ part.toList) :
    split sep (join (String.singleton sep) parts) = parts := by
  induction parts with
  | nil => exact absurd rfl filled
  | cons part rest ih =>
    obtain ⟨here, later⟩ := List.forall_mem_cons.mp apart
    cases rest with
    | nil => exact split_of_apart here
    | cons next others =>
      rw [join, split_append, split_of_apart here, ih (List.cons_ne_nil next others) later,
        List.singleton_append]
      exact List.cons_ne_nil next others

end Pieces

theorem lines_append {line : String} (whole : '\n' ∉ line.toList) (rest : String) :
    lines (line ++ "\n" ++ rest) = line :: lines rest := by
  have apart : ∀ c ∈ line.toList, (c == '\n') = false := by
    intro c member
    exact beq_false_of_ne fun same => whole (same ▸ member)
  have parts : (line ++ "\n" ++ rest).toList = line.toList ++ '\n' :: rest.toList := by
    simp only [String.toList_append, List.append_assoc]
    rfl
  rw [lines, split, parts, splitList_append apart rfl, List.map_cons, String.ofList_toList]
  rfl

theorem lines_unlines {written : List String} (whole : ∀ line ∈ written, '\n' ∉ line.toList) :
    lines (unlines written) = written ++ [""] := by
  induction written with
  | nil => rfl
  | cons line rest ih =>
    have joined : unlines (line :: rest) = line ++ "\n" ++ unlines rest := by
      simp only [unlines, List.map_cons, String.join_cons]
    rw [joined, lines_append (whole line (by simp)), ih fun other member => whole other
      (by simp [member])]
    rfl

theorem isDigit_of_mem_toString {n : Nat} {c : Char} (member : c ∈ (toString n).toList) :
    c.isDigit = true := by
  rw [Nat.toString_eq_repr, Nat.toList_repr] at member
  exact Nat.isDigit_of_mem_toDigits (by decide) (by decide) member

end KernelSweep.Text
