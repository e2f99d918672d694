import KernelSweep.Path
import KernelSweep.Proofs.Text.Lines

set_option autoImplicit false

namespace KernelSweep.Path

/-- The name of an entry: it neither stays in its directory nor leaves it, and goes down one step
only. -/
structure IsEntry (name : String) : Prop where
  named : name ≠ ""
  here : name ≠ "."
  up : name ≠ ".."
  single : '/' ∉ name.toList

/-- No component but entries, behind steps upward that only a relative path has; last component
first. -/
def IsNormalStack (rooted : Bool) (stack : List String) : Prop :=
  ∃ entries ups, stack = entries ++ ups ∧ (∀ part ∈ entries, IsEntry part) ∧
    (∀ part ∈ ups, part = "..") ∧ (rooted = true → ups = [])

/-- The components of a path in normal form. -/
def IsNormal (rooted : Bool) (parts : List String) : Prop := IsNormalStack rooted parts.reverse

theorem slash_eq : "/" = String.singleton '/' := rfl

section Push

variable {rooted : Bool} {stack : List String} {part : String}

theorem push_of_stays (stays : part = "" ∨ part = ".") : push rooted stack part = stack :=
  if_pos stays

theorem push_of_isEntry (entry : IsEntry part) : push rooted stack part = part :: stack := by
  have leaves : ¬ (part = "" ∨ part = ".") := not_or.mpr ⟨entry.named, entry.here⟩
  exact (if_neg leaves).trans (if_neg entry.up)

theorem push_up_of_isEntry (entry : IsEntry part) : push rooted (part :: stack) ".." = stack :=
  if_neg entry.up

theorem push_up_nil : push rooted [] ".." = if rooted then [] else [".."] := rfl

theorem push_up_up : push rooted (".." :: stack) ".." = ".." :: ".." :: stack := rfl

/-- A step upward takes the last entry away. Without one it stays, or is lost at the root. -/
theorem IsNormalStack.push_up (normal : IsNormalStack rooted stack) :
    IsNormalStack rooted (push rooted stack "..") := by
  obtain ⟨entries, ups, rfl, plain, up, low⟩ := normal
  cases entries with
  | cons top below =>
    obtain ⟨entry, others⟩ := List.forall_mem_cons.mp plain
    rw [List.cons_append, push_up_of_isEntry entry]
    exact ⟨below, ups, rfl, others, up, low⟩
  | nil =>
    rw [List.nil_append]
    cases ups with
    | nil =>
      rw [push_up_nil]
      cases rooted with
      | true => exact ⟨[], [], rfl, plain, up, low⟩
      | false => exact ⟨[], [".."], rfl, plain, by simp, by simp⟩
    | cons top below =>
      obtain ⟨rfl, others⟩ := List.forall_mem_cons.mp up
      rw [push_up_up]
      cases rooted with
      | true => cases low rfl
      | false => exact ⟨[], ".." :: ".." :: below, rfl, plain, by simpa using others, by simp⟩

theorem IsNormalStack.push (normal : IsNormalStack rooted stack) (single : '/' ∉ part.toList) :
    IsNormalStack rooted (push rooted stack part) := by
  by_cases stays : part = "" ∨ part = "."
  · rw [push_of_stays stays]
    exact normal
  · by_cases up : part = ".."
    · rw [up]
      exact normal.push_up
    · rw [not_or] at stays
      have entry : IsEntry part := ⟨stays.1, stays.2, up, single⟩
      obtain ⟨entries, ups, rfl, plain, steps, low⟩ := normal
      rw [push_of_isEntry entry]
      exact ⟨part :: entries, ups, rfl, List.forall_mem_cons.mpr ⟨entry, plain⟩, steps, low⟩

theorem IsNormalStack.foldl {parts : List String} (normal : IsNormalStack rooted stack)
    (single : ∀ part ∈ parts, '/' ∉ part.toList) :
    IsNormalStack rooted (parts.foldl (Path.push rooted) stack) := by
  induction parts generalizing stack with
  | nil => exact normal
  | cons part rest ih =>
    obtain ⟨here, later⟩ := List.forall_mem_cons.mp single
    exact ih (normal.push here) later

/-- Steps upward at the front of a relative path are kept. -/
theorem foldl_ups {ups below : List String} (up : ∀ part ∈ ups, part = "..")
    (bottom : ∀ part ∈ below, part = "..") :
    ups.foldl (push false) below = ups.reverse ++ below := by
  induction ups generalizing below with
  | nil => rfl
  | cons part rest ih =>
    obtain ⟨rfl, later⟩ := List.forall_mem_cons.mp up
    have pushed : push false below ".." = ".." :: below := by
      cases below with
      | nil => rfl
      | cons top others =>
        rw [(List.forall_mem_cons.mp bottom).1]
        rfl
    rw [List.foldl_cons, pushed, ih later (List.forall_mem_cons.mpr ⟨rfl, bottom⟩),
      List.reverse_cons, List.append_assoc, List.singleton_append]

theorem foldl_entries {entries : List String} (plain : ∀ part ∈ entries, IsEntry part) :
    entries.foldl (push rooted) stack = entries.reverse ++ stack := by
  induction entries generalizing stack with
  | nil => rfl
  | cons part rest ih =>
    obtain ⟨here, later⟩ := List.forall_mem_cons.mp plain
    rw [List.foldl_cons, push_of_isEntry here, ih later, List.reverse_cons, List.append_assoc,
      List.singleton_append]

end Push

section Normal

variable {rooted : Bool} {parts : List String}

theorem isNormal_components (path : String) : IsNormal (isRooted path) (components path) := by
  have empty : IsNormalStack (isRooted path) [] := ⟨[], [], rfl, by simp, by simp, fun _ => rfl⟩
  rw [IsNormal, components, List.reverse_reverse]
  exact empty.foldl fun part member => Text.not_mem_of_mem_split member

/-- A normal list has nothing to collapse. -/
theorem IsNormal.foldl_push (normal : IsNormal rooted parts) :
    parts.foldl (push rooted) [] = parts.reverse := by
  obtain ⟨entries, ups, split, plain, up, low⟩ := normal
  have order : parts = ups.reverse ++ entries.reverse := by
    rw [← List.reverse_append, ← split, List.reverse_reverse]
  have bottom : ups.reverse.foldl (push rooted) [] = ups := by
    cases rooted with
    | true =>
      rw [low rfl]
      rfl
    | false =>
      rw [foldl_ups (by simpa using up) (by simp), List.reverse_reverse, List.append_nil]
  rw [split, order, List.foldl_append, bottom, foldl_entries (by simpa using plain),
    List.reverse_reverse]

theorem IsNormal.mem {part : String} (normal : IsNormal rooted parts) (member : part ∈ parts) :
    part ≠ "" ∧ part ≠ "." ∧ '/' ∉ part.toList := by
  obtain ⟨entries, ups, split, plain, up, -⟩ := normal
  have listed : part ∈ entries ++ ups := split ▸ List.mem_reverse.mpr member
  rcases List.mem_append.mp listed with entry | step
  · exact ⟨(plain part entry).named, (plain part entry).here, (plain part entry).single⟩
  · rw [up part step]
    decide

theorem IsNormal.concat {name : String} (normal : IsNormal rooted parts) (entry : IsEntry name) :
    IsNormal rooted (parts ++ [name]) := by
  obtain ⟨entries, ups, split, plain, up, low⟩ := normal
  rw [IsNormal, List.reverse_append, split]
  exact ⟨name :: entries, ups, rfl, List.forall_mem_cons.mpr ⟨entry, plain⟩, up, low⟩

end Normal

section Render

variable {rooted : Bool} {parts : List String}

/-- The first component is not empty and no slash, so the text begins with another character. -/
theorem IsNormal.head_join (normal : IsNormal rooted parts) (filled : parts ≠ []) :
    ∃ first, (Text.join "/" parts).toList.head? = some first ∧ first ≠ '/' := by
  obtain ⟨part, rest, rfl⟩ := List.exists_cons_of_ne_nil filled
  obtain ⟨behind, joined⟩ := Text.join_cons "/" part rest
  obtain ⟨solid, -, single⟩ := normal.mem List.mem_cons_self
  obtain ⟨first, others, chars⟩ :=
    List.exists_cons_of_ne_nil fun empty => solid (String.toList_eq_nil_iff.mp empty)
  refine ⟨first, ?_, ?_⟩
  · rw [joined, String.toList_append, chars]
    rfl
  · rintro rfl
    exact single (chars ▸ List.mem_cons_self)

theorem render_of_filled (rooted : Bool) (filled : parts ≠ []) :
    render rooted parts = (if rooted then "/" else "") ++ Text.join "/" parts := by
  cases rooted with
  | true => rfl
  | false => simp [render, filled]

theorem IsNormal.isRooted_render (normal : IsNormal rooted parts) :
    isRooted (render rooted parts) = rooted := by
  by_cases empty : parts = []
  · subst empty
    cases rooted <;> rfl
  · obtain ⟨first, head, apart⟩ := normal.head_join empty
    rw [render_of_filled rooted empty, isRooted, String.toList_append]
    cases rooted with
    | true => rfl
    | false => simpa [head] using apart

theorem IsNormal.components_render (normal : IsNormal rooted parts) :
    components (render rooted parts) = parts := by
  by_cases empty : parts = []
  · subst empty
    cases rooted <;> rfl
  · have pieces : Text.split '/' (Text.join "/" parts) = parts :=
      Text.split_join empty fun part member => (normal.mem member).2.2
    -- The root is an empty piece in front, and pushing that does nothing.
    have folded : (Text.split '/' (render rooted parts)).foldl (push rooted) [] =
        parts.foldl (push rooted) [] := by
      rw [render_of_filled rooted empty]
      cases rooted with
      | true =>
        have shown : "/" ++ Text.join "/" parts =
            "" ++ String.singleton '/' ++ Text.join "/" parts := rfl
        rw [if_pos rfl, shown, Text.split_append, pieces]
        rfl
      | false => rw [if_neg Bool.false_ne_true, String.empty_append, pieces]
    rw [components, normal.isRooted_render, folded, normal.foldl_push, List.reverse_reverse]

/-- A path without components is the root or the current directory. -/
theorem clean_ne_empty (path : String) : clean path ≠ "" := by
  intro nothing
  have normal := isNormal_components path
  have empty := normal.components_render
  have rooted := normal.isRooted_render
  rw [clean] at nothing
  rw [nothing] at empty rooted
  rw [← empty, ← rooted] at nothing
  exact absurd nothing (by decide)

/-- What is in normal form stays as it is. -/
theorem clean_clean (path : String) : clean (clean path) = clean path := by
  have normal := isNormal_components path
  rw [clean, clean, normal.isRooted_render, normal.components_render]

end Render

/-- An entry of a directory given in normal form. The current directory is left out, and the root
ends with the slash it is. -/
def below (dir name : String) : String :=
  if dir = "." then name else if dir = "/" then "/" ++ name else dir ++ "/" ++ name

theorem IsNormal.render_concat {rooted : Bool} {parts : List String}
    (normal : IsNormal rooted parts) (name : String) :
    render rooted (parts ++ [name]) = below (render rooted parts) name := by
  by_cases empty : parts = []
  · subst empty
    cases rooted <;> rfl
  · have same := normal.components_render
    have notHere : render rooted parts ≠ "." := by
      intro here
      rw [here] at same
      exact empty same.symm
    have notRoot : render rooted parts ≠ "/" := by
      intro root
      rw [root] at same
      exact empty same.symm
    rw [below, if_neg notHere, if_neg notRoot, render_of_filled rooted (by simp),
      render_of_filled rooted empty, Text.join_concat "/" empty]
    simp only [String.append_assoc]

section Join

variable {dir name : String}

theorem isRooted_of_single (single : '/' ∉ name.toList) : isRooted name = false := by
  rw [isRooted, beq_eq_false_iff_ne]
  intro first
  exact single (List.mem_of_head? first)

theorem components_of_isEntry (entry : IsEntry name) : components name = [name] := by
  rw [components, Text.split_of_apart entry.single, List.foldl_cons, push_of_isEntry entry]
  rfl

theorem isRooted_append (filled : dir ≠ "") (text : String) :
    isRooted (dir ++ text) = isRooted dir := by
  obtain ⟨first, rest, chars⟩ :=
    List.exists_cons_of_ne_nil fun empty => filled (String.toList_eq_nil_iff.mp empty)
  rw [isRooted, isRooted, String.toList_append, chars]
  rfl

theorem components_append (filled : dir ≠ "") (entry : IsEntry name) :
    components (dir ++ "/" ++ name) = components dir ++ [name] := by
  have rooted : isRooted (dir ++ "/" ++ name) = isRooted dir := by
    rw [String.append_assoc, isRooted_append filled]
  rw [components, rooted, slash_eq, Text.split_append, Text.split_of_apart entry.single,
    List.foldl_append, List.foldl_cons, push_of_isEntry entry, List.foldl_nil, List.reverse_cons]
  rfl

/-- An entry goes to the end of whatever the directory comes to. -/
theorem join_of_isEntry (dir : String) (entry : IsEntry name) :
    join dir name = render (isRooted dir) (components dir ++ [name]) := by
  by_cases empty : dir = ""
  · subst empty
    rw [join, if_pos rfl, if_neg entry.named, clean, isRooted_of_single entry.single,
      components_of_isEntry entry]
    rfl
  · rw [join, if_neg empty, clean, components_append empty entry, String.append_assoc,
      isRooted_append empty]

theorem join_eq_below (dir : String) (entry : IsEntry name) :
    join dir name = below (clean dir) name := by
  rw [join_of_isEntry dir entry, (isNormal_components dir).render_concat]
  rfl

theorem components_join (dir : String) (entry : IsEntry name) :
    components (join dir name) = components dir ++ [name] := by
  rw [join_of_isEntry dir entry]
  exact ((isNormal_components dir).concat entry).components_render

theorem clean_join (dir : String) (entry : IsEntry name) :
    clean (join dir name) = join dir name := by
  unfold join
  split
  · rw [if_neg entry.named, clean_clean]
  · exact clean_clean _

theorem isRooted_join (dir : String) (entry : IsEntry name) :
    isRooted (join dir name) = isRooted dir := by
  rw [join_of_isEntry dir entry]
  exact ((isNormal_components dir).concat entry).isRooted_render

end Join

theorem below_inj {dir name other : String} : below dir name = below dir other ↔ name = other := by
  unfold below
  split
  · exact Iff.rfl
  · split <;> exact String.append_right_inj _

end KernelSweep.Path
