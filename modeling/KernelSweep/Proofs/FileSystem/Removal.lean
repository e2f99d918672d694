import KernelSweep.FileSystem
import Mathlib.Tactic.SplitIfs

set_option autoImplicit false

namespace KernelSweep.FileSystem

/-- The content of the regular file at a path. -/
def contentAt (files : FileSystem) (path : String) : Option (List UInt8) :=
  match files.find path with
  | .ok (_, .file content _) => some content
  | _ => none

/-- Nothing is at the path, or a regular file. -/
def isRemovable (files : FileSystem) (path : String) : Bool :=
  match files.find path with
  | .error cause => cause == .notFound
  | .ok (_, .file _ _) => true
  | .ok _ => false

theorem contentAt_of_notFound {files : FileSystem} {path : String}
    (absent : files.find path = .error .notFound) : files.contentAt path = none := by
  rw [contentAt, absent]

theorem contentAt_of_file {files : FileSystem} {path : String} {loc : Location}
    {content : List UInt8} {mode : Nat} (found : files.find path = .ok (loc, .file content mode)) :
    files.contentAt path = some content := by
  rw [contentAt, found]

theorem isRemovable_iff {files : FileSystem} {path : String} :
    files.isRemovable path = true ↔ files.find path = .error .notFound ∨
      ∃ loc content mode, files.find path = .ok (loc, .file content mode) := by
  unfold isRemovable
  cases files.find path with
  | error cause => simp
  | ok found =>
    obtain ⟨loc, node⟩ := found
    cases node <;> simp

theorem find_of_resolved {files : FileSystem} {path : String} {loc : Location}
    (resolved : files.resolve path = .ok loc) :
    files.find path =
      (files.node? loc).elim (.error .notFound) fun node => .ok (loc, node) := by
  simp only [find, resolved]
  cases files.node? loc <;> rfl

theorem resolve_of_find {files : FileSystem} {path : String} {loc : Location} {node : Node}
    (found : files.find path = .ok (loc, node)) :
    files.resolve path = .ok loc ∧ files.node? loc = some node := by
  unfold find at found
  split at found
  · cases found
  · rename_i place resolved
    split at found
    · rename_i there
      cases found
      exact ⟨resolved, there⟩
    · cases found

section Erase

variable {files : FileSystem} {loc : Location}

theorem lookup_erase_of_ne {other : Location} (apart : other ≠ loc) :
    (files.erase loc).nodes.lookup other = files.nodes.lookup other := by
  simp only [erase]
  induction files.nodes with
  | nil => rfl
  | cons entry rest ih =>
    obtain ⟨place, node⟩ := entry
    by_cases here : place = loc
    · have skipped : (other == place) = false := by simpa [here] using apart
      rw [List.filter_cons_of_neg (by simp [here]), ih, List.lookup_cons, skipped]
    · rw [List.filter_cons_of_pos (by simp [here]), List.lookup_cons, List.lookup_cons, ih]

theorem node?_erase_self (below : loc ≠ []) : (files.erase loc).node? loc = none := by
  rw [node?, if_neg below, List.lookup_eq_none_iff]
  intro entry member
  have kept : (entry.1 != loc) = true := (List.mem_filter.mp member).2
  rw [bne_comm] at kept
  simpa using kept

theorem node?_erase_of_ne {other : Location} (apart : other ≠ loc) :
    (files.erase loc).node? other = files.node? other := by
  rw [node?, node?, lookup_erase_of_ne apart]

variable {node : Node} (present : files.node? loc = some node) (plain : node.isDirectory = false)
include present plain

theorem ne_root_of_plain : loc ≠ [] := by
  rintro rfl
  obtain rfl : Node.directory = node := Option.some.inj present
  cases plain

/-- No walk leads through what is no directory, so none misses it. -/
theorem walk_erase (parts : List String) (start : Location)
    (passes : files.walk start parts ≠ .error .notDirectory) :
    (files.erase loc).walk start parts = files.walk start parts := by
  induction parts generalizing start with
  | nil => rfl
  | cons part rest ih =>
    -- With a component left, a walk that stands at `loc` ends there.
    have apart : start ≠ loc := by
      rintro rfl
      apply passes
      simp only [walk, present, Option.map_some, plain, BEq.rfl, ↓reduceIte]
    rw [walk] at passes ⊢
    rw [walk, node?_erase_of_ne apart]
    split_ifs at passes ⊢
    · rfl
    · rfl
    · exact ih start passes
    · exact ih start.dropLast passes
    · rfl
    · exact ih (start ++ [part]) passes

theorem resolve_erase {path : String} (passes : files.resolve path ≠ .error .notDirectory) :
    (files.erase loc).resolve path = files.resolve path := by
  unfold resolve at passes ⊢
  split_ifs at passes ⊢
  · rfl
  · rfl
  · rfl
  · exact walk_erase present plain _ _ passes
  · exact walk_erase present plain _ _ passes

theorem find_erase_self {path : String} (resolved : files.resolve path = .ok loc) :
    (files.erase loc).find path = .error .notFound := by
  have same : (files.erase loc).resolve path = .ok loc := by
    rw [resolve_erase present plain (by simp [resolved]), resolved]
  rw [find_of_resolved same, node?_erase_self (ne_root_of_plain present plain), Option.elim_none]

theorem find_erase_of_ne {path : String} (passes : files.resolve path ≠ .error .notDirectory)
    (apart : files.resolve path ≠ .ok loc) : (files.erase loc).find path = files.find path := by
  have same := resolve_erase present plain passes
  cases resolved : files.resolve path with
  | error cause => simp only [find, same, resolved]
  | ok other =>
    rw [resolved] at same apart
    rw [find_of_resolved same, find_of_resolved resolved,
      node?_erase_of_ne fun meet => apart (by rw [meet])]

/-- What can be removed still can be once another file is gone, or is gone with it. -/
theorem isRemovable_erase {path : String} (removable : files.isRemovable path = true) :
    (files.erase loc).isRemovable path = true := by
  by_cases here : files.resolve path = .ok loc
  · exact isRemovable_iff.mpr (.inl (find_erase_self present plain here))
  · have passes : files.resolve path ≠ .error .notDirectory := by
      intro blocked
      simp [isRemovable, find, blocked] at removable
    rwa [isRemovable, find_erase_of_ne present plain passes here]

end Erase

end KernelSweep.FileSystem
