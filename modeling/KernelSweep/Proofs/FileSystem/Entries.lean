import KernelSweep.Proofs.FileSystem.Removal
import KernelSweep.Proofs.Path
import KernelSweep.Proofs.Success

set_option autoImplicit false

namespace KernelSweep.FileSystem

open KernelSweep.Path (IsEntry)

/-- The location of an entry of the directory that a path leads to. -/
def IsEntryAt (files : FileSystem) (dir name : String) (loc : Location) : Prop :=
  ∃ parent, files.resolve dir = .ok parent ∧ files.node? parent = some .directory ∧
    loc = parent ++ [name]

theorem walk_append (files : FileSystem) (start : Location) (front back : List String) :
    files.walk start (front ++ back) =
      files.walk start front >>= fun loc => files.walk loc back := by
  induction front generalizing start with
  | nil => rfl
  | cons part rest ih =>
    rw [List.cons_append, walk, walk]
    split_ifs
    · rfl
    · rfl
    · exact ih start
    · exact ih start.dropLast
    · rfl
    · exact ih (start ++ [part])

variable {files : FileSystem} {loc : Location} {path dir name : String}

theorem walk_entry {parent : Location} (entry : IsEntry name)
    (walked : files.walk parent [name] = .ok loc) :
    files.node? parent = some .directory ∧ loc = parent ++ [name] := by
  have leaves : ¬ (name = "" ∨ name = ".") := not_or.mpr ⟨entry.named, entry.here⟩
  rw [walk] at walked
  cases stands : files.node? parent with
  | none => simp [stands] at walked
  | some node =>
    rw [stands] at walked
    cases node with
    | directory =>
      rw [if_neg (by decide), if_neg (by decide), if_neg leaves, if_neg entry.up] at walked
      split at walked
      · cases walked
      · cases walked
        exact ⟨rfl, rfl⟩
    | file content mode => cases walked
    | program called => cases walked
    | sink => cases walked

/-- A text that is followed as a path at all. -/
def IsFollowed (path : String) : Prop :=
  path ≠ "" ∧ '\x00' ∉ path.toList ∧ path.utf8ByteSize < pathLimit

/-- Where a path starts. -/
def start (files : FileSystem) (path : String) : Location :=
  if Path.isRooted path then [] else files.current

theorem any_zero_iff : path.toList.any (· == '\x00') = true ↔ '\x00' ∈ path.toList := by
  simp

theorem isFollowed_of_resolve (resolved : files.resolve path = .ok loc) : IsFollowed path := by
  unfold resolve at resolved
  split_ifs at resolved with empty zero long
  all_goals exact ⟨empty, mt any_zero_iff.mpr zero, Nat.lt_of_not_le long⟩

theorem resolve_of_isFollowed (files : FileSystem) (followed : IsFollowed path) :
    files.resolve path = files.walk (files.start path) (Text.split '/' path) := by
  obtain ⟨filled, noZero, short⟩ := followed
  rw [resolve, if_neg filled, if_neg (mt any_zero_iff.mp noZero), if_neg (Nat.not_le.mpr short)]
  rfl

/-- A path that another one begins is followed if that one is. -/
theorem IsFollowed.of_append {behind : String} (followed : IsFollowed (dir ++ behind))
    (filled : dir ≠ "") : IsFollowed dir := by
  obtain ⟨-, noZero, short⟩ := followed
  rw [String.toList_append] at noZero
  rw [String.utf8ByteSize_append] at short
  exact ⟨filled, fun zero => noZero (List.mem_append_left _ zero),
    Nat.lt_of_le_of_lt (Nat.le_add_right ..) short⟩

theorem isEntryAt_here (entry : IsEntry name) (resolved : files.resolve name = .ok loc) :
    files.IsEntryAt "." name loc := by
  rw [resolve_of_isFollowed files (isFollowed_of_resolve resolved), start,
    Path.isRooted_of_single entry.single, if_neg Bool.false_ne_true,
    Text.split_of_apart entry.single] at resolved
  obtain ⟨stands, placed⟩ := walk_entry entry resolved
  refine ⟨files.current, ?_, stands, placed⟩
  have here : files.resolve "." = files.walk files.current ["."] := rfl
  rw [here, walk, stands]
  rfl

theorem isEntryAt_root (entry : IsEntry name) (resolved : files.resolve ("/" ++ name) = .ok loc) :
    files.IsEntryAt "/" name loc := by
  have pieces : Text.split '/' ("/" ++ name) = ["", name] := by
    have shown : "/" ++ name = "" ++ String.singleton '/' ++ name := rfl
    rw [shown, Text.split_append, Text.split_of_apart entry.single]
    rfl
  rw [resolve_of_isFollowed files (isFollowed_of_resolve resolved), pieces, start,
    Path.isRooted_append (by decide)] at resolved
  obtain ⟨stands, placed⟩ := walk_entry entry resolved
  exact ⟨[], rfl, stands, placed⟩

theorem isEntryAt_append (filled : dir ≠ "") (entry : IsEntry name)
    (resolved : files.resolve (dir ++ "/" ++ name) = .ok loc) :
    files.IsEntryAt dir name loc := by
  have followed := isFollowed_of_resolve resolved
  rw [String.append_assoc] at followed
  rw [resolve_of_isFollowed files (isFollowed_of_resolve resolved), start, String.append_assoc,
    Path.isRooted_append filled, ← String.append_assoc, Path.slash_eq, Text.split_append,
    Text.split_of_apart entry.single, walk_append] at resolved
  obtain ⟨parent, walked, step⟩ := Success.bind_eq_ok.mp resolved
  obtain ⟨stands, placed⟩ := walk_entry entry step
  exact ⟨parent, (resolve_of_isFollowed files (followed.of_append filled)).trans walked, stands,
    placed⟩

theorem isEntryAt_below (filled : dir ≠ "") (entry : IsEntry name)
    (resolved : files.resolve (Path.below dir name) = .ok loc) : files.IsEntryAt dir name loc := by
  unfold Path.below at resolved
  split_ifs at resolved with here root
  · rw [here]
    exact isEntryAt_here entry resolved
  · rw [root]
    exact isEntryAt_root entry resolved
  · exact isEntryAt_append filled entry resolved

end KernelSweep.FileSystem
