import KernelSweep.Occupancy.Store
import KernelSweep.Proofs.FileSystem.Removal

set_option autoImplicit false

namespace KernelSweep.Occupancy

variable {files : FileSystem} {path : String}

/-- What the content of a report is read as. -/
def readContent (path : String) (content : Option (List UInt8)) :
    Except StoreError (Option Record) :=
  match content with
  | none => .ok none
  | some bytes => ((Record.parse bytes).mapError (.record path)).map some

/-- The record a report holds, if it is there and can be read. -/
def recordIn (content : Option (List UInt8)) : Option Record :=
  content.bind fun bytes => (Record.parse bytes).toOption

theorem load_of_notFound (absent : files.find path = .error .notFound) :
    load files path = .ok none := by
  simp only [load, readReport, FileSystem.read, absent]
  rfl

theorem load_of_removable (removable : files.isRemovable path = true) :
    load files path = readContent path (files.contentAt path) := by
  rcases FileSystem.isRemovable_iff.mp removable with absent | ⟨loc, bytes, mode, present⟩
  · rw [FileSystem.contentAt_of_notFound absent]
    exact load_of_notFound absent
  · rw [FileSystem.contentAt_of_file present]
    simp only [load, readReport, FileSystem.read, present, readContent]
    cases Record.parse bytes <;> rfl

/-- Discarding succeeds, leaves nothing at the path, and puts nothing in the way of another. -/
theorem discard_of_removable (removable : files.isRemovable path = true) :
    ∃ left, discard files path = .ok left ∧ left.find path = .error .notFound ∧
      ∀ other, files.isRemovable other = true → left.isRemovable other = true := by
  rcases FileSystem.isRemovable_iff.mp removable with absent | ⟨loc, bytes, mode, present⟩
  · refine ⟨files, ?_, absent, fun _ still => still⟩
    simp only [discard, FileSystem.remove, absent, ↓reduceIte]
  · obtain ⟨resolved, there⟩ := FileSystem.resolve_of_find present
    refine ⟨files.erase loc, ?_, FileSystem.find_erase_self there rfl resolved,
      fun _ still => FileSystem.isRemovable_erase there rfl still⟩
    simp only [discard, FileSystem.remove, present]

end KernelSweep.Occupancy
