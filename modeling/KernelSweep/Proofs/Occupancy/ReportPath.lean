import KernelSweep.Proofs.FileSystem.Entries
import KernelSweep.Proofs.Occupancy.Store

set_option autoImplicit false

namespace KernelSweep.Occupancy

variable {files : FileSystem} {path dir kernel : String}

/-- The ending makes an entry of every name, dots and the empty name included. -/
theorem isEntry_report (single : '/' ∉ kernel.toList) : Path.IsEntry (kernel ++ ".txt") := by
  have differs (text : String) (short : text.length < 4) : kernel ++ ".txt" ≠ text := by
    intro same
    have long : 4 ≤ (kernel ++ ".txt").length := by
      rw [String.length_append]
      exact Nat.le_add_left _ _
    rw [same] at long
    exact absurd short (Nat.not_lt.mpr long)
  refine ⟨differs "" (by decide), differs "." (by decide), differs ".." (by decide), ?_⟩
  rw [String.toList_append, List.mem_append]
  rintro (member | member)
  · exact single member
  · exact absurd member (by decide)

/-- What is taken for a report is the content of a regular file. -/
theorem file_of_load {r : Record} (loaded : load files path = .ok (some r)) :
    ∃ loc content mode, files.find path = .ok (loc, .file content mode) ∧
      Record.parse content = .ok r := by
  have read : readReport files path = .ok r := by
    unfold load at loaded
    split at loaded
    · rename_i other report
      cases loaded
      exact report
    · split at loaded <;> cases loaded
  unfold readReport at read
  split at read
  · cases read
  · rename_i content opened
    have parsed : Record.parse content = .ok r := by
      split at read
      · cases read
      · rename_i other report
        cases read
        exact report
    unfold FileSystem.read at opened
    split at opened
    · cases opened
    · cases opened
    · rename_i loc bytes mode found
      cases opened
      exact ⟨loc, content, mode, found, parsed⟩
    -- A program or a sink is read as nothing, which is no report.
    all_goals
      cases opened
      cases parsed

/-- Discarding erases what the path leads to, or nothing at all. -/
theorem erased_of_discard {left : FileSystem} (discarded : discard files path = .ok left) :
    left = files ∨ ∃ loc, files.resolve path = .ok loc ∧ left = files.erase loc := by
  unfold discard at discarded
  split at discarded
  · rename_i removed erased
    cases discarded
    unfold FileSystem.remove at erased
    split at erased
    · cases erased
    · rename_i loc found
      split at erased
      · cases erased
      · cases erased
        exact .inr ⟨loc, (FileSystem.resolve_of_find found).1, rfl⟩
    · rename_i loc node _ found
      cases erased
      exact .inr ⟨loc, (FileSystem.resolve_of_find found).1, rfl⟩
  · split at discarded
    · cases discarded
      exact .inl rfl
    · cases discarded

/-- Nothing but the entry for the kernel in the directory is read or erased. -/
structure StaysIn (files : FileSystem) (dir kernel : String) : Prop where
  reads : ∀ r, load files (reportPath dir kernel) = .ok (some r) →
    ∃ loc content mode, files.IsEntryAt (Path.clean dir) (kernel ++ ".txt") loc ∧
      files.node? loc = some (.file content mode) ∧ Record.parse content = .ok r
  discards : ∀ left, discard files (reportPath dir kernel) = .ok left →
    ∀ other, ¬ files.IsEntryAt (Path.clean dir) (kernel ++ ".txt") other →
      left.node? other = files.node? other

theorem reportPath_eq_below (dir : String) (single : '/' ∉ kernel.toList) :
    reportPath dir kernel = Path.below (Path.clean dir) (kernel ++ ".txt") :=
  Path.join_eq_below dir (isEntry_report single)

theorem staysIn_of_single (files : FileSystem) (dir : String) (single : '/' ∉ kernel.toList) :
    StaysIn files dir kernel := by
  have entry := isEntry_report single
  have placed : ∀ loc, files.resolve (reportPath dir kernel) = .ok loc →
      files.IsEntryAt (Path.clean dir) (kernel ++ ".txt") loc := by
    intro loc resolved
    rw [reportPath_eq_below dir single] at resolved
    exact FileSystem.isEntryAt_below (Path.clean_ne_empty dir) entry resolved
  refine ⟨?_, ?_⟩
  · intro r loaded
    obtain ⟨loc, content, mode, found, parsed⟩ := file_of_load loaded
    obtain ⟨resolved, there⟩ := FileSystem.resolve_of_find found
    exact ⟨loc, content, mode, placed loc resolved, there, parsed⟩
  · intro left discarded other elsewhere
    rcases erased_of_discard discarded with rfl | ⟨loc, resolved, rfl⟩
    · rfl
    · apply FileSystem.node?_erase_of_ne
      rintro rfl
      exact elsewhere (placed other resolved)

/-- The report of a kernel is the entry of its name and the ending, right below the directory in
normal form; nothing else is read or erased for it, and no other kernel has the same. -/
theorem reports_are_entries (dir kernel : String) (single : '/' ∉ kernel.toList) :
    reportPath dir kernel = Path.below (Path.clean dir) (kernel ++ ".txt") ∧
      (dir = "" ∨ Path.clean dir = "." → reportPath dir kernel = kernel ++ ".txt") ∧
      Path.components (reportPath dir kernel) = Path.components dir ++ [kernel ++ ".txt"] ∧
      Path.isRooted (reportPath dir kernel) = Path.isRooted dir ∧
      Path.clean (reportPath dir kernel) = reportPath dir kernel ∧
      (∀ files, StaysIn files dir kernel) ∧
      ∀ other, '/' ∉ other.toList → (reportPath dir kernel = reportPath dir other ↔
        kernel = other) := by
  have entry := isEntry_report single
  refine ⟨reportPath_eq_below dir single, ?_, Path.components_join dir entry,
    Path.isRooted_join dir entry, Path.clean_join dir entry,
    fun files => staysIn_of_single files dir single, ?_⟩
  · rintro (rfl | here)
    · rw [reportPath_eq_below "" single]
      rfl
    · rw [reportPath_eq_below dir single, here]
      rfl
  · intro other apart
    rw [reportPath_eq_below dir single, reportPath_eq_below dir apart, Path.below_inj,
      String.append_left_inj]

/-- A report of a kernel whose name looks like the directory above. -/
def dottedFiles : FileSystem :=
  FileSystem.standard.insert ["tmp", "...txt"]
    (.file (Text.encode "smem 0\nblocksize 512\noccupancy 1\n") 0o644)

/-- Names of dots do not lead out of a directory either, and neither do the detours of its path. -/
theorem dots_are_entries :
    '/' ∉ "..".toList ∧ '/' ∉ ".".toList ∧
      reportPath "//tmp/./x/.." ".." = "/tmp/...txt" ∧
      load dottedFiles (reportPath "//tmp/./x/.." "..") = .ok (some ⟨0, 512, .ofInt 1⟩) ∧
      StaysIn dottedFiles "//tmp/./x/.." ".." ∧
      (reportPath "//tmp/./x/.." ".." = reportPath "//tmp/./x/.." "." ↔ ".." = ".") ∧
      reportPath "" ".." = "...txt" ∧ Path.clean "x/.." = "." ∧
      reportPath "x/.." ".." = "...txt" := by
  have two : '/' ∉ "..".toList := by decide
  have one : '/' ∉ ".".toList := by decide
  obtain ⟨placed, -, -, -, -, stays, apart⟩ := reports_are_entries "//tmp/./x/.." ".." two
  have here : Path.clean "x/.." = "." := by decide +kernel
  refine ⟨two, one, ?_, ?_, stays dottedFiles, apart "." one,
    (reports_are_entries "" ".." two).2.1 (.inl rfl), here,
    (reports_are_entries "x/.." ".." two).2.1 (.inr here)⟩
  · rw [placed]
    decide +kernel
  · decide +kernel

end KernelSweep.Occupancy
