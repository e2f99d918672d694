import KernelSweep.Proofs.FileSystem.Removal
import KernelSweep.Proofs.Report.Store
import KernelSweep.Proofs.Text.Utf8
import KernelSweep.Report.Database

set_option autoImplicit false

namespace KernelSweep

namespace FileSystem

variable {files : FileSystem} {loc : Location} {node : Node}

theorem node?_insert_self (below : loc ≠ []) : (files.insert loc node).node? loc = some node := by
  simp [node?, insert, below]

theorem node?_insert_of_ne {other : Location} (apart : other ≠ loc) :
    (files.insert loc node).node? other = files.node? other := by
  have skipped : (other == loc) = false := by simpa using apart
  simp only [node?, insert, List.lookup_cons, skipped, lookup_erase_of_ne apart]

/-- A path that leads to a place without a directory leads there when a file is put there. -/
theorem walk_insert (plain : files.node? loc ≠ some .directory) (parts : List String)
    (start : Location) (reached : files.walk start parts = .ok loc) :
    (files.insert loc node).walk start parts = .ok loc := by
  induction parts generalizing start with
  | nil => exact reached
  | cons part rest ih =>
    rw [walk] at reached ⊢
    split_ifs at reached with isFile absent same up long
    all_goals
      -- Where the path goes on there is a directory, so it is not the place in question.
      have apart : start ≠ loc := by
        rintro rfl
        cases there : files.node? start with
        | none => exact absent (by rw [there]; rfl)
        | some found =>
          rw [there] at isFile plain
          cases found <;> simp_all [Node.isDirectory]
      rw [node?_insert_of_ne apart, if_neg isFile, if_neg absent]
    · rw [if_pos same]
      exact ih start reached
    · rw [if_neg same, if_pos up]
      exact ih _ reached
    · rw [if_neg same, if_neg up, if_neg long]
      exact ih _ reached

theorem resolve_insert {path : String} (plain : files.node? loc ≠ some .directory)
    (resolved : files.resolve path = .ok loc) : (files.insert loc node).resolve path = .ok loc := by
  unfold resolve at resolved ⊢
  split_ifs at resolved ⊢ with empty zero long rooted
  · exact walk_insert plain _ _ resolved
  · exact walk_insert plain _ files.current resolved

end FileSystem

namespace ResultStore.Disk

variable {d : Disk} {address : String} {loc : Location} {stored : StoredTable}

theorem exists_of_locate {found : Option StoredTable}
    (located : d.locate address = .ok ⟨some loc, true, found⟩) :
    ∃ a path, Address.parse address = .ok a ∧ a.file = some path ∧
      d.locateFile a path = .ok ⟨some loc, true, found⟩ := by
  unfold locate at located
  cases parsed : Address.parse address with
  | error e =>
    rw [parsed] at located
    cases located
  | ok a =>
    cases file : a.file with
    | none => simp [parsed, file] at located
    | some path => exact ⟨a, path, rfl, file, by simpa [parsed, file] using located⟩

theorem locate_of_file {a : Address} {path : String} (parsed : Address.parse address = .ok a)
    (file : a.file = some path) : d.locate address = d.locateFile a path := by
  simp only [locate, parsed, file]

/-- What was found on the way to a database that can be written. -/
structure Found (d : Disk) (a : Address) (path : String) (loc : Location)
    (found : Option StoredTable) : Prop where
  resolved : d.files.resolve path = .ok loc
  mayWrite : a.mayWrite = true
  plain : d.files.node? loc ≠ some .directory
  file : ∀ stored, found = some stored →
    (∃ content mode, d.files.node? loc = some (.file content mode)) ∧
      d.databases.lookup loc = some stored

theorem found_of_locateFile {a : Address} {path : String} {found : Option StoredTable}
    (located : d.locateFile a path = .ok ⟨some loc, true, found⟩) : d.Found a path loc found := by
  have same {found' : Option StoredTable} {place : Location}
      (made : (.ok ⟨some place, a.mayWrite, found'⟩ : Except DatabaseError Target) =
        .ok ⟨some loc, true, found⟩) : place = loc ∧ a.mayWrite = true ∧ found' = found := by
    simpa using made
  unfold locateFile at located
  split at located
  next => cases located
  next place resolved =>
    split at located
    next => cases located
    next content mode node =>
      split at located
      next stored kept =>
        obtain ⟨rfl, mayWrite, rfl⟩ := same located
        refine ⟨resolved, mayWrite, by simp [node], ?_⟩
        rintro _ ⟨⟩
        exact ⟨⟨content, mode, node⟩, kept⟩
      next =>
        split_ifs at located
        obtain ⟨rfl, mayWrite, rfl⟩ := same located
        exact ⟨resolved, mayWrite, by simp [node], by simp⟩
    next => cases located
    next node =>
      split_ifs at located
      obtain ⟨rfl, mayWrite, rfl⟩ := same located
      exact ⟨resolved, mayWrite, by simp [node], by simp⟩

theorem locateFile_of_found {a : Address} {path : String}
    (found : d.Found a path loc (some stored)) :
    d.locateFile a path = .ok ⟨some loc, true, some stored⟩ := by
  obtain ⟨⟨content, mode, node⟩, kept⟩ := found.file stored rfl
  simp only [locateFile, found.resolved, node, kept, found.mayWrite]

theorem located_keep {old : StoredTable}
    (located : d.locate address = .ok ⟨some loc, true, some old⟩) (stored : StoredTable) :
    (d.keep (some loc) stored).locate address = .ok ⟨some loc, true, some stored⟩ := by
  obtain ⟨a, path, parsed, file, toFile⟩ := exists_of_locate located
  have found := found_of_locateFile toFile
  rw [locate_of_file parsed file]
  refine locateFile_of_found ⟨found.resolved, found.mayWrite, found.plain, ?_⟩
  rintro _ ⟨⟩
  exact ⟨(found.file old rfl).1, by simp [keep]⟩

/-- Where nothing was, a file is put. -/
theorem located_create (located : d.locate address = .ok ⟨some loc, true, none⟩)
    (stored : StoredTable) :
    ({ d.keep (some loc) stored with files := d.files.insert loc (.file [] 0o644) } : Disk).locate
      address = .ok ⟨some loc, true, some stored⟩ := by
  obtain ⟨a, path, parsed, file, toFile⟩ := exists_of_locate located
  have found := found_of_locateFile toFile
  have below : loc ≠ [] := by
    rintro rfl
    exact found.plain (by simp [FileSystem.node?])
  have there : (d.files.insert loc (.file [] 0o644)).node? loc = some (.file [] 0o644) :=
    FileSystem.node?_insert_self below
  rw [locate_of_file parsed file]
  refine locateFile_of_found ⟨FileSystem.resolve_insert found.plain found.resolved,
    found.mayWrite, by simp [there], ?_⟩
  rintro _ ⟨⟩
  exact ⟨⟨[], 0o644, there⟩, by simp [keep]⟩

end ResultStore.Disk

namespace ResultStore

/-- A table with the columns of the runs. -/
def tableOf (checks : List Check) (t : Table) : StoredTable := { checks, contents := t }

/-- A session on a table that is in a file. -/
def sessionOn (loc : Location) (stored : StoredTable) (journal : Option Table)
    (statement : Option Insertion) : Session :=
  ⟨some loc, true, stored, journal, statement⟩

def Accepts (checks : List Check) (w : Row) : Prop := ∀ c ∈ checks, c.accepts w = true

namespace Disk

section Insertions

variable {checks : List Check} {w : Table} {given : List Argument}

theorem insert_of_accepts (accepted : Accepts checks (insertRun.row (w.lastId + 1) given)) :
    StoredTable.insert (tableOf checks w) insertRun given =
      .ok (tableOf checks (w.put (insertRun.row (w.lastId + 1) given))) := by
  have quiet : (checks.find? fun c => !c.accepts (insertRun.row (w.lastId + 1) given)) = none := by
    rw [List.find?_eq_none]
    intro c member
    simp [accepted c member]
  simp only [StoredTable.insert, tableOf, quiet]

theorem insert_of_not_accepts (rejected : ¬ Accepts checks (insertRun.row (w.lastId + 1) given)) :
    ∃ problem, StoredTable.insert (tableOf checks w) insertRun given = .error problem := by
  obtain ⟨c, found⟩ :
      ∃ c, (checks.find? fun c => !c.accepts (insertRun.row (w.lastId + 1) given)) = some c := by
    rw [← Option.isSome_iff_exists, List.find?_isSome]
    simpa [Accepts] using rejected
  exact ⟨.rejected c.text, by simp only [StoredTable.insert, tableOf, found]⟩

end Insertions

section Calls

variable {d : Disk} {checks : List Check} {loc : Location} {t w : Table}
  {journal : Option Table} {statement : Option Insertion}

theorem begin_of_session
    (session : d.session = some (sessionOn loc (tableOf checks w) journal statement)) :
    d.begin =
      ({ d with session := some (sessionOn loc (tableOf checks w) (some w) statement) },
        .ok ()) := by
  simp only [begin, withSession, session]
  rfl

theorem prepare_of_session
    (session : d.session = some (sessionOn loc (tableOf checks w) journal statement)) :
    d.prepare insertRun =
      ({ d with session := some (sessionOn loc (tableOf checks w) journal (some insertRun)) },
        .ok ()) := by
  simp only [prepare, withSession, session]
  rfl

theorem insert_of_session {given : List Argument}
    (session : d.session = some (sessionOn loc (tableOf checks w) journal (some insertRun)))
    (accepted : Accepts checks (insertRun.row (w.lastId + 1) given)) :
    d.insert given =
      ({ d with
          session := some (sessionOn loc
            (tableOf checks (w.put (insertRun.row (w.lastId + 1) given))) journal
            (some insertRun)) }, .ok ()) := by
  have stored := insert_of_accepts accepted
  simp only [insert, withSession, session, sessionOn, stored]
  rfl

theorem insert_refused {given : List Argument}
    (session : d.session = some (sessionOn loc (tableOf checks w) journal (some insertRun)))
    (rejected : ¬ Accepts checks (insertRun.row (w.lastId + 1) given)) :
    ∃ text, d.insert given = (d, .error text) := by
  obtain ⟨problem, refused⟩ := insert_of_not_accepts rejected
  refine ⟨problem.message, ?_⟩
  simp only [insert, withSession, session, sessionOn, refused]
  rfl

theorem commit_of_session
    (session : d.session = some (sessionOn loc (tableOf checks w) journal statement)) :
    d.commit =
      ({ d.keep (some loc) (tableOf checks w) with
          session := some (sessionOn loc (tableOf checks w) none statement) }, .ok ()) := by
  simp only [commit, session]
  rfl

theorem session_finalize
    (session : d.session = some (sessionOn loc (tableOf checks w) journal statement)) :
    d.finalize.session = some (sessionOn loc (tableOf checks w) journal none) := by
  simp only [finalize, session]
  rfl

theorem session_rollback
    (session : d.session = some (sessionOn loc (tableOf checks w) journal statement)) :
    d.rollback.session =
      some (sessionOn loc (tableOf checks (journal.getD w)) none statement) := by
  simp only [rollback, session]
  rfl

theorem table_of_session
    (session : d.session = some (sessionOn loc (tableOf checks w) journal statement)) :
    d.table = w := by
  simp only [table, session]
  rfl

theorem create_of_found {address : String} (chosen : d.address = some address)
    (located : d.locate address = .ok ⟨some loc, true, some (tableOf checks t)⟩) :
    d.create createRuns =
      ({ d with session := some (sessionOn loc (tableOf checks t) none none) }, .ok ()) := by
  simp only [create, chosen, located]
  rfl

theorem create_of_absent {address : String} (chosen : d.address = some address)
    (located : d.locate address = .ok ⟨some loc, true, none⟩) :
    d.create createRuns =
      ({ d.keep (some loc) (tableOf [] {}) with
          files := d.files.insert loc (.file [] 0o644)
          session := some (sessionOn loc (tableOf [] {}) none none) }, .ok ()) := by
  simp only [create, chosen, located]
  rfl

end Calls

end Disk

/-- Where the stand-in stands with the database at an address. -/
def diskStages (address : String) (checks : List Check) : Stages diskEngine where
  shut := fun (d : Disk) t =>
    ∃ loc, d.locate address = .ok ⟨some loc, true, some (tableOf checks t)⟩ ∨
      checks = [] ∧ t = {} ∧ d.locate address = .ok ⟨some loc, true, none⟩
  idle := fun (d : Disk) t => ∃ loc statement,
    d.session = some (sessionOn loc (tableOf checks t) none statement) ∧
      d.locate address = .ok ⟨some loc, true, some (tableOf checks t)⟩
  begun := fun (d : Disk) t w => ∃ loc statement,
    d.session = some (sessionOn loc (tableOf checks w) (some t) statement) ∧
      d.locate address = .ok ⟨some loc, true, some (tableOf checks t)⟩
  ready := fun (d : Disk) t w => ∃ loc,
    d.session = some (sessionOn loc (tableOf checks w) (some t) (some insertRun)) ∧
      d.locate address = .ok ⟨some loc, true, some (tableOf checks t)⟩

/-- The stand-in does what is relied on, at every address that leads to a place for a file. -/
theorem diskStages_laws (address : String) (checks : List Check) :
    (diskStages address checks).Laws address (Accepts checks) where
  opens := by
    rintro (d : Disk) t ⟨loc, located | ⟨rfl, rfl, located⟩⟩
    · exact ⟨_, _, rfl, Disk.create_of_found (d := (d.connect address).1) rfl located, loc, none,
        rfl, located⟩
    · exact ⟨_, _, rfl, Disk.create_of_absent (d := (d.connect address).1) rfl located, loc, none,
        rfl, Disk.located_create located _⟩
  closes := by
    rintro (d : Disk) t ⟨loc, statement, -, located⟩
    exact ⟨loc, .inl located⟩
  reads := by
    rintro (d : Disk) t ⟨loc, statement, session, -⟩
    exact Disk.table_of_session session
  begins := by
    rintro (d : Disk) t ⟨loc, statement, session, located⟩
    have called : diskEngine.begin d = _ := Disk.begin_of_session session
    rw [called]
    exact ⟨loc, statement, rfl, located⟩
  prepares := by
    rintro (d : Disk) t w ⟨loc, statement, session, located⟩
    have called : diskEngine.prepare insertRun d = _ := Disk.prepare_of_session session
    rw [called]
    exact ⟨loc, rfl, located⟩
  inserts := by
    rintro (d : Disk) t w given ⟨loc, session, located⟩ -
    by_cases accepted : Accepts checks (insertRun.row (w.lastId + 1) given)
    · have called : diskEngine.insert given d = _ := Disk.insert_of_session session accepted
      rw [called]
      exact ⟨accepted, loc, rfl, located⟩
    · obtain ⟨text, refused⟩ := Disk.insert_refused session accepted
      have called : diskEngine.insert given d = _ := refused
      rw [called]
      exact ⟨w, loc, session, located⟩
  finalizes := by
    rintro (d : Disk) t w ⟨loc, session, located⟩
    exact ⟨loc, none, Disk.session_finalize session, located⟩
  commits := by
    rintro (d : Disk) t w ⟨loc, session, located⟩
    have called : diskEngine.commit d = _ := Disk.commit_of_session session
    rw [called]
    exact ⟨loc, some insertRun, rfl, Disk.located_keep located _⟩
  finalizesLate := by
    rintro (d : Disk) t ⟨loc, statement, session, located⟩
    exact ⟨loc, none, Disk.session_finalize session, located⟩
  undoes := by
    rintro (d : Disk) t w ⟨loc, statement, session, located⟩
    exact ⟨loc, statement, Disk.session_rollback session, located⟩
  undoesLate := by
    rintro (d : Disk) t ⟨loc, statement, session, located⟩
    exact ⟨loc, statement, Disk.session_rollback session, located⟩

theorem diskStages_faultless (address : String) (checks : List Check) :
    (diskStages address checks).Faultless (Accepts checks) where
  begins := by
    rintro (d : Disk) t ⟨loc, statement, session, -⟩
    exact congrArg Prod.snd (Disk.begin_of_session session)
  prepares := by
    rintro (d : Disk) t w ⟨loc, statement, session, -⟩
    exact congrArg Prod.snd (Disk.prepare_of_session session)
  inserts := by
    rintro (d : Disk) t w given ⟨loc, session, -⟩ - accepted
    exact congrArg Prod.snd (Disk.insert_of_session session accepted)
  commits := by
    rintro (d : Disk) t w ⟨loc, session, -⟩
    exact congrArg Prod.snd (Disk.commit_of_session session)

/-- Rows of a kernel with this name are refused. -/
def notBad : Check :=
  ⟨"kernel <> 'bad'", fun w => w.get "kernel" != some (.text (Text.encode "bad"))⟩

theorem notBad_accepts_iff (id : Nat) (r : Result) :
    notBad.accepts (row id r) = true ↔ r.kernel.name ≠ "bad" := by
  rw [notBad, bne_iff_ne, (row_holds id r).kernel.2, Ne, Option.some.injEq, Value.text.injEq,
    Text.encode_injective.eq_iff]

/-- A database in which there is such a table. -/
def checkedDisk : Disk where
  files := ⟨[(["runs.db"], .file [] 0o644)], []⟩
  databases := [(["runs.db"], tableOf [notBad] {})]

def runOf (kernel : String) (exit : Int64) : Result where
  kernel := ⟨"mm/mm", kernel, none⟩
  setting := ⟨"0", "2", "32"⟩
  label := "1/8@256"
  outcome := { exit }

/-- The second batch has a row that is refused behind one that is not, and the database is opened
again before the third. -/
def savedRuns : List Action :=
  [.save [runOf "mm" 0, runOf "mt" 1], .save [runOf "mv" 0, runOf "bad" 0], .reopen,
    .save [runOf "mv" 2]]

theorem locate_runs : checkedDisk.locate "runs.db" =
    .ok ⟨some ["runs.db"], true, some (tableOf [notBad] {})⟩ := by
  have parsed : Address.parse "runs.db" = .ok { file := some "runs.db" } := by decide +kernel
  have resolved : checkedDisk.files.resolve "runs.db" = .ok ["runs.db"] := by decide +kernel
  simp only [Disk.locate, parsed, Disk.locateFile, resolved]
  rfl

theorem checkedDisk_saves_whole :
    let opened := diskEngine.openStore "runs.db" checkedDisk
    let last := diskEngine.after "runs.db" opened.1 savedRuns
    opened.2 = .ok () ∧
      (diskEngine.table last).rows.map (·.id) = [1, 2, 3] ∧
      List.Forall₂ Row.Holds (diskEngine.table last).rows
        [runOf "mm" 0, runOf "mt" 1, runOf "mv" 2] ∧
      (∃ problem, (diskEngine.save [runOf "mv" 0, runOf "bad" 0] last).2 = .error problem) ∧
      ¬ ∃ problem, (diskEngine.save [runOf "mv" 0] last).2 = .error problem := by
  intro opened last
  have shut : (diskStages "runs.db" [notBad]).shut checkedDisk {} :=
    ⟨["runs.db"], .inl locate_runs⟩
  obtain ⟨first, -, -, exact, stored⟩ :=
    saves_whole (diskStages_laws "runs.db" [notBad]) shut savedRuns
  have taken : diskEngine.taken "runs.db" opened.1 savedRuns =
      [[runOf "mm" 0, runOf "mt" 1], [runOf "mv" 2]] := by decide +kernel
  rw [taken] at stored
  have faults := exact (diskStages_faultless "runs.db" [notBad])
  obtain ⟨new, rows, held, -⟩ := stored.rows
  refine ⟨first, stored.ids rfl, ?_, (faults _).mpr ?_, fun failed => ?_⟩
  · rw [List.nil_append] at rows
    rw [rows]
    exact held
  · refine ⟨row ((diskEngine.table last).lastId + 1 + 1) (runOf "bad" 0), ?_, fun accepted => ?_⟩
    · rw [rowsFrom_cons, rowsFrom_cons]
      exact List.mem_cons_of_mem _ List.mem_cons_self
    · exact (notBad_accepts_iff _ _).mp (accepted notBad List.mem_cons_self) rfl
  · obtain ⟨w, mem, refused⟩ := (faults _).mp failed
    obtain rfl : w = row ((diskEngine.table last).lastId + 1) (runOf "mv" 0) := by simpa using mem
    apply refused
    rintro c (- | ⟨_, ⟨⟩⟩)
    exact (notBad_accepts_iff _ _).mpr (by decide)

end ResultStore

end KernelSweep
