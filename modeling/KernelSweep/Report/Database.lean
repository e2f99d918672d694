import KernelSweep.Report.Address
import KernelSweep.Report.Store

set_option autoImplicit false

namespace KernelSweep.ResultStore

/-- A condition on rows, and how the database writes it. -/
structure Check where
  text : String
  accepts : Row → Bool

/-- The table of the runs in a database file. -/
structure StoredTable where
  columns : List String := createRuns.columns.map Prod.fst
  checks : List Check := []
  contents : Table := {}

/-- An open database. -/
structure Session where
  /-- None for a database in memory. -/
  place : Option Location
  mayWrite : Bool
  stored : StoredTable
  /-- What a transaction under way can go back to. -/
  journal : Option Table := none
  statement : Option Insertion := none

/-- A stand-in for a database engine. A database file is empty, and what it has is kept here. -/
structure Disk where
  files : FileSystem
  databases : List (Location × StoredTable) := []
  /-- The address of the connection; its database is opened with the first call that needs it. -/
  address : Option String := none
  session : Option Session := none

inductive DatabaseError where
  | address (e : AddressError)
  | file (cause : FileCause)
  | notADatabase
  | readOnly
  | closed
  | missingColumn (table column : String)
  | rejected (check : String)
  deriving DecidableEq, Repr

def DatabaseError.message : DatabaseError → String
  | .address e => e.message
  | .file cause => "unable to open database file: " ++ cause.message
  | .notADatabase => "file is not a database"
  | .readOnly => "attempt to write a readonly database"
  | .closed => "sql: database is closed"
  | .missingColumn table column => "table " ++ table ++ " has no column named " ++ column
  | .rejected check => "CHECK constraint failed: " ++ check

namespace Disk

/-- What an address leads to: the place of the database, whether it can be written, and the table it
has. -/
structure Target where
  place : Option Location
  mayWrite : Bool
  found : Option StoredTable

def locateFile (d : Disk) (a : Address) (path : String) : Except DatabaseError Target :=
  match d.files.resolve path with
  | .error cause => .error (.file cause)
  | .ok loc =>
    match d.files.node? loc with
    | some .directory => .error (.file .isDirectory)
    | some (.file content _) =>
      match d.databases.lookup loc with
      | some stored => .ok ⟨some loc, a.mayWrite, some stored⟩
      | none => if content = [] then .ok ⟨some loc, a.mayWrite, none⟩ else .error .notADatabase
    | some _ => .error .notADatabase
    | none =>
      if a.mayCreate then .ok ⟨some loc, a.mayWrite, none⟩ else .error (.file .notFound)

def locate (d : Disk) (address : String) : Except DatabaseError Target :=
  match Address.parse address with
  | .error e => .error (.address e)
  | .ok a =>
    match a.file with
    | some path => d.locateFile a path
    | none => .ok ⟨none, a.mayWrite, none⟩

/-- Writes a table to the file of a database. -/
def keep (d : Disk) (place : Option Location) (stored : StoredTable) : Disk :=
  match place with
  | some loc => { d with databases := (loc, stored) :: d.databases }
  | none => d

abbrev Call := Disk → Disk × Except String Unit

def connect (address : String) : Call := fun d =>
  ({ d with address := some address, session := none }, .ok ())

def refuse (d : Disk) (e : DatabaseError) : Disk × Except String Unit := (d, .error e.message)

def create (creation : Creation) : Call := fun d =>
  match d.address with
  | none => d.refuse .closed
  | some address =>
    match d.locate address with
    | .error e => d.refuse e
    | .ok ⟨place, mayWrite, some stored⟩ =>
      ({ d with session := some { place, mayWrite, stored } }, .ok ())
    | .ok ⟨place, mayWrite, none⟩ =>
      if !mayWrite then d.refuse .readOnly
      else
        let stored : StoredTable := { columns := creation.columns.map Prod.fst }
        let files := match place with
          | some loc => d.files.insert loc (.file [] 0o644)
          | none => d.files
        ({ d.keep place stored with files, session := some { place, mayWrite, stored } }, .ok ())

/-- A call that needs an open database. -/
def withSession (call : Session → Except DatabaseError Session) : Call := fun d =>
  match d.session with
  | none => d.refuse .closed
  | some session =>
    match call session with
    | .error e => d.refuse e
    | .ok next => ({ d with session := some next }, .ok ())

def begin : Call := withSession fun session =>
  .ok { session with journal := some session.stored.contents }

def prepare (insertion : Insertion) : Call := withSession fun session =>
  match insertion.columns.find? fun column => !session.stored.columns.contains column with
  | some column => .error (.missingColumn insertion.table column)
  | none => .ok { session with statement := some insertion }

/-- Appends a row under the next number, unless a check refuses it. -/
def StoredTable.insert (stored : StoredTable) (insertion : Insertion) (given : List Argument) :
    Except DatabaseError StoredTable :=
  let new := insertion.row (stored.contents.lastId + 1) given
  match stored.checks.find? fun c => !c.accepts new with
  | some c => .error (.rejected c.text)
  | none => .ok { stored with contents := stored.contents.put new }

def insert (given : List Argument) : Call := withSession fun session =>
  match session.statement with
  | none => .error .closed
  | some insertion =>
    if !session.mayWrite then .error .readOnly
    else
      match StoredTable.insert session.stored insertion given with
      | .error e => .error e
      | .ok stored => .ok { session with stored }

def finalize (d : Disk) : Disk :=
  { d with session := d.session.map fun session => { session with statement := none } }

/-- Ends a transaction and keeps what it wrote. -/
def commit : Call := fun d =>
  match d.session with
  | none => d.refuse .closed
  | some session =>
    ({ d.keep session.place session.stored with
        session := some { session with journal := none } }, .ok ())

/-- Ends a transaction and undoes what it wrote, the numbers it gave included. -/
def rollback (d : Disk) : Disk :=
  { d with session := d.session.map fun session =>
      { session with
        stored := { session.stored with
          contents := session.journal.getD session.stored.contents }
        journal := none } }

def close (d : Disk) : Disk := { d with address := none, session := none }

def table (d : Disk) : Table := (d.session.map (·.stored.contents)).getD {}

end Disk

/-- The engine of the stand-in. -/
def diskEngine : Engine where
  State := Disk
  connect := Disk.connect
  create := Disk.create
  begin := Disk.begin
  prepare := Disk.prepare
  insert := Disk.insert
  finalize := Disk.finalize
  commit := Disk.commit
  rollback := Disk.rollback
  close := Disk.close
  table := Disk.table
  files := Disk.files
  mount files d := { d with files }

end KernelSweep.ResultStore
