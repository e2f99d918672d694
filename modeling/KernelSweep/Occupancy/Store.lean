import KernelSweep.FileSystem
import KernelSweep.Occupancy.Record

set_option autoImplicit false

namespace KernelSweep.Occupancy

/-- Where the toolchain leaves its reports. -/
def defaultDirectory : String := "/tmp"

def reportPath (dir kernel : String) : String := Path.join dir (kernel ++ ".txt")

inductive StoreError where
  | file (e : FileError)
  | record (path : String) (e : RecordError)
  /-- The file was opened and then could not be read. -/
  | reading (path : String) (e : FileError)
  deriving DecidableEq, Repr

namespace StoreError

def message : StoreError → String
  | .file e => e.message
  | .record path e => path ++ ": " ++ e.message
  | .reading path e => path ++ ": " ++ e.message

def isNotFound : StoreError → Bool
  | .file e => e.cause == .notFound
  | _ => false

end StoreError

def readReport (files : FileSystem) (path : String) : Except StoreError Record :=
  match files.read path with
  | .error e => .error (if e.operation = .reading then .reading path e else .file e)
  | .ok content =>
    match Record.parse content with
    | .error e => .error (.record path e)
    | .ok r => .ok r

/-- The report at a path, or nothing when there is no file. -/
def load (files : FileSystem) (path : String) : Except StoreError (Option Record) :=
  match readReport files path with
  | .ok r => .ok (some r)
  | .error e => if e.isNotFound then .ok none else .error e

/-- Makes sure no report is at a path; that there was none is fine. -/
def discard (files : FileSystem) (path : String) : Except FileError FileSystem :=
  match files.remove path with
  | .ok left => .ok left
  | .error e => if e.cause = .notFound then .ok files else .error e

end KernelSweep.Occupancy
