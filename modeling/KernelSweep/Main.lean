import KernelSweep.CommandLine.PlainHost
import KernelSweep.Report.StoreText

set_option autoImplicit false

namespace KernelSweep

/-- Variables handed on to the programs of a sweep. -/
def inheritedNames : List String := ["PATH", "HOME", "USER", "LANG", "TMPDIR", "LD_LIBRARY_PATH"]

def inheritedEntries : IO (List Text.Bytes) :=
  inheritedNames.filterMapM fun name => do
    return (← IO.getEnv name).map fun value => Text.encode (name ++ "=" ++ value)

/-- The rooted form of a path. -/
def absolute (current path : String) : String :=
  Path.clean (if Path.isRooted path then path else current ++ "/" ++ path)

/-- Takes a file in, if it can be read. -/
def takeIn (current : String) (files : FileSystem) (path : String) : IO FileSystem := do
  try
    let bytes ← IO.FS.readBinFile path
    return files.place (FileSystem.locationOf (absolute current path)) bytes.data.toList 0o755
  catch _ => return files

/-- Takes a database in, which is a table as text and no database of any other program. -/
def takeInTable (current : String) (disk : ResultStore.Disk) (path : String) :
    IO ResultStore.Disk := do
  try
    let bytes ← IO.FS.readBinFile path
    let content := bytes.data.toList
    let loc := FileSystem.locationOf (absolute current path)
    match ResultStore.Table.read? content with
    | some contents =>
      return { disk with
        files := disk.files.place loc [] 0o644
        databases := (loc, { contents }) :: disk.databases }
    | none => return { disk with files := disk.files.place loc content 0o644 }
  catch _ => return disk

def takeInAll (current : String) (files : FileSystem) (paths : List String) : IO FileSystem :=
  paths.foldlM (takeIn current) files

/-- Writes down a file that is new or differs from before. -/
def writeChanged (before : FileSystem) (entry : Location × Node) : IO Unit := do
  match entry.2 with
  | .file content mode =>
    if before.node? entry.1 != some (.file content mode) then
      IO.FS.writeBinFile (Path.render true entry.1) ⟨content.toArray⟩
  | _ => return

/-- Removes a file that is no longer there. -/
def removeMissing (after : FileSystem) (entry : Location × Node) : IO Unit := do
  match entry.2, after.node? entry.1 with
  | .file _ _, none => IO.FS.removeFile (Path.render true entry.1)
  | _, _ => return

/-- Writes down what a command changed. A database is written as text. -/
def writeBack (before : FileSystem) (ending : CommandLine.Ending CommandLine.plainHost) :
    IO Unit := do
  let disk : ResultStore.Disk := ending.stores
  before.nodes.forM (removeMissing ending.files)
  ending.files.nodes.forM (writeChanged before)
  disk.databases.reverse.forM fun (loc, stored) =>
    IO.FS.writeBinFile (Path.render true loc) ⟨stored.contents.shown.toArray⟩

/-- What a command line needs of the files: those it looks at, and the database it writes. -/
def takeInFor (current : String) (args : List String) (files : FileSystem) :
    IO ResultStore.Disk := do
  let host := CommandLine.plainHost
  match host.parse CommandLine.Subcommand.usage args with
  | .refused _ | .answered _ => return { files }
  | .run command options operands => do
    let request : CommandLine.Request := ⟨command, options, operands⟩
    let configured ← takeInAll current files (request.paths host files)
    let files ← takeInAll current configured (request.paths host configured)
    takeInTable current { files } options.resultsDb

end KernelSweep

open KernelSweep

/-- The program on the stand-ins: it takes in the files that a command looks at, runs the command on
them, and writes down what the command changed. -/
def main (args : List String) : IO UInt32 := do
  let current := (← IO.currentDir).toString
  let bare := FileSystem.standard.makeDirectories (FileSystem.locationOf current)
  let disk ← takeInFor current args { bare with current := FileSystem.locationOf current }
  let ending := CommandLine.run CommandLine.plainHost args (← inheritedEntries) disk.files disk
  (← IO.getStdout).write ⟨ending.output.toArray⟩
  IO.eprint ending.complaint
  writeBack disk.files ending
  return UInt32.ofNat ending.exit
