import Restyle.CommandLine

/-!
# The program

Reads the working directory, the settings file and the environment, does what the command line asks
for, and carries the changes of the tree out. Links are left out, and what stands elsewhere is taken
not to be there, save for the null device. There is no connection to the web here, so every fetch
fails.
-/

namespace Restyle.Program

open CommandLine

/-- The environment variables that matter. -/
def settingVariables : List String :=
  ["CHANGES_URL", "FILES_INPUT", "HOME", "XDG_CONFIG_HOME", "COLUMNS"]

/-- The environment variables that are set, with their values. -/
def readEnvironment : IO (List (String × String)) := do
  let found ← settingVariables.mapM fun name => return (name, ← IO.getEnv name)
  return found.filterMap fun (name, value) => value.map fun v => (name, v)

/-- The location of an absolute path. -/
def locationOf (path : String) : Location :=
  (Path.pieces path).filter Path.isStep

/-- The absolute path of a location. -/
def pathOf (l : Location) : String :=
  "/" ++ Path.ofPieces l

/-- The tree with an entry of a directory and with all that is below it. -/
partial def readEntry (above : Location) (t : Tree) (entry : IO.FS.DirEntry) : IO Tree := do
  let l := above ++ [entry.fileName]
  match (← entry.path.symlinkMetadata).type with
  | .dir => (← entry.path.readDir).foldlM (readEntry l) (t.place l .directory)
  | .file => return t.place l (.file (← IO.FS.readBinFile entry.path).toList)
  | _ => return t

/-- The tree with the file at an absolute path, if there is one. -/
def readFile (path : String) (t : Tree) : IO Tree := do
  let file := (← IO.currentDir) / path
  if !(← file.pathExists) || (← file.isDir) then return t
  let l := locationOf path
  return (t.placeDirectories [] l.dropLast).place l (.file (← IO.FS.readBinFile file).toList)

/-- The tree of the working directory, with the null device. -/
def readTree : IO Tree := do
  let directory ← IO.currentDir
  let here := locationOf directory.toString
  let top := (Tree.empty.placeDirectories [] (Tree.nullDevice.dropLast)).place Tree.nullDevice .device
  (← directory.readDir).foldlM (readEntry here) ((top.placeDirectories [] here).enter here)

/-- What actions work on here. The environment has to name the home directory. -/
def readSession : IO Session := do
  let start := Session.start (← readTree) (← readEnvironment) Web.unreachable
  let session := { start with account? := none }
  match session.settingsPath? with
  | some path =>
    if Path.isAbsolute path then return { session with tree := ← readFile path session.tree }
    else return session
  | none => return session

/-- Writes what is new in a tree. -/
def writeChanges (old new : Tree) : IO Unit := do
  for (l, node) in new.entries do
    if old.node? l ≠ some node then
      match node with
      | .directory => IO.FS.createDirAll (pathOf l)
      | .file content => IO.FS.writeBinFile (pathOf l) ⟨content.toArray⟩
      | .device => pure ()
  for (l, _) in old.entries do
    if new.node? l = none then IO.FS.removeFile (pathOf l)

end Restyle.Program

open Restyle Restyle.Program Restyle.CommandLine in
/-- Does what the command line asks for. -/
def main (arguments : List String) : IO UInt32 := do
  let session ← readSession
  let (outcome, after) := execute arguments session
  writeChanges session.tree after.tree
  IO.print outcome.output
  IO.eprint outcome.errors
  if outcome.escaped.isSome then IO.eprintln "The command was stopped by an unexpected fault."
  return outcome.exitCode.toUInt32
