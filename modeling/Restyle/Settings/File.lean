import Restyle.Session
import Restyle.Toml.Printer
import Restyle.Toml.Reader

/-!
# The settings file

Settings are kept in a TOML file below the user's configuration directory. Loading merges the file
into the defaults and fails on what makes no settings; a file that does not exist changes nothing.
Saving makes the directories that are missing and writes the file anew.
-/

namespace Restyle

open Text

namespace Session

/-- The home directory of the user, by the environment or else by the account. A path that begins with a
tilde stands for none. -/
def home? (s : Session) : Option String :=
  match ((s.env? "HOME").or s.account?).map Path.withoutFinalSlashes with
  | none => none
  | some "" => some "/"
  | some path => if path.toList.head? = some '~' then none else some path

/-- The directory that settings are kept below. -/
def configDirectory? (s : Session) : Option String :=
  match s.env? "XDG_CONFIG_HOME" with
  | none | some "" => s.home?.map fun home => Path.join home ".config"
  | some path => some path

/-- The path of the settings file; without a home directory there may be none. -/
def settingsPath? (s : Session) : Option String :=
  s.configDirectory?.map fun directory =>
    Path.normal (Path.join (Path.join directory "cssrename") "config.toml")

end Session

namespace Action

/-- The path of the settings file, which there has to be. -/
def settingsPath : Action String := do
  match (← get).settingsPath? with
  | some path => return path
  | none => fault .homeless

/-! ### Loading -/

/-- Whether there is something at the path of the settings file. -/
def settingsExist (path : String) : Action Bool := do
  match ← observe fun t => t.walk path with
  | .error .nameTooLong => fault (.file path .nameTooLong)
  | .error _ => return false
  | .ok (.free _) => return false
  | .ok _ => return true

/-- The table of the settings file. -/
def readSettingsFile (path : String) : Action Table := do
  let content ← ofExcept (fun f => .settingsFile path (.file f)) (← observe fun t => t.read path)
  match decodeStrict content with
  | none => fault .undecodable
  | some document =>
    match Toml.readTable document with
    | .ok t => return t
    | .error .malformed => throw (.settingsFile path .malformed)
    | .error .numberTooLong => fault .numberTooLong

/-- The settings in force, as a table and as what it says. -/
def loadSettings : Action (Table × Settings) := do
  let path ← settingsPath
  let own ← if ← settingsExist path then readSettingsFile path else pure []
  let config := mergeTable Settings.defaults own
  let settings ← ofExcept .ofSettings (Settings.ofTable config)
  return (config, settings)

/-! ### Saving -/

/-- Passes over a fault where there is a directory already. -/
def unlessDirectory (path : String) (f : FileFault) : Action Unit := do
  if ← observe fun t => t.isDirectory path then return
  else fault (.file path f)

/-- Makes one directory, and gives the fault if that fails. -/
def tryMakeDirectory (path : String) : Action (Option FileFault) := do
  match ← observe fun t => t.makeDirectory path with
  | .ok tree =>
    modify fun s => { s with tree := tree }
    return none
  | .error f => return some f

/-- Makes a directory and those above it that are missing. The names are given from the innermost
one outwards. -/
def makeDirectories (root : String) : List String → Action Unit
  | [] => return
  | name :: above => do
    let path := root ++ Path.ofPieces (name :: above).reverse
    match ← tryMakeDirectory path with
    | none => return
    | some .notFound =>
      makeDirectories root above
      match ← tryMakeDirectory path with
      | none => return
      | some f => unlessDirectory path f
    | some f => unlessDirectory path f

/-- The fault of a table that cannot be written. -/
def faultOf : Toml.Obstacle → Fault
  | .null => .unsuitable
  | .longInteger => .numberTooLong

/-- Writes a table to the settings file and gives its path. Of a table that cannot be written, the part
before the obstacle is written. -/
def saveSettings (config : Table) : Action String := do
  let path ← settingsPath
  let names := (Path.pieces path).filter Path.isStep
  makeDirectories (Path.root path) names.dropLast.reverse
  let written := Toml.writeTable config
  change (fun f => .unexplained (.file path f)) fun t => t.write path (octetsOf written.text)
  match written.obstacle? with
  | none => return path
  | some obstacle => fault (faultOf obstacle)

end Action

end Restyle
