import Restyle.FileSet
import Restyle.Text.Blank
import Restyle.Value.Shown

/-!
# Settings

The settings are a table with three sections: the level of messages, the endings of the files that
a directory stands for, and the path of the summary. A user's table is merged into the defaults:
tables field by field, any other value in place of the old one (`mergeTable`). Fields that mean
nothing here are kept.

`Settings.ofTable` reads the three settings and says what is wrong with a table that lacks one.
-/

namespace Restyle

open Text

/-- How much is reported, from most to least. -/
inductive Level
  | debug
  | info
  | warning
  | error
  deriving DecidableEq, Repr

namespace Level

/-- All levels, in order. -/
def all : List Level := [debug, info, warning, error]

/-- The name of a level in a settings table. -/
def name : Level → String
  | debug => "debug"
  | info => "info"
  | warning => "warning"
  | error => "error"

/-- The level of a name. -/
def ofName? (s : String) : Option Level :=
  all.find? fun level => level.name = s

/-- The place of a level in the order. -/
def rank : Level → Nat
  | debug => 0
  | info => 1
  | warning => 2
  | error => 3

end Level

/-- What is wrong with a settings table or a required setting. -/
inductive SettingsFault
  | unknownLevel (found : Value)
  | unusableEndings
  | unusableSummaryPath
  | unset (name : String)

/-- The message of a fault. -/
def SettingsFault.message : SettingsFault → String
  | .unknownLevel found =>
    "Invalid logging.level " ++ found.quoted ++ ", expected one of: " ++
      commaSeparated (Level.all.map Level.name)
  | .unusableEndings => "files.extensions must be a list of non-empty strings"
  | .unusableSummaryPath => "summary.path must be a non-empty string"
  | .unset name => name ++ " is not set"

/-- Why a table gives no settings: a section is missing or is no table, a setting is at fault, or a
setting at fault cannot be shown. -/
inductive SettingsError
  | missingSection (name : String)
  | notSection (name : String)
  | fault (f : SettingsFault)
  | unshowable

/-- The settings of a run. -/
structure Settings where
  level : Level
  endings : List String
  summaryPath : String
  deriving DecidableEq, Repr

/-! ### Merging -/

mutual

/-- A table with the fields of another one merged into it. -/
def mergeTable (base : Table) : List (String × Value) → Table
  | [] => base
  | (key, value) :: rest =>
    mergeTable (Table.put base key (mergeValue (Table.get? base key) value)) rest

/-- A value that takes the place of an old one: two tables are merged. -/
def mergeValue (old : Option Value) : Value → Value
  | .table fields =>
    match old with
    | some (.table base) => .table (mergeTable base fields)
    | _ => .table fields
  | value => value

end

namespace Settings

/-! ### Reading -/

/-- A field of a section; a section without the field gives null. -/
def setting (config : Table) (name key : String) : Except SettingsError Value :=
  match Table.get? config name with
  | none => .error (.missingSection name)
  | some (.table fields) => .ok ((Table.get? fields key).getD .null)
  | some _ => .error (.notSection name)

/-- The level of a name. -/
def levelNamed? : Value → Option Level
  | .text s => Level.ofName? s
  | _ => none

/-- The level that a value names. -/
def levelOf (v : Value) : Except SettingsError Level :=
  match levelNamed? v with
  | some level => .ok level
  | none => .error (if v.isShowable then .fault (.unknownLevel v) else .unshowable)

/-- A text that is not empty. -/
def nonEmptyText? : Value → Option String
  | .text s => if s = "" then none else some s
  | _ => none

/-- The endings that a value lists. -/
def endingsOf (v : Value) : Except SettingsError (List String) :=
  match v with
  | .list items =>
    match items.mapM nonEmptyText? with
    | some endings => .ok endings
    | none => .error (.fault .unusableEndings)
  | _ => .error (.fault .unusableEndings)

/-- The summary path that a value holds. -/
def summaryPathOf (v : Value) : Except SettingsError String :=
  match nonEmptyText? v with
  | some path => .ok path
  | none => .error (.fault .unusableSummaryPath)

/-- The settings of a table. The level is judged first, then the endings, then the path. -/
def ofTable (config : Table) : Except SettingsError Settings := do
  let level ← levelOf (← setting config "logging" "level")
  let endings ← endingsOf (← setting config "files" "extensions")
  let summaryPath ← summaryPathOf (← setting config "summary" "path")
  return ⟨level, endings, summaryPath⟩

/-- The path of the summary, unless another one is given. -/
def defaultSummaryPath : String := "changes-summary.json"

/-- The settings before a user's table is merged in. -/
def defaults : Table :=
  [("logging", .table [("level", .text Level.info.name)]),
    ("files", .table [("extensions", .list (FileSet.defaultEndings.map .text))]),
    ("summary", .table [("path", .text defaultSummaryPath)])]

/-- A required setting, trimmed. A missing or blank one is a fault. -/
def require (value : Option String) (name : String) : Except SettingsFault String :=
  match value.map trim with
  | none | some "" => .error (.unset name)
  | some text => .ok text

end Settings

end Restyle
