import Restyle.Settings
import Restyle.Web

/-!
# Failures

Why an action ends early. Most failures are explained to the user (`Failure.message?`); a fault that
no step explains stays as it is.
-/

namespace Restyle

namespace FileFault

/-- The number of a fault and what it says; an unusable path has neither. -/
def code? : FileFault → Option (Nat × String)
  | .notFound => some (2, "No such file or directory")
  | .alreadyExists => some (17, "File exists")
  | .notDirectory => some (20, "Not a directory")
  | .isDirectory => some (21, "Is a directory")
  | .nameTooLong => some (36, "File name too long")
  | .unusable => none

/-- The message of a fault at a path. -/
def message (fault : FileFault) (path : String) : String :=
  match fault.code? with
  | some (number, text) => "[Errno " ++ toString number ++ "] " ++ text ++ ": " ++ Text.quoted path
  | none => "embedded null byte"

end FileFault

/-- A fault that no step explains. -/
inductive Fault
  | file (path : String) (fault : FileFault)
  | missingField (name : String)
  | notSection
  | unsuitable
  | undecodable
  | unencodable
  | unreadable (fault : TextFault)
  | numberTooLong
  | malformedUrl
  | schemeless
  | homeless
  deriving DecidableEq, Repr

/-- Why a settings file cannot be read. -/
inductive UnreadableCause
  | file (fault : FileFault)
  | malformed
  deriving DecidableEq, Repr

/-- Why an action ends early. -/
inductive Failure
  | settings (fault : SettingsFault)
  | settingsFile (path : String) (cause : UnreadableCause)
  | fetch (url : String) (fault : FetchFault)
  | rename (path : String) (fault : FileFault)
  | summary (path : String) (fault : FileFault)
  | unexplained (fault : Fault)

namespace Failure

/-- What the user is told. -/
def message? : Failure → Option String
  | .settings fault => some fault.message
  | .settingsFile path cause =>
    let reason :=
      match cause with
      | .file fault => fault.message path
      | .malformed => ""
    some ("Invalid config file " ++ path ++ ": " ++ reason)
  | .fetch url fault => some ("Failed to fetch changes from " ++ url ++ ": " ++ fault.message)
  | .rename path fault => some ("Failed to rewrite " ++ path ++ ": " ++ fault.message path)
  | .summary path fault => some ("Failed to update summary " ++ path ++ ": " ++ fault.message path)
  | .unexplained _ => none

/-- The failure of a table that gives no settings. -/
def ofSettings : SettingsError → Failure
  | .missingSection name => .unexplained (.missingField name)
  | .notSection _ => .unexplained .notSection
  | .unshowable => .unexplained .numberTooLong
  | .fault f => .settings f

/-- The failure of fetching a URL. -/
def ofFetch (url : String) : FetchError → Failure
  | .refused fault => .fetch url fault
  | .malformedUrl => .unexplained .malformedUrl
  | .schemeless => .unexplained .schemeless

/-- The failure of renaming in a file. -/
def ofRename (path : String) (fault : FileFault) : Failure :=
  if fault = .unusable then .unexplained (.file path fault) else .rename path fault

/-- The failure of an operation on the summary file. -/
def ofSummary (path : String) (fault : FileFault) : Failure :=
  if fault = .unusable then .unexplained (.file path fault) else .summary path fault

end Failure

end Restyle
