import Restyle.CommandLine.Command
import Restyle.Run
import Restyle.Settings.File
import Restyle.Text.Integer

/-!
# The command line

`execute` does what a command line asks for and gives the outcome: the exit code, and what goes to
the two streams. The exit code is 0 if all is well, 2 if the command line is at fault, and 1 if the
command fails or a run changes anything.
-/

namespace Restyle.CommandLine

open Text

/-- How a command ended. -/
structure Outcome where
  exitCode : Nat
  output : String
  errors : String
  escaped : Option Fault
  deriving DecidableEq, Repr

/-- What messages say of an error. -/
def errorLine (message : String) : String :=
  withoutSequences ("Error: " ++ message) ++ "\n"

/-! ### Commands -/

/-- A setting that an option or an environment variable gives. An empty variable gives nothing. -/
def settingOf (a : Arguments) (o : OptionSpec) (name : String) : Action (Option String) := do
  match a.value? o with
  | some value => return some value
  | none =>
    match (← get).env? name with
    | none | some "" => return none
    | some value => return some value

/-- A setting that has to be given. -/
def requiredSetting (a : Arguments) (o : OptionSpec) (name : String) : Action String := do
  Action.ofExcept .settings (Settings.require (← settingOf a o name) name)

/-- The URL of the change list. -/
def changesUrl (a : Arguments) : Action String :=
  requiredSetting a changesUrlOption "CHANGES_URL"

/-- The list of files. -/
def filesInput (a : Arguments) : Action String :=
  requiredSetting a filesOption "FILES_INPUT"

/-- The settings in force, whose level decides what is reported from here on. -/
def applySettings (verbose : Bool) : Action Settings := do
  let (_, settings) ← Action.loadSettings
  modify fun s => { s with shown := if verbose then .debug else settings.level }
  return settings

/-- Endings of files: those given as options, or those of the settings. -/
def endingsOf (a : Arguments) (settings : Settings) : List String :=
  match a.values extensionOption with
  | [] => settings.endings
  | given => given

/-- The path of the summary: the one given, or that of the settings. -/
def summaryPathOf (a : Arguments) (settings : Settings) : String :=
  match a.value? summaryOption with
  | none | some "" => settings.summaryPath
  | some path => path

/-- What a listing error stands for. -/
def listingFailure : ListingError → Failure
  | .missingField name => .unexplained (.missingField name)
  | .unsuitable => .unexplained .unsuitable

/-- Prints a result. -/
def printReport (layout : Layout) (data : Value (List Glyph)) : Action Unit := do
  Action.print (← Action.ofExcept listingFailure (report layout data))

/-- Renames, reports what was changed, and gives the exit code. -/
def runCommand (r : Request) : Action Nat := do
  let settings ← applySettings r.verbose
  let url ← changesUrl r.arguments
  let input ← filesInput r.arguments
  let summary ← Run.perform
    { url := url
      input := input
      summaryPath := summaryPathOf r.arguments settings
      endings := endingsOf r.arguments settings }
  printReport r.layout summary.toValue
  return if summary.hasChanges then 1 else 0

/-- Shows the renames that a change list asks for. -/
def changesCommand (r : Request) : Action Nat := do
  let _ ← applySettings r.verbose
  let entries ← Action.fetchEntries (← changesUrl r.arguments) true
  let renames := ChangeList.relevant (ChangeList.pairs entries)
  printReport r.layout (.list (renames.map Rename.toValue))
  return 0

/-- Shows the files that a run would look at. -/
def filesCommand (r : Request) : Action Nat := do
  let settings ← applySettings r.verbose
  let input ← filesInput r.arguments
  let files ← Action.resolveFiles input (endingsOf r.arguments settings)
  printReport r.layout (.list (files.map fun file => .text (Glyph.ofString file)))
  return 0

/-- The text of a settings file as it is shown. -/
def settingsText (path : String) : Action String := do
  let explain (f : FileFault) : Failure := .unexplained (.file path f)
  let content ← Action.ofExcept explain (← Action.observe fun t => t.read path)
  match decodeStrict content with
  | some text => return String.ofList (toNewlines text.toList)
  | none => Action.fault .undecodable

/-- Shows the settings file. -/
def showSettings (path : String) : Action Nat := do
  Action.print ("Config file: " ++ path)
  Action.print ""
  if ← Action.settingsExist path then Action.print (← settingsText path)
  else Action.print "(file does not exist, using defaults)"
  return 0

/-- How a command ends that fails with a message of its own. -/
abbrev Attempt := Except String Nat

/-- Writes the defaults to the settings file, unless there is one. -/
def initSettings (path : String) : Action Attempt := do
  if ← Action.settingsExist path then return .error ("Config file already exists: " ++ path)
  else
    let _ ← Action.saveSettings Settings.defaults
    Action.print ("Wrote default config: " ++ path)
    return .ok 0

/-- Shows the settings file, or makes a new one. -/
def configCommand (r : Request) : Action Attempt := do
  let path ← Action.settingsPath
  if r.arguments.has initOption then initSettings path
  else return .ok (← showSettings path)

/-- Does what is asked for. -/
def perform (r : Request) : Action Attempt :=
  match r.command with
  | .run => return .ok (← runCommand r)
  | .changes => return .ok (← changesCommand r)
  | .files => return .ok (← filesCommand r)
  | .config => configCommand r

/-! ### Outcomes -/

/-- The number of columns of the terminal. -/
def columns (s : Session) : Nat :=
  match (s.env? "COLUMNS").bind integer? with
  | some (.ofNat (n + 1)) => n + 1
  | _ => 80

/-- A command as it is declared; no command stands for the program itself. -/
def specOf : Option Command → CommandSpec
  | none => program
  | some c => c.spec

/-- The help page of a command. -/
def helpPageOf (s : Session) (command : Option Command) : String :=
  let below := if command.isNone then Command.all.map fun c => (c.name, c.spec) else []
  (specOf command).helpPage (columns s) below

/-- The message of a fault in the arguments of a command. -/
def usageText (command : Option Command) (fault : UsageFault) : String :=
  let c := specOf command
  let usage :=
    if fault.showsUsage then
      c.usageLine ++ "\nTry '" ++ c.name ++ " " ++ helpOption.long ++ "' for help.\n\n"
    else ""
  usage ++ errorLine fault.message

/-- The outcome of a command line that asks for nothing that can be done. -/
def refused (s : Session) : Refusal → Outcome
  | .help command => ⟨0, helpPageOf s command ++ "\n", "", none⟩
  | .helpNeeded => ⟨2, "", helpPageOf s none ++ "\n", none⟩
  | .usage command fault => ⟨2, "", usageText command fault, none⟩
  | .fault f => ⟨1, "", "", some f⟩

/-- The outcome of a command that was done, or failed on the way. -/
def outcomeOf (result : Except Failure Attempt) (s : Session) : Outcome :=
  let messages := String.join (s.messages.map (· ++ "\n"))
  match result with
  | .ok (.ok code) => ⟨code, s.printed, messages, none⟩
  | .ok (.error message) => ⟨1, s.printed, messages ++ errorLine message, none⟩
  | .error (.unexplained f) => ⟨1, s.printed, messages, some f⟩
  | .error failure => ⟨1, s.printed, messages ++ errorLine (failure.message?.getD ""), none⟩

/-- Does what a command line asks for. -/
def execute (arguments : List String) (s : Session) : Outcome × Session :=
  match Request.ofArguments s.tree arguments with
  | .error refusal => (refused s refusal, s)
  | .ok request =>
    let (result, after) := (perform request).run.run s.afresh
    (outcomeOf result after, after)

end Restyle.CommandLine
