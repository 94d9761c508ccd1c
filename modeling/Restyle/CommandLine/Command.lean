import Restyle.CommandLine.Help
import Restyle.Failure
import Restyle.Report

/-!
# Commands

The commands of the program with their options, and what a command line asks for. Faults are found
in the order of the arguments; after them a request for help counts before anything else.
-/

namespace Restyle.CommandLine

/-! ### Options -/

/-- Asks for JSON. -/
def jsonOption : OptionSpec :=
  ⟨"--json", none, .flag, "Output as JSON"⟩

/-- Asks for all messages. -/
def verboseOption : OptionSpec :=
  ⟨"--verbose", some 'v', .flag, "Log every substitution"⟩

/-- Names the change list. -/
def changesUrlOption : OptionSpec :=
  ⟨"--changes-url", none, .text, "URL of the change list (env: CHANGES_URL)"⟩

/-- Names the files. -/
def filesOption : OptionSpec :=
  ⟨"--files", none, .text, "Comma-separated files, directories or globs (env: FILES_INPUT)"⟩

/-- Names the summary. -/
def summaryOption : OptionSpec :=
  ⟨"--summary", none, .file, "Summary file to write (default: changes-summary.json)"⟩

/-- Adds an ending of files in directories. -/
def extensionOption : OptionSpec :=
  ⟨"--extension", some 'e', .texts,
    "File suffix collected from directories (repeatable, default from config)"⟩

/-- Asks for a new settings file. -/
def initOption : OptionSpec :=
  ⟨"--init", none, .flag, "Write the default config file"⟩

/-! ### Commands -/

/-- The name that the program is called by. -/
def programName : String := "cssrename"

/-- The program itself. -/
def program : CommandSpec where
  name := programName
  usage := "[OPTIONS] COMMAND [ARGS]..."
  about :=
    ["cssrename renames CSS class selectors across stylesheets using a change list fetched " ++
        "from a URL. The change list is plain text with one class name per line: an old name " ++
        "followed by its new name, repeated.",
      "Only renames where the names differ and at least one of them contains an underscore or " ++
        "a hyphen are applied.",
      "\x60cssrename run\x60 rewrites the files named by FILES_INPUT (comma-separated files, " ++
        "directories or glob patterns), writes changes-summary.json and exits with 1 if " ++
        "anything changed, 0 otherwise. \x60cssrename changes\x60 and \x60cssrename " ++
        "files\x60 preview the change list and the file set without writing anything."]
  options := [jsonOption, verboseOption]

/-- The commands of the program. -/
inductive Command
  | run
  | changes
  | files
  | config
  deriving DecidableEq, Repr

namespace Command

/-- All commands, in the order of the help page. -/
def all : List Command := [run, changes, files, config]

/-- The name of a command. -/
def name : Command → String
  | run => "run"
  | changes => "changes"
  | files => "files"
  | config => "config"

/-- What a command does. -/
def about : Command → List String
  | run =>
    ["Rename selectors in place and write the change summary.",
      "Exits with 1 when at least one selector was renamed or the run failed, and with 0 when " ++
        "nothing changed."]
  | changes => ["Fetch the change list and print the renames that would be applied."]
  | files => ["Print the files that a run would check."]
  | config => ["Print config file location and contents."]

/-- The options of a command. -/
def options : Command → List OptionSpec
  | run => [changesUrlOption, filesOption, summaryOption, extensionOption]
  | changes => [changesUrlOption]
  | files => [filesOption, extensionOption]
  | config => [initOption]

/-- A command as it is declared. -/
def spec (c : Command) : CommandSpec :=
  ⟨programName ++ " " ++ c.name, "[OPTIONS]", c.about, c.options⟩

/-- The command of a name. -/
def ofName? (s : String) : Option Command :=
  all.find? fun c => c.name = s

end Command

/-! ### Requests -/

/-- What a command line asks for. -/
structure Request where
  layout : Layout
  verbose : Bool
  command : Command
  arguments : Arguments

/-- Why a command line asks for nothing that can be done: help is wanted or needed, or the
arguments are at fault. -/
inductive Refusal
  | help (command : Option Command)
  | helpNeeded
  | usage (command : Option Command) (fault : UsageFault)
  | fault (f : Fault)

/-- The arguments of a command, with the faults named by its usage. -/
def argumentsOf (command : Option Command) (specs : List OptionSpec) (mixed : Bool)
    (arguments : List String) : Except Refusal Arguments := do
  let found ← (readArguments specs mixed arguments).mapError (Refusal.usage command)
  if found.has helpOption then throw (.help command) else return found

/-- Whether an argument is taken for a misplaced option. -/
def looksLikeOption (s : String) : Bool :=
  match s.toList with
  | '-' :: _ => true
  | _ => false

/-- The command of a name. Where the name looks like an option, the arguments are read as those of
the program once more before it is refused. -/
def commandOf (name : String) (rest : List String) : Except Refusal Command :=
  match Command.ofName? name with
  | some c => .ok c
  | none => do
    if looksLikeOption name then
      let _ ← argumentsOf none program.options false (name :: rest)
    throw (.usage none (.unknownCommand name (closest (Command.all.map Command.name) name)))

/-- Refuses a summary path that names a directory. -/
def checkSummary (tree : Tree) (command : Command) (a : Arguments) : Except Refusal Unit :=
  match a.value? summaryOption with
  | none => .ok ()
  | some path =>
    if Path.hasNul path then throw (.fault (.file path .unusable))
    else if tree.isDirectory path then
      throw (.usage (some command) (.directoryGiven summaryOption.long path))
    else .ok ()

/-- What a command line asks for. -/
def Request.ofArguments (tree : Tree) (arguments : List String) : Except Refusal Request := do
  if arguments = [] then throw .helpNeeded
  let outer ← argumentsOf none program.options false arguments
  match outer.others with
  | [] => throw (.usage none .missingCommand)
  | name :: rest =>
    let command ← commandOf name rest
    let inner ← argumentsOf (some command) command.options true rest
    checkSummary tree command inner
    if inner.others ≠ [] then throw (.usage (some command) (.extraArguments inner.others))
    return ⟨if outer.has jsonOption then .json else .plain, outer.has verboseOption, command, inner⟩

end Restyle.CommandLine
