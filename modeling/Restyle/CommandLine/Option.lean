import Restyle.CommandLine.Closest
import Restyle.Text.Quoted

/-!
# Options

A command declares its options; `readArguments` finds them among the arguments. A long option takes
its value after an equals sign or as the next argument. Short options may stand together behind one
hyphen, where the first that takes a value takes the rest. Two hyphens alone end the options.
-/

namespace Restyle.CommandLine

open Text

/-- What an option takes: nothing, or a value of a kind. -/
inductive OptionKind
  | flag
  | text
  | texts
  | file
  deriving DecidableEq, Repr

/-- The word that stands for a value in help texts. -/
def OptionKind.placeholder? : OptionKind → Option String
  | .flag => none
  | .text | .texts => some "TEXT"
  | .file => some "FILE"

/-- An option that a command declares. -/
structure OptionSpec where
  long : String
  short : Option Char
  kind : OptionKind
  help : String
  deriving DecidableEq, Repr

/-- The option that every command has. -/
def helpOption : OptionSpec :=
  ⟨"--help", some 'h', .flag, "Show this message and exit."⟩

/-- What is wrong with the arguments of a command. -/
inductive UsageFault
  | unknownOption (name : String) (meant : List String)
  | needlessValue (name : String)
  | missingValue (name : String)
  | extraArguments (arguments : List String)
  | directoryGiven (name path : String)
  | missingCommand
  | unknownCommand (name : String) (meant : List String)
  deriving DecidableEq, Repr

/-- What is said of the names that may have been meant. -/
def suggestionText : List String → String
  | [] => ""
  | [name] => " Did you mean " ++ quoted name ++ "?"
  | names => " (Did you mean one of: " ++ ", ".intercalate (names.map quoted) ++ "?)"

namespace UsageFault

/-- The message of a fault. -/
def message : UsageFault → String
  | unknownOption name meant => "No such option " ++ quoted name ++ "." ++ suggestionText meant
  | needlessValue name => "Option " ++ quoted name ++ " does not take a value."
  | missingValue name => "Option " ++ quoted name ++ " requires an argument."
  | extraArguments [argument] => "Got unexpected extra argument (" ++ argument ++ ")"
  | extraArguments arguments =>
    "Got unexpected extra arguments (" ++ " ".intercalate arguments ++ ")"
  | directoryGiven name path =>
    "Invalid value for " ++ quoted name ++ ": File " ++ quoted path ++ " is a directory."
  | missingCommand => "Missing command."
  | unknownCommand name meant => "No such command " ++ quoted name ++ "." ++ suggestionText meant

/-- Whether the usage of the command is shown together with the message. -/
def showsUsage : UsageFault → Bool
  | needlessValue _ | missingValue _ => false
  | _ => true

end UsageFault

/-- An option that was given, with its value. -/
structure Given where
  option : OptionSpec
  value : String
  deriving DecidableEq, Repr

/-- The options and the other arguments of a command. -/
structure Arguments where
  given : List Given
  others : List String
  deriving DecidableEq, Repr

/-- What one argument says: options, and perhaps one more whose value comes next, under the name
that it was given by. -/
structure Reading where
  given : List Given
  awaiting : Option (OptionSpec × String)

/-- The options of a cluster of letters. -/
def readLetters (specs : List OptionSpec) : List Char → Except UsageFault Reading
  | [] => .ok ⟨[], none⟩
  | c :: rest =>
    let name := String.ofList ['-', c]
    match specs.find? fun o => o.short = some c with
    | none => .error (.unknownOption name [])
    | some o =>
      if o.kind = .flag then
        (readLetters specs rest).map fun r => { r with given := ⟨o, ""⟩ :: r.given }
      else if rest = [] then .ok ⟨[], some (o, name)⟩
      else .ok ⟨[⟨o, String.ofList rest⟩], none⟩

/-- The options of an argument that begins with a hyphen. -/
def readOption (specs : List OptionSpec) (argument : String) : Except UsageFault Reading :=
  let cs := argument.toList
  let name := String.ofList (cs.takeWhile (· != '='))
  let value? := match cs.dropWhile (· != '=') with
    | [] => none
    | _ :: value => some (String.ofList value)
  match specs.find? fun o => o.long = name with
  | some o =>
    match decide (o.kind = .flag), value? with
    | true, none => .ok ⟨[⟨o, ""⟩], none⟩
    | true, some _ => .error (.needlessValue name)
    | false, none => .ok ⟨[], some (o, name)⟩
    | false, some value => .ok ⟨[⟨o, value⟩], none⟩
  | none =>
    if ['-', '-'].isPrefixOf cs then
      .error (.unknownOption name (closest (specs.map OptionSpec.long) name))
    else readLetters specs (cs.drop 1)

/-- Whether an argument is read as options. -/
def isOptionLike (argument : String) : Bool :=
  argument.toList.head? == some '-' && 1 < argument.length

/-- Finds the options among arguments. Where they may not be mixed with others, the first other
argument ends them. -/
def readArgumentsFrom (specs : List OptionSpec) (mixed : Bool) :
    Option (OptionSpec × String) → List String → Except UsageFault Arguments
  | none, [] => .ok ⟨[], []⟩
  | some (_, name), [] => .error (.missingValue name)
  | some (o, _), value :: rest => do
    let found ← readArgumentsFrom specs mixed none rest
    return { found with given := ⟨o, value⟩ :: found.given }
  | none, argument :: rest =>
    if argument = "--" then .ok ⟨[], rest⟩
    else if isOptionLike argument then do
      let reading ← readOption specs argument
      let found ← readArgumentsFrom specs mixed reading.awaiting rest
      return { found with given := reading.given ++ found.given }
    else if mixed then do
      let found ← readArgumentsFrom specs mixed none rest
      return { found with others := argument :: found.others }
    else .ok ⟨[], argument :: rest⟩

/-- The options and the other arguments of a command with the given options. -/
def readArguments (specs : List OptionSpec) (mixed : Bool) (arguments : List String) :
    Except UsageFault Arguments :=
  readArgumentsFrom (specs ++ [helpOption]) mixed none arguments

namespace Arguments

/-- Whether an option was given. -/
def has (a : Arguments) (o : OptionSpec) : Bool :=
  a.given.any fun g => g.option = o

/-- The values of an option, in order. -/
def values (a : Arguments) (o : OptionSpec) : List String :=
  (a.given.filter fun g => g.option = o).map Given.value

/-- The last value of an option. -/
def value? (a : Arguments) (o : OptionSpec) : Option String :=
  (a.values o).getLast?

end Arguments

end Restyle.CommandLine
