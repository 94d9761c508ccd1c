import Restyle.CommandLine.Option
import Restyle.Text.Lines

/-!
# Help pages

The help page of a command: its usage, what it does, its options, and the commands below it. Text
is filled up to the width of the terminal; a line may also be broken after the hyphen of a compound
word. Lists have two columns.
-/

namespace Restyle.CommandLine

open Text

/-! ### Filling lines -/

/-- A part of a text that is not broken, and whether a blank stands before it. -/
structure Piece where
  spaced : Bool
  text : String
  deriving DecidableEq, Repr

/-- The parts of a word, which may be broken after a hyphen between two letters on each side. -/
def wordParts (done : List Char) : List Char → List String
  | [] => if done = [] then [] else [String.ofList done]
  | '-' :: c :: d :: rest =>
    let before := (done.drop (done.length - 2))
    if before.length = 2 && before.all Char.isAlpha && c.isAlpha && d.isAlpha then
      String.ofList (done ++ ['-']) :: wordParts [c] (d :: rest)
    else wordParts (done ++ ['-']) (c :: d :: rest)
  | c :: rest => wordParts (done ++ [c]) rest

/-- The parts of a text. -/
def piecesOf (text : String) : List Piece :=
  ((splitString ' ' text).filter (· ≠ "")).flatMap fun word =>
    match wordParts [] word.toList with
    | [] => []
    | first :: rest => ⟨true, first⟩ :: rest.map (Piece.mk false)

/-- Fills lines of a width with pieces, the first of them behind a text that stands already. -/
def fillFrom (width : Nat) : String → List Piece → List String
  | line, [] => [line]
  | line, p :: rest =>
    let lead := if p.spaced && line ≠ "" then " " else ""
    if line = "" || line.length + lead.length + p.text.length ≤ width then
      fillFrom width (line ++ lead ++ p.text) rest
    else line :: fillFrom width p.text rest

/-- A text in lines of a width. -/
def fill (width : Nat) (text : String) : List String :=
  fillFrom width "" (piecesOf text)

/-- Blanks. -/
def blanks (n : Nat) : String :=
  String.ofList (List.replicate n ' ')

/-! ### Columns -/

/-- The indentation of the parts of a page. -/
def pageIndent : Nat := 2

/-- The widest that the first column gets. -/
def columnLimit : Nat := 30

/-- The blanks between two columns. -/
def columnGap : Nat := 2

/-- One row of a list, with a first column of a width. -/
def row (width column : Nat) (first second : String) : List String :=
  let start := blanks pageIndent ++ first
  let below := blanks (column + pageIndent)
  let lines := fill (max (width - column - pageIndent) 10) second
  if first.length + columnGap ≤ column then
    (start ++ blanks (column - first.length) ++ lines.headD "") :: lines.tail.map (below ++ ·)
  else start :: lines.map (below ++ ·)

/-- The lines of a list with two columns. -/
def table (width : Nat) (rows : List (String × String)) : List String :=
  let widest := rows.foldl (fun n r => max n r.1.length) 0
  let column := min widest columnLimit + columnGap
  rows.flatMap fun r => row width column r.1 r.2

/-! ### Pages -/

/-- A command: its name as it is called, its arguments, what it does in paragraphs, and its
options. -/
structure CommandSpec where
  name : String
  usage : String
  about : List String
  options : List OptionSpec
  deriving DecidableEq, Repr

namespace CommandSpec

/-- The line that shows how a command is called. -/
def usageLine (c : CommandSpec) : String :=
  "Usage: " ++ c.name ++ " " ++ c.usage

/-- How an option is written in a list. -/
def optionText (o : OptionSpec) : String :=
  let short := (o.short.map fun s => String.ofList ['-', s, ',', ' ']).getD ""
  let value := (o.kind.placeholder?.map (" " ++ ·)).getD ""
  short ++ o.long ++ value

/-- The width of a page on a terminal with so many columns. -/
def pageWidth (columns : Nat) : Nat :=
  max (min columns 120 - 2) 50

/-- The lines of what a command does. -/
def aboutLines (width : Nat) (paragraphs : List String) : List String :=
  paragraphs.flatMap fun p =>
    "" :: (fill (width - pageIndent) p).map (blanks pageIndent ++ ·)

/-- Words of a text as long as they fit into so many characters, with the length so far. -/
def wordsWithin (limit : Nat) : Nat → List String → List String
  | _, [] => []
  | length, word :: rest =>
    let next := length + word.length + (if length = 0 then 0 else 1)
    if limit < next then [] else word :: wordsWithin limit next rest

/-- The first sentence of a text, shortened to a number of characters. -/
def summaryText (limit : Nat) (text : String) : String :=
  let words := (splitString ' ' text).filter (· ≠ "")
  let ending := words.findIdx fun w => w.toList.getLast? == some '.'
  let sentence := words.take (ending + 1)
  let whole := " ".intercalate sentence
  if whole.length ≤ limit then whole
  else " ".intercalate (wordsWithin (limit - 3) 0 sentence) ++ "..."

/-- The help page of a command with the commands below it. -/
def helpPage (columns : Nat) (c : CommandSpec) (below : List (String × CommandSpec)) : String :=
  let width := pageWidth columns
  let options := (c.options ++ [helpOption]).map fun o => (optionText o, o.help)
  let limit := width - 6 - below.foldl (fun n e => max n e.1.length) 0
  let commands := below.map fun e => (e.1, summaryText limit (e.2.about.headD ""))
  unlines <|
    c.usageLine :: aboutLines width c.about ++ ["", "Options:"] ++ table width options ++
      (if commands = [] then [] else ["", "Commands:"] ++ table width commands)

end CommandSpec

end Restyle.CommandLine
