import Restyle.Text.Blank
import Restyle.Tree
import Restyle.Wildcard

/-!
# File sets

A list of files is given as a text with commas between its patterns. A pattern that names a file
stands for that file; one that names a directory for the files below it with one of some endings;
any other is searched with wildcards, name by name, where `**` as a whole name stands for any number
of directories. Wildcards pass over hidden names.

Only regular files are found, each pattern's in ascending order. A file that several patterns name,
or that one pattern reaches in several ways, is listed once for each.
-/

namespace Restyle

open Text

namespace Tree

/-- The directory that a text names; the empty text names the working directory. -/
def directoryAt? (t : Tree) (directory : String) : Option Location :=
  if directory = "" then some t.here
  else
    match t.walk directory with
    | .ok (.directory l) => some l
    | _ => none

/-- The names in a directory, only those of directories if so wanted. -/
def list (t : Tree) (directoriesOnly : Bool) (directory : String) : List String :=
  match t.directoryAt? directory with
  | some l =>
    ((t.namesIn l).filter fun e => !directoriesOnly || e.2 == .directory).map Prod.fst
  | none => []

/-- The paths below a directory, as seen from it, that hold no hidden name. -/
def descend (t : Tree) (directoriesOnly : Bool) (directory : String) : List String :=
  match t.directoryAt? directory with
  | some l =>
    ((t.below l).filter fun e =>
      (!directoriesOnly || e.2 == .directory) && e.1.all fun name => !Wildcard.isHidden name).map
        fun e => Path.ofPieces e.1
  | none => []

end Tree

namespace FileSet

/-! ### Wildcard search -/

/-- The name that stands for any number of directories. -/
def anyDepth : String := "**"

/-- A search: the directory that it starts from, as written, and the names to match below it. -/
structure Search where
  base : String
  names : List String
  deriving DecidableEq, Repr

/-- Names without empty ones, save for an empty one at the end. -/
def dropInnerEmpty : List String → List String
  | [] => []
  | [name] => [name]
  | name :: rest => if name = "" then dropInnerEmpty rest else name :: dropInnerEmpty rest

/-- The directory that is written before the first name with a wildcard. -/
def baseOf (names : List String) : String :=
  if names = [] then ""
  else if names.all (· = "") then Path.ofPieces names ++ "/"
  else Path.withoutFinalSlashes (Path.ofPieces names)

/-- The search of a pattern. -/
def Search.ofPattern (pattern : String) : Search :=
  let pieces := Path.pieces pattern
  ⟨baseOf (pieces.takeWhile fun p => !Wildcard.isMagic p),
    dropInnerEmpty (pieces.dropWhile fun p => !Wildcard.isMagic p)⟩

/-- The names in a directory that match a pattern. -/
def matching (t : Tree) (directoriesOnly : Bool) (directory pattern : String) : List String :=
  (t.list directoriesOnly directory).filter fun name =>
    (Wildcard.isHidden pattern || !Wildcard.isHidden name) && Wildcard.isMatch pattern name

/-- What one name of a search leads to from a directory. -/
def step (t : Tree) (directoriesOnly : Bool) (name directory : String) : List String :=
  let found :=
    if name = anyDepth then
      (if directory = "" || t.isDirectory directory then [""] else []) ++
        t.descend directoriesOnly directory
    else if Wildcard.isMagic name then matching t directoriesOnly directory name
    else if name = "" then (if t.isDirectory directory then [""] else [])
    else if t.exists? (Path.join directory name) then [name] else []
  found.map (Path.join directory)

/-- What the names of a search lead to from some directories. -/
def steps (t : Tree) : List String → List String → List String
  | [], directories => directories
  | [name], directories => directories.flatMap (step t false name)
  | name :: rest, directories => steps t rest (directories.flatMap (step t true name))

/-- The paths that a pattern with a wildcard leads to. -/
def search (t : Tree) (pattern : String) : Except FileFault (List String) :=
  let s := Search.ofPattern pattern
  if s.names = [] then .ok []
  else if Path.hasNul s.base then .error .unusable
  else .ok (steps t s.names [s.base])

/-! ### Patterns -/

/-- The endings of the files that a directory stands for, if none are given. -/
def defaultEndings : List String := [".css"]

/-- Paths in ascending order of their code points. -/
def sorted (paths : List String) : List String :=
  paths.mergeSort fun a b => a ≤ b

/-- The regular files among paths, in order. -/
def regularFiles (t : Tree) (paths : List String) : List String :=
  sorted (paths.filter t.isFile)

/-- The files below a directory that have one of the endings. -/
def ofDirectory (t : Tree) (directory : String) (endings : List String) :
    Except FileFault (List String) := do
  let found ← endings.mapM fun ending =>
    search t (Path.join (Path.join directory anyDepth) ("*" ++ ending))
  return regularFiles t found.flatten

/-- The files that a pattern stands for. -/
def ofPattern (t : Tree) (pattern : String) (endings : List String) :
    Except FileFault (List String) :=
  if pattern = "" then .ok []
  else if t.isFile pattern then .ok [pattern]
  else if t.isDirectory pattern then ofDirectory t pattern endings
  else if t.exists? pattern then .ok []
  else do return regularFiles t (← search t pattern)

/-- The patterns of a text, trimmed. -/
def patterns (input : String) : List String :=
  (splitString ',' input).map trim

end FileSet

end Restyle
