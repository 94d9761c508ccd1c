import Restyle.Text.Lines
import Restyle.Text.Utf8

/-!
# Paths as text

A path is a text of names between slashes. `join` puts a name behind a directory and keeps both as
they are written; `normal` is the shortest way to write a path without looking at any directory:
empty names and single dots go, double dots stay.
-/

namespace Restyle.Path

open Text

/-- The separator of names. -/
def slash : Char := '/'

/-- Whether a path starts at the root of all directories. -/
def isAbsolute (path : String) : Bool :=
  path.toList.head? == some slash

/-- The texts between the slashes of a path. -/
def pieces (path : String) : List String :=
  splitString slash path

/-- Whether a piece leads anywhere else. -/
def isStep (piece : String) : Bool :=
  piece != "" && piece != "."

/-- Texts with a slash between them. -/
def ofPieces (names : List String) : String :=
  "/".intercalate names

/-- A name behind a directory. An absolute name stands alone. -/
def join (directory name : String) : String :=
  if isAbsolute name || directory = "" then name
  else if directory.toList.getLast? == some slash then directory ++ name
  else directory ++ "/" ++ name

/-- The slashes that a normal path starts with: exactly two are kept, more count as one. -/
def root (path : String) : String :=
  match (path.toList.takeWhile (· == slash)).length with
  | 0 => ""
  | 2 => "//"
  | _ => "/"

/-- The shortest way to write a path. -/
def normal (path : String) : String :=
  match root path ++ ofPieces ((pieces path).filter isStep) with
  | "" => "."
  | text => text

/-- A text without the slashes at its end. -/
def withoutFinalSlashes (s : String) : String :=
  String.ofList (s.toList.reverse.dropWhile (· == slash)).reverse

/-- The number of octets of a text. -/
def size (s : String) : Nat :=
  (octetsOf s).length

/-- The number of octets that a name may have. -/
def nameLimit : Nat := 255

/-- The number of octets that a path may not reach. -/
def pathLimit : Nat := 4096

/-- Whether a text holds the NUL character, which no path has. -/
def hasNul (s : String) : Bool :=
  s.toList.any fun c => c.toNat == 0

end Restyle.Path
