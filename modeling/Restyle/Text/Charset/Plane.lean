import Restyle.Text.Charset.Reading

/-!
# Planes of characters

A plane gives characters to the codes of two octets. It is written down as runs of characters whose
codes follow each other.
-/

namespace Restyle.Text.Charset

/-- A plane: its first code, and the characters from there on, with U+FFFD for none. -/
structure Plane where
  first : Nat
  chars : Array Char

namespace Plane

/-- Characters with a run of others put in their places from an index on. -/
def putRun (chars : Array Char) (index : Nat) : List Char → Array Char
  | [] => chars
  | c :: rest => putRun (chars.setIfInBounds index c) (index + 1) rest

/-- The plane of runs, each with the code of its first character. -/
def ofRuns (first last : Nat) (runs : List (Nat × String)) : Plane :=
  ⟨first, runs.foldl (fun chars run => putRun chars (run.1 - first) run.2.toList)
    (Array.replicate (last + 1 - first) replacement)⟩

/-- The character of a code. -/
def char? (p : Plane) (code : Nat) : Option Char :=
  if code < p.first then none else (p.chars[code - p.first]?).filter (· ≠ replacement)

end Plane

end Restyle.Text.Charset
