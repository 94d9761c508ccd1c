import Restyle.Rename.Index
import Restyle.Selector

/-!
# Renamed text

In a line, the selectors that it held at first are renamed: from left to right, each one that the
index knows replaces the first occurrence of its text in the line as it is by then, and is recorded
as a diff. So what is recorded depends on the line alone, while a replacement may hit an earlier
place than the selector that asks for it.

The content of a file is gone through line by line; lines end at newlines and nowhere else.
-/

namespace Restyle

open Text

variable {α : Type} [DecidableEq α] [Script α]

/-- The record of one selector that was renamed. -/
structure Diff where
  file : String
  line : Int
  old : List Glyph
  new : List Glyph
  deriving DecidableEq, Repr, Inhabited

/-- The record of a rename on a line of a file. -/
def Diff.ofRename (file : String) (line : Int) (r : Rename) : Diff :=
  ⟨file, line, r.old, r.new⟩

/-- Text after renaming and the records of what was renamed in it. -/
structure Renamed (α : Type) where
  text : List α
  diffs : List Diff

/-- The renames that a line asks for, one for each of its selectors that the index knows. -/
def renamesOn (index : Index) (line : List α) : List Rename :=
  (selectors line).filterMap index.find?

/-- A line after one rename: the first occurrence of the old selector becomes the new one. -/
def applyRename (line : List α) (r : Rename) : List α :=
  replaceFirst (Script.write r.oldSelector) (Script.write r.newSelector) line

/-- A line with its selectors renamed. -/
def renameInLine (file : String) (number : Int) (index : Index) (line : List α) : Renamed α :=
  let renames := renamesOn index line
  ⟨renames.foldl applyRename line, renames.map (Diff.ofRename file number)⟩

/-- The lines from a number on, each with its selectors renamed. -/
def renameInLines (file : String) (index : Index) : Int → List (List α) → List (Renamed α)
  | _, [] => []
  | number, line :: rest =>
    renameInLine file number index line :: renameInLines file index (number + 1) rest

/-- The content of a file with its selectors renamed. -/
def renameInContent (file : String) (index : Index) (content : List α) : Renamed α :=
  let done := renameInLines file index 1 (Text.splitOn Script.newline content)
  ⟨Text.joinWith Script.newline (done.map Renamed.text), done.flatMap Renamed.diffs⟩

end Restyle
