import Restyle.Json.Printer
import Restyle.Renamed

/-!
# Summaries

The summary of a run holds its diffs and the files that they modify, each file once, in the order
of the first diffs. `Summary.render` is its JSON text, the content of the summary file.
-/

namespace Restyle

open Text

/-- What a run changed. -/
structure Summary where
  modified : List String
  changes : List Diff
  deriving DecidableEq, Repr, Inhabited

/-- The items of a list that are not in `seen`, each where it stands first. -/
def firstOccurrences {β : Type} [DecidableEq β] (seen : List β) : List β → List β
  | [] => []
  | x :: rest =>
    if x ∈ seen then firstOccurrences seen rest
    else x :: firstOccurrences (x :: seen) rest

/-- A diff as a table of its fields. -/
def Diff.toValue (d : Diff) : Value (List Glyph) :=
  .table [("file", .text (Glyph.ofString d.file)), ("line", .int d.line), ("oldClass", .text d.old),
    ("newClass", .text d.new)]

/-- A rename as a table of its two names. -/
def Rename.toValue (r : Rename) : Value (List Glyph) :=
  .table [("oldClass", .text r.old), ("newClass", .text r.new)]

namespace Summary

/-- The summary of the diffs of a run. -/
def ofDiffs (diffs : List Diff) : Summary :=
  ⟨firstOccurrences [] (diffs.map Diff.file), diffs⟩

/-- The number of changes. -/
def total (s : Summary) : Nat :=
  s.changes.length

/-- Whether anything changed. -/
def hasChanges (s : Summary) : Bool :=
  0 < s.total

/-- A summary as a table: the total first, then the files, then the diffs. -/
def toValue (s : Summary) : Value (List Glyph) :=
  .table [("totalChanges", .int s.total),
    ("modifiedFiles", .list (s.modified.map fun file => .text (Glyph.ofString file))),
    ("changes", .list (s.changes.map Diff.toValue))]

/-- The JSON text of a summary. -/
def render (s : Summary) : String :=
  Json.render s.toValue

end Summary

end Restyle
