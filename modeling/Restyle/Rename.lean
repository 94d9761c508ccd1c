import Restyle.Text.Glyph

/-!
# Renames and change lists

A change list is plain text with one class name a line: an old name, its new name, and so on.
Blank lines do not count and the names are trimmed. The names are paired in order, and an odd last
one is dropped. A name is any text, also one with surrogates in it.

A rename is relevant if its two names differ and one of them holds an underscore or a hyphen.
-/

namespace Restyle

open Text

/-- A rename of a class. -/
structure Rename where
  old : List Glyph
  new : List Glyph
  deriving DecidableEq, Repr, Inhabited

namespace Rename

/-- The selector of the old name. -/
def oldSelector (r : Rename) : List Glyph :=
  .char '.' :: r.old

/-- The selector of the new name. -/
def newSelector (r : Rename) : List Glyph :=
  .char '.' :: r.new

/-- Whether a glyph marks a name that is worth renaming. -/
def isMarker (g : Glyph) : Bool :=
  g == .char '_' || g == .char '-'

/-- Whether a rename is to be applied at all. -/
def isRelevant (r : Rename) : Bool :=
  r.old != r.new && (r.old.any isMarker || r.new.any isMarker)

end Rename

namespace ChangeList

/-- The entries of a change list: its lines, trimmed, without the blank ones. -/
def entries (text : List Glyph) : List (List Glyph) :=
  ((Glyph.lines text).map Glyph.trim).filter (· ≠ [])

/-- The renames of a list of entries, taken two by two. -/
def pairs : List (List Glyph) → List Rename
  | old :: new :: rest => ⟨old, new⟩ :: pairs rest
  | _ => []

/-- The renames that are to be applied. -/
def relevant (renames : List Rename) : List Rename :=
  renames.filter Rename.isRelevant

/-- The renames to apply that a change list asks for. -/
def renames (text : List Glyph) : List Rename :=
  relevant (pairs (entries text))

end ChangeList

end Restyle
