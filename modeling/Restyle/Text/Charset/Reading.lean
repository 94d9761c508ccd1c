import Restyle.Text.Glyph

/-!
# Texts as they are read

A reading of octets holds the glyphs in order, and nothing in the place of each malformed part. It is
a text only if no part is malformed; otherwise U+FFFD can stand for each of them. Some charsets can
spell surrogates, which are then read as glyphs of their own.
-/

namespace Restyle.Text

/-- The character for what cannot be read. -/
def replacement : Char := Char.ofNat 0xFFFD

/-- Glyphs, with none for each malformed part. -/
abbrev Reading := List (Option Glyph)

namespace Reading

/-- The reading of well-formed text. -/
def ofChars (cs : List Char) : Reading :=
  cs.map fun c => some (.char c)

/-- The text of a reading, if nothing is malformed. -/
def strict? (r : Reading) : Option (List Glyph) :=
  r.mapM id

/-- The text of a reading with U+FFFD for each malformed part. -/
def replaced (r : Reading) : List Glyph :=
  r.map fun g => g.getD (.char replacement)

end Reading

end Restyle.Text
