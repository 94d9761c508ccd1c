import Restyle.Text.Blank
import Restyle.Text.Lines
import Restyle.Text.Quoted
import Restyle.Text.Utf8

/-!
# Glyphs

Text that comes from outside need not be made of characters only. A glyph is a character, a stray
octet that belongs to none, or a lone surrogate, half a character that stands for no octet. File text
has characters and stray octets: `Glyph.ofOctets` keeps every malformed octet as a glyph of its own,
so that `Glyph.toOctets` writes the octets back unchanged. A lone surrogate only comes with the text
of an answer. Nothing can be written that holds one (`Glyph.encode?`), and what is printed has to be
made of characters (`Glyph.string?`).

Both kinds of broken glyphs count as surrogates, which messages show by their numbers.
-/

namespace Restyle.Text

/-- Whether a number is that of a surrogate that stands for no octet. -/
def isLone (n : Nat) : Bool :=
  (0xD800 ≤ n && n < 0xDC80) || (0xDD00 ≤ n && n < 0xE000)

/-- A symbol of text: a character, an octet that belongs to none, or a surrogate that stands alone. -/
inductive Glyph
  | char (c : Char)
  | stray (b : UInt8) (high : 0x80 ≤ b := by decide)
  | lone (unit : Nat) (isLone : isLone unit = true := by decide)
  deriving DecidableEq, Repr

namespace Glyph

/-! ### Octets -/

/-- An octet that is not read as part of a longer encoding. -/
def ofOctet (b : UInt8) : Glyph :=
  if h : 0x80 ≤ b then .stray b h else .char (Char.ofNat b.toNat)

/-- File text: the characters of the octets, every malformed octet as a stray glyph. -/
def ofOctets (bytes : Octets) : List Glyph :=
  (decode bytes).flatMap fun
    | .char c => [Glyph.char c]
    | .malformed run => run.map ofOctet

/-- The octets of a glyph; a lone surrogate has those that its number would have. -/
def octets : Glyph → Octets
  | .char c => String.utf8EncodeChar c
  | .stray b _ => [b]
  | .lone n _ => [0xED, UInt8.ofNat (n / 64 % 64 + 0x80), UInt8.ofNat (n % 64 + 0x80)]

/-- The octets of text. -/
def toOctets (text : List Glyph) : Octets :=
  text.flatMap octets

/-- Whether a glyph has octets of its own. -/
def isEncodable : Glyph → Bool
  | .char _ | .stray _ _ => true
  | .lone _ _ => false

/-- Whether text has octets, which takes that no lone surrogate is in it. -/
def encodes (text : List Glyph) : Bool :=
  text.all isEncodable

/-- The octets of text, if it has them. -/
def encode? (text : List Glyph) : Option Octets :=
  if encodes text then some (toOctets text) else none

/-! ### Code points -/

/-- The number of a glyph among the code points: a stray octet is one of the surrogates. -/
def codePoint : Glyph → Nat
  | .char c => c.toNat
  | .stray b _ => 0xDC00 + b.toNat
  | .lone n _ => n

/-- The glyph of a code point. -/
def ofCodePoint? (n : Nat) : Option Glyph :=
  if h : isLone n = true then some (.lone n h)
  else if 0xDC80 ≤ n ∧ n < 0xDD00 then some (ofOctet (UInt8.ofNat (n - 0xDC00)))
  else if n ≤ 0x10FFFF then some (.char (Char.ofNat n))
  else none

/-! ### Strings -/

/-- The text of a string. -/
def ofString (s : String) : List Glyph :=
  s.toList.map .char

/-- The character of a glyph that is one. -/
def char? : Glyph → Option Char
  | .char c => some c
  | .stray _ _ | .lone _ _ => none

/-- The string of text that is made of characters. -/
def string? (text : List Glyph) : Option String :=
  (text.mapM char?).map String.ofList

/-- A glyph in a message: one that is no character is shown by its number. -/
def shownChars : Glyph → List Char
  | .char c => [c]
  | g => '\\' :: 'u' :: hexDigits 4 g.codePoint

/-- Text in a message. -/
def shown (text : List Glyph) : String :=
  String.ofList (text.flatMap shownChars)

/-- Text between quotes. -/
def quoted (text : List Glyph) : String :=
  let quote := quoteFor (text.filterMap char?)
  let escaped := text.flatMap fun
    | .char c => escapeChar quote c
    | g => g.shownChars
  String.ofList (quote :: (escaped ++ [quote]))

/-! ### Lines and white space -/

/-- The lines of text. -/
def lines (text : List Glyph) : List (List Glyph) :=
  splitOn (.char '\n') text

/-- Lines joined by newlines. -/
def unlines (ls : List (List Glyph)) : List Glyph :=
  joinWith (.char '\n') ls

/-- Whether a glyph counts as white space. -/
def isBlank : Glyph → Bool
  | .char c => Text.isBlank c
  | .stray _ _ | .lone _ _ => false

/-- Text without the blanks at its two ends. -/
def trim (text : List Glyph) : List Glyph :=
  trimBy isBlank text

end Glyph

instance : Coe String (List Glyph) := ⟨Glyph.ofString⟩

end Restyle.Text
