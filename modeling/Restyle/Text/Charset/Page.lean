import Restyle.Text.Charset.Reading

/-!
# Single-octet charsets

A page gives a character to each octet. Below the first octet of its table every octet has the
character of the same number; a character U+FFFD in the table stands for none.
-/

namespace Restyle.Text.Charset

/-- A charset with one octet a character: its name, its other names, the first octet of its table
and the table. -/
structure Page where
  name : String
  aliases : List String
  first : Nat
  upper : String

/-- The character of an octet. -/
def Page.char? (p : Page) (b : UInt8) : Option Char :=
  if b.toNat < p.first then some (Char.ofNat b.toNat)
  else (p.upper.toList[b.toNat - p.first]?).filter (· ≠ replacement)

/-- The text of octets. -/
def Page.read (p : Page) (bytes : Octets) : Reading :=
  bytes.map fun b => (p.char? b).map .char

end Restyle.Text.Charset
