import Restyle.Text.Blank

/-!
# Integers in text

`integer?` reads an integer in decimal: white space around it, a sign, and digits with single
underscores between them. Digits may be of any script. A number of more digits than `digitLimit` is
not read.
-/

namespace Restyle.Text

/-- The zero of each script that has decimal digits; the other nine follow it. -/
def digitZeros : List Nat :=
  [0x30, 0x660, 0x6F0, 0x7C0, 0x966, 0x9E6, 0xA66, 0xAE6, 0xB66, 0xBE6, 0xC66, 0xCE6, 0xD66, 0xDE6,
    0xE50, 0xED0, 0xF20, 0x1040, 0x1090, 0x17E0, 0x1810, 0x1946, 0x19D0, 0x1A80, 0x1A90, 0x1B50,
    0x1BB0, 0x1C40, 0x1C50, 0xA620, 0xA8D0, 0xA900, 0xA9D0, 0xA9F0, 0xAA50, 0xABF0, 0xFF10,
    0x104A0, 0x10D30, 0x11066, 0x110F0, 0x11136, 0x111D0, 0x112F0, 0x11450, 0x114D0, 0x11650,
    0x116C0, 0x11730, 0x118E0, 0x11950, 0x11C50, 0x11D50, 0x11DA0, 0x16A60, 0x16AC0, 0x16B50,
    0x1D7CE, 0x1D7D8, 0x1D7E2, 0x1D7EC, 0x1D7F6, 0x1E140, 0x1E2F0, 0x1E950, 0x1FBF0]

/-- The value of a decimal digit of any script. -/
def decimalDigit? (c : Char) : Option Nat :=
  digitZeros.findSome? fun first =>
    if first ≤ c.toNat ∧ c.toNat < first + 10 then some (c.toNat - first) else none

/-- The value of digits with single underscores before and between them, read after `value`. -/
def digitsValue? (digit? : Char → Option Nat) (value : Nat) : List Char → Option Nat
  | [] => some value
  | '_' :: c :: rest => (digit? c).bind fun d => digitsValue? digit? (value * 10 + d) rest
  | c :: rest => (digit? c).bind fun d => digitsValue? digit? (value * 10 + d) rest

/-- The greatest number of decimal digits of an integer that is read or shown. -/
def digitLimit : Nat := 4300

/-- Whether an integer has no more decimal digits than are shown. -/
def isShort (n : Int) : Bool :=
  n.natAbs < Nat.pow 10 digitLimit

/-- The value of a number without a sign. -/
def natural? (cs : List Char) : Option Nat :=
  match cs with
  | [] | '_' :: _ => none
  | _ =>
    if digitLimit < cs.countP (· != '_') then none else digitsValue? decimalDigit? 0 cs

/-- The value of an integer in text. -/
def integer? (s : String) : Option Int :=
  match trimSpace s.toList with
  | '-' :: digits => (natural? digits).map fun n => -(n : Int)
  | '+' :: digits => (natural? digits).map Int.ofNat
  | digits => (natural? digits).map Int.ofNat

end Restyle.Text
