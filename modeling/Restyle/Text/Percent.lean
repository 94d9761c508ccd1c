import Restyle.Text.Quoted
import Restyle.Text.Utf8

/-!
# Percent escapes

A percent sign and two hexadecimal digits stand for an octet. `escape` writes the characters that
have no place in a text as the escapes of their octets, and `unescape` reads escapes back.
-/

namespace Restyle.Text

/-- An octet as a percent escape. -/
def percentEscape (b : UInt8) : List Char :=
  '%' :: (hexDigits 2 b.toNat).map Char.toUpper

/-- A text with percent escapes for all characters but those that pass a test. -/
def escape (isKept : Char → Bool) (s : String) : String :=
  String.ofList <| s.toList.flatMap fun c =>
    if isKept c then [c] else (String.utf8EncodeChar c).flatMap percentEscape

/-- The value of a hexadecimal digit. -/
def hexValue? (c : Char) : Option Nat :=
  if c.isDigit then some (c.toNat - 48)
  else if 'a' ≤ c ∧ c ≤ 'f' then some (c.toNat - 87)
  else if 'A' ≤ c ∧ c ≤ 'F' then some (c.toNat - 55)
  else none

/-- Characters with their escapes read, each as an octet. -/
def unescape : List Char → List (Char ⊕ UInt8)
  | '%' :: a :: b :: rest =>
    match hexValue? a, hexValue? b with
    | some high, some low => .inr (UInt8.ofNat (16 * high + low)) :: unescape rest
    | _, _ => .inl '%' :: unescape (a :: b :: rest)
  | c :: rest => .inl c :: unescape rest
  | [] => []

/-- An ASCII text with its escapes read as UTF-8. -/
def unescapeUtf8 (s : String) : String :=
  decodeReplacing <| (unescape s.toList).flatMap fun
    | .inl c => String.utf8EncodeChar c
    | .inr b => [b]

end Restyle.Text
