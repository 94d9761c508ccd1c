/-!
# White space

`isBlank` is the white space that entries, settings and file patterns are trimmed of: the
characters with Unicode's `White_Space` property together with the four information separators
U+001C to U+001F.

`trim` drops blanks at both ends of a text and keeps those inside it; `trimSpace` does so for the
white space around numbers.
-/

namespace Restyle.Text

/-- Whether a character counts as white space at the ends of an entry, setting or pattern. -/
def isBlank (c : Char) : Bool :=
  let n := c.toNat
  (9 ≤ n && n ≤ 13) || (28 ≤ n && n ≤ 32) || n == 0x85 || n == 0xA0 || n == 0x1680 ||
    (0x2000 ≤ n && n ≤ 0x200A) || n == 0x2028 || n == 0x2029 || n == 0x202F || n == 0x205F ||
    n == 0x3000

/-- A list without the symbols at its two ends that pass a test. -/
def trimBy {α : Type} (isDropped : α → Bool) (symbols : List α) : List α :=
  ((symbols.dropWhile isDropped).reverse.dropWhile isDropped).reverse

/-- A list of characters without the blanks at its two ends. -/
def trimChars (cs : List Char) : List Char :=
  trimBy isBlank cs

/-- A text without the blanks at its two ends. -/
def trim (s : String) : String :=
  String.ofList (trimChars s.toList)

/-- Unicode white space, as it may stand around a number: the blanks without the information
separators. -/
def isSpace (c : Char) : Bool :=
  isBlank c && !(28 ≤ c.toNat && c.toNat ≤ 31)

/-- A list of characters without the white space at its two ends. -/
def trimSpace (cs : List Char) : List Char :=
  trimBy isSpace cs

end Restyle.Text
