import Restyle.Number.Shortest
import Restyle.Text.Quoted
import Restyle.Value

/-!
# JSON text in ASCII

`render` writes a value as JSON with two blanks of indentation per level, one item or field a line;
an empty list or table stays on its line. The text is pure ASCII: a character outside U+0020 to
U+007E is escaped, by a short escape where JSON has one and by its UTF-16 units otherwise. A surrogate
is a unit of its own.

An integer is written with all of its digits. What commands show are counts and numbers of lines, and no
file is so long that these have more than `Text.digitLimit` digits.
-/

namespace Restyle.Json

open Restyle.Text

/-- One UTF-16 unit as an escape. -/
def unitEscape (unit : Nat) : List Char :=
  '\\' :: 'u' :: hexDigits 4 unit

/-- A character inside a JSON string. -/
def escapeChar (c : Char) : List Char :=
  let n := c.toNat
  if c = '"' ∨ c = '\\' then ['\\', c]
  else if c = '\n' then ['\\', 'n']
  else if c = '\r' then ['\\', 'r']
  else if c = '\t' then ['\\', 't']
  else if n = 8 then ['\\', 'b']
  else if n = 12 then ['\\', 'f']
  else if 0x20 ≤ n ∧ n ≤ 0x7E then [c]
  else if n < 0x10000 then unitEscape n
  else
    unitEscape (0xD800 + (n - 0x10000) / 0x400) ++ unitEscape (0xDC00 + (n - 0x10000) % 0x400)

/-- A glyph inside a JSON string. -/
def escapeGlyph : Glyph → List Char
  | .char c => escapeChar c
  | g => unitEscape g.codePoint

/-- A JSON string. -/
def stringText (text : List Glyph) : String :=
  String.ofList ('"' :: (text.flatMap escapeGlyph ++ ['"']))

/-- The number of blanks per level. -/
def indentWidth : Nat := 2

/-- The start of a line at a level. -/
def lineStart (level : Nat) : String :=
  String.ofList ('\n' :: List.replicate (level * indentWidth) ' ')

/-- Written members between brackets: each on a line of its own, or nothing at all. -/
def bracketed (left right : String) (level : Nat) (members : List String) : String :=
  match members with
  | [] => left ++ right
  | _ =>
    left ++ lineStart (level + 1) ++ ("," ++ lineStart (level + 1)).intercalate members ++
      lineStart level ++ right

/-- The text of a number; the two infinities have names of their own. -/
def realText (r : Number.Binary64) : String :=
  match r with
  | .nan => "NaN"
  | .infinite negative => if negative then "-Infinity" else "Infinity"
  | r => r.text

mutual

/-- The JSON text of a value that stands at a level. -/
def renderAt (level : Nat) : Value (List Glyph) → String
  | .null => "null"
  | .bool b => if b then "true" else "false"
  | .int n => toString n
  | .real r => realText r
  | .text s => stringText s
  | .date d => stringText d.isoText
  | .clock t => stringText t.isoText
  | .moment m => stringText (m.isoText "T")
  | .list items => bracketed "[" "]" level (renderItems (level + 1) items)
  | .table fields => bracketed "\x7b" "\x7d" level (renderFields (level + 1) fields)

/-- The texts of the items of a list. -/
def renderItems (level : Nat) : List (Value (List Glyph)) → List String
  | [] => []
  | v :: rest => renderAt level v :: renderItems level rest

/-- The texts of the fields of a table. -/
def renderFields (level : Nat) : Table (List Glyph) → List String
  | [] => []
  | (k, v) :: rest => (stringText k ++ ": " ++ renderAt level v) :: renderFields level rest

end

/-- The JSON text of a value. -/
def render (v : Value (List Glyph)) : String :=
  renderAt 0 v

end Restyle.Json
