import Restyle.Number.Shortest
import Restyle.Text.Integer
import Restyle.Text.Quoted
import Restyle.Toml.Text
import Restyle.Value

/-!
# Writing TOML

A table is written with its plain fields first, then its tables, each under a header of its own and
after an empty line. A list of tables is written under headers as well, unless each of its tables
fits into a line; any other list has one item a line. Keys are written bare where they can be.

Null has no place in TOML, and an integer of too many digits is not written either. Writing stops
where such an `Obstacle` is met, and `Written` holds what was written before it.
-/

namespace Restyle.Toml

/-! ### Keys and texts -/

/-- A character inside a text. -/
def escapedChar (c : Char) : List Char :=
  let n := c.toNat
  if c = '"' ∨ c = '\\' then ['\\', c]
  else if c = '\n' then ['\\', 'n']
  else if c = '\r' then ['\\', 'r']
  else if n = 8 then ['\\', 'b']
  else if n = 12 then ['\\', 'f']
  else if isControl c then '\\' :: 'u' :: Text.hexDigits 4 n
  else [c]

/-- A text in quotes. -/
def quotedText (s : String) : String :=
  String.ofList ('"' :: (s.toList.flatMap escapedChar ++ ['"']))

/-- A part of a key. -/
def keyText (s : String) : String :=
  if s != "" && s.toList.all isBareKeyChar then s else quotedText s

/-- A field on one line. -/
def fieldText (key value : String) : String :=
  keyText key ++ " = " ++ value

/-! ### Values in place -/

/-- What cannot be written. -/
inductive Obstacle
  | null
  | longInteger
  deriving DecidableEq, Repr

/-- An integer in decimal. -/
def integerText (n : Int) : Except Obstacle String :=
  if Text.isShort n then .ok (toString n) else .error .longInteger

/-- The number of blanks that the items of a list are indented by. -/
def indentWidth : Nat := 4

/-- The blanks at the start of a line at a level. -/
def indent (level : Nat) : String :=
  String.ofList (List.replicate (level * indentWidth) ' ')

/-- Written items in brackets, one a line. -/
def listText (level : Nat) (items : List String) : String :=
  match items with
  | [] => "[]"
  | _ =>
    "[\n" ++ ",\n".intercalate (items.map (indent (level + 1) ++ ·)) ++ ",\n" ++ indent level ++ "]"

/-- Written fields in braces. -/
def inlineTableText (fields : List String) : String :=
  match fields with
  | [] => "\x7b\x7d"
  | _ => "\x7b " ++ ", ".intercalate fields ++ " \x7d"

mutual

/-- A value in place, at a level of lists. A table begins with the first level again. -/
def literal (level : Nat) : Value → Except Obstacle String
  | .null => .error .null
  | .bool b => .ok (if b then "true" else "false")
  | .int n => integerText n
  | .real r => .ok r.text
  | .text s => .ok (quotedText s)
  | .date d => .ok d.isoText
  | .clock t => .ok t.isoText
  | .moment m => .ok (m.isoText " ")
  | .list items => (literalItems (level + 1) items).map (listText level)
  | .table fields => (literalFields fields).map inlineTableText

/-- The items of a list in place. -/
def literalItems (level : Nat) : List Value → Except Obstacle (List String)
  | [] => .ok []
  | v :: rest => do
    let item ← literal level v
    let others ← literalItems level rest
    return item :: others

/-- The fields of a table in place. -/
def literalFields : List (String × Value) → Except Obstacle (List String)
  | [] => .ok []
  | (k, v) :: rest => do
    let field ← literal 0 v
    let others ← literalFields rest
    return fieldText k field :: others

end

/-! ### Which values get headers -/

/-- The length of a line that a table in place may not exceed. -/
def lineLimit : Nat := 100

/-- Whether a table in place fits into a line of a list. -/
def fitsLine (text : String) : Bool :=
  let line := indent 1 ++ text ++ ","
  line.length ≤ lineLimit && !line.toList.contains '\n'

/-- Whether a value is a table. -/
def isTable : Value → Bool
  | .table _ => true
  | _ => false

/-- Whether each of some tables fits into a line. Whether one can be written at all is asked only
until one does not fit. -/
def allFitLine : List Value → Except Obstacle Bool
  | [] => .ok true
  | v :: rest => do
    let text ← literal 0 v
    if fitsLine text then allFitLine rest else .ok false

/-- Whether a value is written under headers. -/
def hasHeaders : Value → Except Obstacle Bool
  | .table _ => .ok true
  | .list items =>
    if !items.isEmpty && items.all isTable then (allFitLine items).map not else .ok false
  | _ => .ok false

/-- Whether a value is known to be written under headers. -/
def isUnderHeaders (v : Value) : Bool :=
  match hasHeaders v with
  | .ok under => under
  | .error _ => false

/-! ### Tables -/

/-- What was written, and what stopped the writing if that is not all. -/
structure Written where
  text : String
  obstacle? : Option Obstacle
  deriving DecidableEq, Repr

namespace Written

/-- A text that was written. -/
def ofText (text : String) : Written := ⟨text, none⟩

/-- Writing that stopped before it began. -/
def stopped (obstacle : Obstacle) : Written := ⟨"", some obstacle⟩

/-- One piece of writing after the other; after a stop nothing follows. -/
def append (first second : Written) : Written :=
  match first.obstacle? with
  | none => ⟨first.text ++ second.text, second.obstacle?⟩
  | some _ => first

/-- Pieces of writing one after the other. -/
def concat : List Written → Written
  | [] => ofText ""
  | w :: rest => w.append (concat rest)

end Written

/-- The fields that are written in place. -/
def plainFields (fields : List (String × Value)) : List (String × Value) :=
  fields.filter fun f => !isUnderHeaders f.2

/-- A line for a field that is written in place. -/
def fieldLine (f : String × Value) : Written :=
  match literal 0 f.2 with
  | .ok text => .ofText (fieldText f.1 text ++ "\n")
  | .error obstacle => .stopped obstacle

/-- The header of a table, or of an item of a list of tables. -/
def header (name : String) (isItem : Bool) : String :=
  if isItem then "[[" ++ name ++ "]]\n" else "[" ++ name ++ "]\n"

/-- Tables with empty lines between them, and one before the first if something stands above. -/
def spaced (below : Bool) (tables : List Written) : List Written :=
  match tables with
  | [] => []
  | first :: rest =>
    let apart := rest.flatMap fun w => [.ofText "\n", w]
    if below then .ofText "\n" :: first :: apart else first :: apart

/-- A table from its fields and the tables below it, which are written already. The outermost table
has no name; another one goes without a header if it holds nothing but tables. -/
def tableText (name : String) (isItem : Bool) (fields : List (String × Value))
    (tables : List Written) : Written :=
  match fields.mapM fun f => hasHeaders f.2 with
  | .error obstacle => .stopped obstacle
  | .ok _ =>
    let plain := plainFields fields
    let hasHeader := isItem || (name != "" && (!plain.isEmpty || tables.isEmpty))
    let head := if hasHeader then [Written.ofText (header name isItem)] else []
    .concat (head ++ plain.map fieldLine ++ spaced (hasHeader || !plain.isEmpty) tables)

/-- The name of a table below another one. -/
def nameBelow (name key : String) : String :=
  if name = "" then keyText key else name ++ "." ++ keyText key

mutual

/-- The tables that the fields of a table are written as. -/
def tablesOf (name : String) : List (String × Value) → List Written
  | [] => []
  | (k, v) :: rest => valueTables (nameBelow name k) v ++ tablesOf name rest

/-- The tables that a value is written as, under its name. -/
def valueTables (name : String) : Value → List Written
  | .table fields => [tableText name false fields (tablesOf name fields)]
  | .list items => if isUnderHeaders (.list items) then itemTables name items else []
  | _ => []

/-- The tables that the items of a list are written as. -/
def itemTables (name : String) : List Value → List Written
  | [] => []
  | .table fields :: rest =>
    tableText name true fields (tablesOf name fields) :: itemTables name rest
  | _ :: rest => itemTables name rest

end

/-- A document. -/
def writeTable (t : Table) : Written :=
  tableText "" false t (tablesOf "" t)

end Restyle.Toml
