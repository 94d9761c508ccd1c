import Restyle.Summary
import Restyle.Text.Integer

/-!
# Reading records back

Renames and diffs are read from tables. A field may stand under its written name (`oldClass`) or
under its plain one (`old_class`); where both are present the written one counts. Unknown fields
are passed over, and all faulty fields are reported together. The name of a file is read as a string:
text with surrogates is not taken for one.

A line number may be an integer, a truth value, or a text in decimal: blanks around it, a sign,
zeros in front, single underscores between digits and a fraction of zeros are accepted. A minus sign
may also come right after the zeros in front.
-/

namespace Restyle.Record

open Text

/-- What is wrong with a field. -/
inductive Fault
  | missing
  | notText
  | notInteger
  | unreadableInteger
  deriving DecidableEq, Repr

/-- Why a value is not a record. -/
inductive RecordError
  | notTable
  | fields (faults : List (String × Fault))
  deriving DecidableEq, Repr

/-! ### Integers in text -/

/-- A number without the zeros and underscores in front. The last character before a point or at
the end stays. -/
def withoutLeadingZeros : List Char → List Char
  | c :: d :: rest =>
    if (c == '0' || c == '_') && d != '.' then withoutLeadingZeros (d :: rest) else c :: d :: rest
  | cs => cs

/-- A number without a fraction of zeros. -/
def withoutZeroFraction (cs : List Char) : List Char :=
  let whole := cs.takeWhile (· != '.')
  let fraction := (cs.dropWhile (· != '.')).drop 1
  if fraction ≠ [] && fraction.all (· == '0') then whole else cs

/-- The value of a digit of ASCII. -/
def digit? (c : Char) : Option Nat :=
  if c.isDigit then some (c.toNat - 48) else none

/-- The value of digits that do not begin with a zero, unless it is the only one. -/
def plainValue? (cs : List Char) : Option Nat :=
  match cs.filter (· != '_') with
  | [] => none
  | '0' :: _ :: _ => none
  | _ => Text.digitsValue? digit? 0 cs

/-- The value of a number in text that starts with a digit. Zeros in front may be followed by a
minus sign. -/
def zeroLed? (cs : List Char) : Option Int :=
  if (cs.head?.map Char.isDigit).getD false then
    match withoutZeroFraction (withoutLeadingZeros cs) with
    | '-' :: digits => (plainValue? digits).map fun n => -(n : Int)
    | '_' :: _ => none
    | digits => (plainValue? digits).map Int.ofNat
  else none

/-- The value of an integer in text. -/
def integer? (s : String) : Option Int :=
  match Text.trimSpace s.toList with
  | '-' :: rest =>
    if (withoutLeadingZeros rest).head? == some '-' then none else (zeroLed? rest).map (- ·)
  | '+' :: rest => zeroLed? rest
  | cs => zeroLed? cs

/-! ### Fields -/

/-- The name under which a field is found and its value. -/
def findField? (fields : Table (List Glyph)) (written plain : String) :
    Option (String × Value (List Glyph)) :=
  match fields.get? written with
  | some v => some (written, v)
  | none => (fields.get? plain).map fun v => (plain, v)

/-- A field read by `read`, or its fault under the name it was found by. -/
def readField {β : Type} (fields : Table (List Glyph)) (written plain : String)
    (read : Value (List Glyph) → Except Fault β) : Except (String × Fault) β :=
  match findField? fields written plain with
  | none => .error (written, .missing)
  | some (name, v) => (read v).mapError fun fault => (name, fault)

/-- The faults of a field that was read. -/
def faultOf {ε β : Type} : Except ε β → List ε
  | .ok _ => []
  | .error e => [e]

/-- The text that a field has to hold. -/
def readText : Value (List Glyph) → Except Fault (List Glyph)
  | .text s => .ok s
  | _ => .error .notText

/-- The name of a file that a field has to hold. -/
def readPath (v : Value (List Glyph)) : Except Fault String := do
  match Glyph.string? (← readText v) with
  | some path => .ok path
  | none => .error .notText

/-- The integer that a field has to hold. -/
def readInteger : Value (List Glyph) → Except Fault Int
  | .int n => .ok n
  | .bool b => .ok (if b then 1 else 0)
  | .text s =>
    match (Glyph.string? s).bind integer? with
    | some n => .ok n
    | none => .error .unreadableInteger
  | _ => .error .notInteger

/-- The fields of a value that has to be a table. -/
def tableOf : Value (List Glyph) → Except RecordError (Table (List Glyph))
  | .table fields => .ok fields
  | _ => .error .notTable

/-- A rename from its table. -/
def rename? (v : Value (List Glyph)) : Except RecordError Rename := do
  let fields ← tableOf v
  match readField fields "oldClass" "old_class" readText,
      readField fields "newClass" "new_class" readText with
  | .ok old, .ok new => .ok ⟨old, new⟩
  | old, new => .error (.fields (faultOf old ++ faultOf new))

/-- A diff from its table. -/
def diff? (v : Value (List Glyph)) : Except RecordError Diff := do
  let fields ← tableOf v
  match readField fields "file" "file" readPath, readField fields "line" "line" readInteger,
      readField fields "oldClass" "old_class" readText,
      readField fields "newClass" "new_class" readText with
  | .ok file, .ok line, .ok old, .ok new => .ok ⟨file, line, old, new⟩
  | file, line, old, new =>
    .error (.fields (faultOf file ++ faultOf line ++ faultOf old ++ faultOf new))

end Restyle.Record
