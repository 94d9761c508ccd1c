import Restyle.Toml.Draft
import Restyle.Toml.Scalar

/-!
# Reading TOML

`readTable` reads a document: statements on lines of their own, each of them a key with its value, a
header that opens a table, or a header that opens an item of a list of tables. Lists and inline
tables may run over several lines, hold comments and end in a comma.
-/

namespace Restyle.Toml

/-- A result, where a missing one means a malformed document. -/
def orMalformed {β : Type} : Option β → Except ReadError β
  | some b => .ok b
  | none => .error .malformed

/-! ### Values -/

mutual

/-- A value at the front, where `fuel` bounds the steps. -/
def value : Nat → List Char → Except ReadError (Value × List Char)
  | 0, _ => .error .malformed
  | fuel + 1, cs =>
    match cs with
    | '[' :: rest => do items fuel [] (← orMalformed (skipGaps false rest))
    | '\x7b' :: rest => do fields fuel ⟨[], []⟩ (← orMalformed (skipGaps false rest))
    | '"' :: _ | '\x27' :: _ => do
      let (text, rest) ← orMalformed (anyText cs)
      return (.text (String.ofList text), rest)
    | _ => scalar cs

/-- The items of a list up to its closing bracket, after those already read, of which the last one
stands first. -/
def items : Nat → List Value → List Char → Except ReadError (Value × List Char)
  | 0, _, _ => .error .malformed
  | fuel + 1, done, cs =>
    match cs with
    | ']' :: rest => .ok (.list done.reverse, rest)
    | _ => do
      let (item, rest) ← value fuel cs
      match ← orMalformed (skipGaps false rest) with
      | ']' :: rest => .ok (.list (item :: done).reverse, rest)
      | ',' :: rest => do items fuel (item :: done) (← orMalformed (skipGaps false rest))
      | _ => .error .malformed

/-- The fields of an inline table after those already read, up to its closing brace. -/
def fields : Nat → InlineDraft → List Char → Except ReadError (Value × List Char)
  | 0, _, _ => .error .malformed
  | fuel + 1, done, cs =>
    match cs with
    | '\x7d' :: rest => .ok (.table done.table, rest)
    | _ => do
      let (path, rest) ← orMalformed (key cs)
      let rest ← orMalformed (expect '=' rest)
      let (field, rest) ← value fuel (skipBlanks rest)
      let done ← orMalformed (done.assign path field)
      match ← orMalformed (skipGaps false rest) with
      | '\x7d' :: rest => .ok (.table done.table, rest)
      | ',' :: rest => do fields fuel done (← orMalformed (skipGaps false rest))
      | _ => .error .malformed

end

/-- A value at the front. Every two steps take a character away. -/
def anyValue (cs : List Char) : Except ReadError (Value × List Char) :=
  value (2 * cs.length + 2) cs

/-! ### Statements -/

/-- The header at the front: what it does to the draft. -/
def headerStatement (d : Draft) (cs : List Char) : Except ReadError (Draft × List Char) := do
  match cs with
  | '[' :: '[' :: rest =>
    let (path, rest) ← orMalformed (key (skipBlanks rest))
    let d ← orMalformed (d.openItem path)
    let rest ← orMalformed ((expect ']' rest).bind (expect ']'))
    return (d, rest)
  | '[' :: rest =>
    let (path, rest) ← orMalformed (key (skipBlanks rest))
    let d ← orMalformed (d.openTable path)
    let rest ← orMalformed (expect ']' rest)
    return (d, rest)
  | _ => .error .malformed

/-- The key and the value at the front. -/
def fieldStatement (d : Draft) (cs : List Char) : Except ReadError (Draft × List Char) := do
  let (path, rest) ← orMalformed (key cs)
  let rest ← orMalformed (expect '=' rest)
  let (v, rest) ← anyValue (skipBlanks rest)
  let d ← orMalformed (d.assign path v)
  return (d, rest)

/-- The statement at the front; in front of a comment or a line's end there is none. -/
def statement (d : Draft) (cs : List Char) : Except ReadError (Draft × List Char) :=
  match cs with
  | [] | '\n' :: _ | '#' :: _ => .ok (d, cs)
  | '[' :: _ => headerStatement d cs
  | _ => fieldStatement d cs

/-- The statements of a document, one a line, in so many lines at most. -/
def statements : Nat → Draft → List Char → Except ReadError Draft
  | 0, _, _ => .error .malformed
  | left + 1, d, cs => do
    let (d, rest) ← statement d (skipBlanks cs)
    match ← orMalformed (skipComment (skipBlanks rest)) with
    | [] => return d
    | '\n' :: rest => statements left d rest
    | _ => .error .malformed

/-- A text where every line ends in a newline alone. -/
def plainNewlines : List Char → List Char
  | '\r' :: '\n' :: rest => '\n' :: plainNewlines rest
  | c :: rest => c :: plainNewlines rest
  | [] => []

/-- The table of a document. -/
def readTable (document : String) : Except ReadError Table := do
  let cs := plainNewlines document.toList
  let d ← statements (cs.length + 1) Draft.empty cs
  return d.table

end Restyle.Toml
