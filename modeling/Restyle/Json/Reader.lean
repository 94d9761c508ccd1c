import Restyle.Json.Token

/-!
# Reading JSON

`read` goes over the tokens of a text once. It remembers the lists and tables that are open, each with
what was read of it, and what may come next (`State`). A text is well-formed if a value has been read at
its end and nothing is open. The keys of tables are made of characters. Of a key that stands several
times in a table the last value counts, in the first place.
-/

namespace Restyle.Json

open Text

/-- A list or a table that is open. -/
inductive Frame
  /-- The items of a list so far, the last one first. -/
  | list (items : List (Value (List Glyph)))
  /-- The fields of a table so far, and the key whose value is to come. -/
  | table (fields : Table (List Glyph)) (key : String)

/-- What has been read, and what may come next; the innermost open frame stands first. -/
inductive State
  /-- A value has to come. -/
  | value (outer : List Frame)
  /-- The first item of a list may come, or its end. -/
  | listStart (outer : List Frame)
  /-- The first key of a table may come, or its end. -/
  | tableStart (outer : List Frame)
  /-- A further key has to come. -/
  | nextKey (fields : Table (List Glyph)) (outer : List Frame)
  /-- The colon behind a key has to come. -/
  | colon (fields : Table (List Glyph)) (key : String) (outer : List Frame)
  /-- A value has been read. -/
  | done (v : Value (List Glyph)) (outer : List Frame)

namespace State

/-- The beginning of a value. -/
def begin (outer : List Frame) : Token → Option State
  | .scalar v => some (.done v outer)
  | .text s => some (.done (.text s) outer)
  | .listStart => some (.listStart outer)
  | .tableStart => some (.tableStart outer)
  | _ => none

/-- What comes behind a value. -/
def goOn (v : Value (List Glyph)) : List Frame → Token → Option State
  | .list items :: outer, .comma => some (.value (.list (v :: items) :: outer))
  | .list items :: outer, .listEnd => some (.done (.list (v :: items).reverse) outer)
  | .table fields key :: outer, .comma => some (.nextKey (fields.put key v) outer)
  | .table fields key :: outer, .tableEnd => some (.done (.table (fields.put key v)) outer)
  | _, _ => none

/-- One token more. -/
def step : State → Token → Option State
  | .value outer, token => begin outer token
  | .listStart outer, .listEnd => some (.done (.list []) outer)
  | .listStart outer, token => begin (.list [] :: outer) token
  | .tableStart outer, .tableEnd => some (.done (.table []) outer)
  | .tableStart outer, .text key => (Glyph.string? key).map fun key => .colon [] key outer
  | .nextKey fields outer, .text key => (Glyph.string? key).map fun key => .colon fields key outer
  | .colon fields key outer, .colon => some (.value (.table fields key :: outer))
  | .done v outer, token => goOn v outer token
  | _, _ => none

/-- The value that has been read, if nothing is open. -/
def result? : State → Option (Value (List Glyph))
  | .done v [] => some v
  | _ => none

end State

/-- The value of a JSON text. -/
def read (s : String) : Option (Value (List Glyph)) := do
  let state ← (← tokens s.toList).foldlM State.step (.value [])
  state.result?

end Restyle.Json
