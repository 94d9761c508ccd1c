import Restyle.Json.Printer
import Restyle.Value.Shown

/-!
# Reports

How results are shown: as JSON, or as a plain listing. The plain listing of a value depends on its
shape. A table with `totalChanges` and `changes` is a summary; a list is judged by its first item:
texts are shown one a line, tables with two class names as aligned pairs, tables with a file and a
line as diffs. What has no listing of its own is shown as JSON.

Integers are shown with all of their digits, as in JSON. A listing fails if an item lacks a field that
it shows (`missingField`) or is of a kind that has no place in it (`unsuitable`).
-/

namespace Restyle

open Text

/-- The two forms of a report. -/
inductive Layout
  | plain
  | json
  deriving DecidableEq, Repr

/-- Every name but that of the JSON form stands for the plain one. -/
def Layout.ofName (name : String) : Layout :=
  if name = "json" then .json else .plain

/-- Why a value has no plain listing. -/
inductive ListingError
  | missingField (name : String)
  | unsuitable
  deriving DecidableEq, Repr

namespace Listing

/-- A field of an item that has to be a table. -/
def field (item : Value (List Glyph)) (name : String) : Except ListingError (Value (List Glyph)) :=
  match item with
  | .table fields =>
    match Table.get? fields name with
    | some v => .ok v
    | none => .error (.missingField name)
  | _ => .error .unsuitable

/-- Whether a table has a key, or a list a text among its items. -/
def mentions (item : Value (List Glyph)) (name : String) : Except ListingError Bool :=
  match item with
  | .table fields => .ok (Table.has fields name)
  | .list items =>
    .ok <| items.any fun
      | .text s => s = Glyph.ofString name
      | _ => false
  | _ => .error .unsuitable

/-- The number of characters, items or fields. -/
def extent : Value (List Glyph) → Except ListingError Nat
  | .text s => .ok s.length
  | .list items => .ok items.length
  | .table fields => .ok fields.length
  | _ => .error .unsuitable

/-- What is listed of a text, a list or a table: its characters, items or keys. -/
def members : Value (List Glyph) → List (List Glyph)
  | .text s => s.map fun g => [g]
  | .list items => items.map Value.shown
  | .table fields => (Table.keys fields).map Glyph.ofString
  | _ => []

/-- A text filled up with blanks on its right. -/
def padRight (width : Nat) (text : List Glyph) : List Glyph :=
  text ++ List.replicate (width - text.length) (.char ' ')

/-- A text that can be filled up. -/
def paddable : Value (List Glyph) → Except ListingError (List Glyph)
  | .text s => .ok s
  | _ => .error .unsuitable

/-- One pair, the old name filled up to a width. -/
def pairLine (width : Nat) (item : Value (List Glyph)) : Except ListingError (List Glyph) := do
  let old ← paddable (← field item "oldClass")
  let new ← field item "newClass"
  return padRight width old ++ Glyph.ofString " -> " ++ new.shown

/-- Pairs of names, one a line, with the arrows below each other. -/
def pairs (items : List (Value (List Glyph))) : Except ListingError (List Glyph) := do
  let widths ← items.mapM fun item => do extent (← field item "oldClass")
  let lines ← items.mapM (pairLine (widths.foldl max 0))
  return Glyph.unlines lines

/-- One diff: the place, the old name and the new one. -/
def diffLine (item : Value (List Glyph)) : Except ListingError (List Glyph) := do
  let file ← field item "file"
  let line ← field item "line"
  let old ← field item "oldClass"
  let new ← field item "newClass"
  return file.shown ++ .char ':' :: line.shown ++ .char ' ' :: old.shown ++
    Glyph.ofString " -> " ++ new.shown

/-- Diffs, one a line. -/
def diffs (items : List (Value (List Glyph))) : Except ListingError (List Glyph) := do
  let lines ← items.mapM diffLine
  return Glyph.unlines lines

/-- The diffs at the end of a summary, after an empty line, if there are any. -/
def summaryDiffs (changes : Value (List Glyph)) : Except ListingError (List (List Glyph)) :=
  if !changes.isSomething then .ok []
  else
    match changes with
    | .list items => do return [[], ← diffs items]
    | _ => .error .unsuitable

/-- A summary: the counts, the files and the diffs. -/
def summary (total files changes : Value (List Glyph)) : Except ListingError (List Glyph) :=
  if !total.isSomething then .ok "No changes"
  else do
    let count ← extent files
    let head := total.shown ++ Glyph.ofString (" change(s) in " ++ toString count ++ " file(s):")
    let names := (members files).map (Glyph.ofString "  " ++ ·)
    let rest ← summaryDiffs changes
    return Glyph.unlines (head :: names ++ rest)

/-- Texts, one a line. -/
def texts (items : List (Value (List Glyph))) : Except ListingError (List Glyph) := do
  let lines ← items.mapM paddable
  return Glyph.unlines lines

/-- A list that is not empty, by the shape of its first item. -/
def items (first : Value (List Glyph)) (all : List (Value (List Glyph))) :
    Except ListingError (List Glyph) :=
  match first with
  | .text _ => texts all
  | _ => do
    let hasOld ← mentions first "oldClass"
    let hasNew ← mentions first "newClass"
    let hasFile ← mentions first "file"
    let hasLine ← mentions first "line"
    if hasOld && hasNew && !hasFile then pairs all
    else if hasFile && hasLine then diffs all
    else return Glyph.ofString (Json.render (.list all))

/-- The plain listing of a value. -/
def plain (data : Value (List Glyph)) : Except ListingError (List Glyph) :=
  match data with
  | .null => .ok []
  | .text s => .ok s
  | .table fields =>
    match Table.get? fields "totalChanges", Table.get? fields "changes" with
    | some total, some changes =>
      summary total ((Table.get? fields "modifiedFiles").getD (.list [])) changes
    | _, _ => .ok (Glyph.ofString (Json.render data))
  | .list [] => .ok (Glyph.ofString "No results")
  | .list (first :: rest) => items first (first :: rest)
  | _ => .ok (Glyph.ofString (Json.render data))

end Listing

/-- A value as a report. -/
def report (layout : Layout) (data : Value (List Glyph)) : Except ListingError (List Glyph) :=
  match layout with
  | .json => .ok (Glyph.ofString (Json.render data))
  | .plain => Listing.plain data

end Restyle
