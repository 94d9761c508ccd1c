import Restyle.Number.Shortest
import Restyle.Text.Integer
import Restyle.Text.Quoted
import Restyle.Value

/-!
# Values in messages and listings

`Value.quoted` is the form that error messages show: texts between quotes, lists and tables in
brackets and braces, dates and times by their fields. `Value.shown` is the form of plain listings;
it differs only in that a text stands for itself.
-/

namespace Restyle

open Restyle.Calendar Restyle.Text

/-- Texts with a comma and a blank between them. -/
def commaSeparated (items : List String) : String :=
  ", ".intercalate items

/-- The fields of a date, in the order of their size. -/
def dateFields (d : Date) : List Nat :=
  [d.year, d.month, d.day]

/-- The fields of a time of day; trailing zeros after the minute are left out. -/
def clockFields (t : Clock) : List Nat :=
  if t.micros ≠ 0 then [t.hour, t.minute, t.second, t.micros]
  else if t.second ≠ 0 then [t.hour, t.minute, t.second]
  else [t.hour, t.minute]

/-- An offset: universal time by name, any other by days and seconds. -/
def offsetShown (o : Offset) : String :=
  if o.minutes = 0 then "datetime.timezone.utc"
  else
    let seconds := toString (o.minutes.emod 1440 * 60)
    let delta :=
      if o.minutes < 0 then "days=-1, seconds=" ++ seconds else "seconds=" ++ seconds
    "datetime.timezone(datetime.timedelta(" ++ delta ++ "))"

/-- A moment by the fields of its date, time and offset. -/
def momentShown (m : Moment) : String :=
  let fields := (dateFields m.date ++ clockFields m.clock).map Nat.repr
  let offset := m.offset.toList.map fun o => "tzinfo=" ++ offsetShown o
  "datetime.datetime(" ++ commaSeparated (fields ++ offset) ++ ")"

namespace Value

variable {τ : Type}

mutual

/-- A value as error messages show it, where texts are shown by `quote`. -/
def quotedBy (quote : τ → String) : Value τ → String
  | .null => "None"
  | .bool b => if b then "True" else "False"
  | .int n => toString n
  | .real r => r.text
  | .text s => quote s
  | .date d => "datetime.date(" ++ commaSeparated ((dateFields d).map Nat.repr) ++ ")"
  | .clock t => "datetime.time(" ++ commaSeparated ((clockFields t).map Nat.repr) ++ ")"
  | .moment m => momentShown m
  | .list items => "[" ++ commaSeparated (quotedItems quote items) ++ "]"
  | .table fields => "\x7b" ++ commaSeparated (quotedFields quote fields) ++ "\x7d"

/-- The items of a list as error messages show them. -/
def quotedItems (quote : τ → String) : List (Value τ) → List String
  | [] => []
  | v :: rest => quotedBy quote v :: quotedItems quote rest

/-- The fields of a table as error messages show them. -/
def quotedFields (quote : τ → String) : List (String × Value τ) → List String
  | [] => []
  | (k, v) :: rest => (Text.quoted k ++ ": " ++ quotedBy quote v) :: quotedFields quote rest

end

/-- A value of settings as error messages show it. -/
def quoted (v : Value) : String :=
  v.quotedBy Text.quoted

mutual

/-- Whether a value can be shown: no integer in it has more digits than are shown. -/
def isShowable : Value τ → Bool
  | .int n => isShort n
  | .list items => areItemsShowable items
  | .table fields => areFieldsShowable fields
  | _ => true

/-- Whether all items of a list can be shown. -/
def areItemsShowable : List (Value τ) → Bool
  | [] => true
  | v :: rest => isShowable v && areItemsShowable rest

/-- Whether all fields of a table can be shown. -/
def areFieldsShowable : List (String × Value τ) → Bool
  | [] => true
  | (_, v) :: rest => isShowable v && areFieldsShowable rest

end

/-- A value as plain listings show it. -/
def shown : Value (List Glyph) → List Glyph
  | .text s => s
  | v => Glyph.ofString (v.quotedBy Glyph.quoted)

end Value

end Restyle
