import Restyle.Calendar
import Restyle.Number.Binary64
import Restyle.Text.Glyph

/-!
# Data values

What settings files and reports hold: scalars, lists, and tables, which are lists of fields in
their written order. The texts of settings are strings, those of reports are made of glyphs. Every
key of a table stands once; `Table.put` keeps it so by replacing the value of a key where it stands
(`keys_put`).
-/

namespace Restyle

open Restyle.Calendar Restyle.Number Restyle.Text

/-- A data value, with texts of a type. -/
inductive Value (τ : Type := String)
  | null
  | bool (b : Bool)
  | int (n : Int)
  | real (r : Binary64)
  | text (s : τ)
  | date (d : Date)
  | clock (t : Clock)
  | moment (m : Moment)
  | list (items : List (Value τ))
  | table (fields : List (String × Value τ))
  deriving Inhabited

/-- The fields of a table, in order. -/
abbrev Table (τ : Type := String) := List (String × Value τ)

namespace Table

variable {τ : Type}

/-- The value of a key. -/
def get? (fields : Table τ) (key : String) : Option (Value τ) :=
  match fields with
  | [] => none
  | (k, v) :: rest => if k = key then some v else get? rest key

/-- Whether a key is present. -/
def has (fields : Table τ) (key : String) : Bool :=
  (get? fields key).isSome

/-- Sets the value of a key: in its place if the key is present, at the end otherwise. -/
def put (fields : Table τ) (key : String) (value : Value τ) : Table τ :=
  match fields with
  | [] => [(key, value)]
  | (k, v) :: rest => if k = key then (k, value) :: rest else (k, v) :: put rest key value

/-- The keys of a table, in order. -/
def keys (fields : Table τ) : List String :=
  fields.map Prod.fst

/-- The table of a list of fields, where the last value of a repeated key wins. -/
def ofFields (fields : List (String × Value τ)) : Table τ :=
  fields.foldl (fun t f => put t f.1 f.2) []

/-- Setting a key keeps the order of the others and adds it at the end if it is new. -/
theorem keys_put (fields : Table τ) (key : String) (value : Value τ) :
    keys (put fields key value) =
      if key ∈ keys fields then keys fields else keys fields ++ [key] := by
  induction fields with
  | nil => simp [put, keys]
  | cons f rest ih =>
    obtain ⟨k, v⟩ := f
    by_cases h : k = key
    · simp [put, keys, h]
    · simp only [keys] at ih
      have h' : ¬ key = k := fun e => h e.symm
      simp only [put, keys, h, if_false, List.map_cons, List.mem_cons, h', false_or, ih]
      split <;> simp_all

/-- A key that was set has its new value. -/
theorem get?_put_self (fields : Table τ) (key : String) (value : Value τ) :
    get? (put fields key value) key = some value := by
  induction fields with
  | nil => simp [put, get?]
  | cons f rest ih =>
    obtain ⟨k, v⟩ := f
    by_cases h : k = key <;> simp [put, get?, h, ih]

/-- Other keys keep their values. -/
theorem get?_put_of_ne (fields : Table τ) {key other : String} (value : Value τ) (h : other ≠ key) :
    get? (put fields key value) other = get? fields other := by
  induction fields with
  | nil => simp [put, get?, h.symm]
  | cons f rest ih =>
    obtain ⟨k, v⟩ := f
    by_cases hk : k = key
    · subst hk; simp [put, get?, h.symm]
    · by_cases ho : k = other
      · subst ho; simp [put, get?, hk]
      · simp [put, get?, hk, ho, ih]

end Table

namespace Value

/-- Whether a value counts as something: not null, false, zero or empty. -/
def isSomething : Value (List Glyph) → Bool
  | .null => false
  | .bool b => b
  | .int n => n != 0
  | .real (.finite _ mantissa _) => mantissa != 0
  | .text s => !s.isEmpty
  | .list items => !items.isEmpty
  | .table fields => !fields.isEmpty
  | _ => true

end Value

end Restyle
