import Restyle.Value

/-!
# Tables under construction

A TOML document builds its table statement by statement. A draft is the table so far, together with
what may not be touched any more: tables that were opened by a header or by dotted keys cannot be
opened again, and values that were written in one piece cannot be extended.
-/

namespace Restyle.Toml

/-- A path of keys. -/
abbrev KeyPath := List String

/-- Changes the table behind a path, which is made if it is missing. A list on the way stands for
its last item, if lists may be entered. -/
def updateAt (enterLists : Bool) (f : Table → Option Table) : KeyPath → Table → Option Table
  | [], t => f t
  | key :: rest, t =>
    match Table.get? t key with
    | none => (updateAt enterLists f rest []).map fun sub => Table.put t key (.table sub)
    | some (.table sub) =>
      (updateAt enterLists f rest sub).map fun sub => Table.put t key (.table sub)
    | some (.list items) =>
      match enterLists, items.getLast? with
      | true, some (.table last) =>
        (updateAt enterLists f rest last).map fun last =>
          Table.put t key (.list (items.dropLast ++ [.table last]))
      | _, _ => none
    | some _ => none

/-- A table with a new field. -/
def addField (key : String) (value : Value) (t : Table) : Option Table :=
  if Table.has t key then none else some (Table.put t key value)

/-- A table with an empty table at the end of a list, which is made if it is missing. -/
def addItem (key : String) (t : Table) : Option Table :=
  match Table.get? t key with
  | none => some (Table.put t key (.list [.table []]))
  | some (.list items) => some (Table.put t key (.list (items ++ [.table []])))
  | some _ => none

/-- Whether a value is a list or a table. -/
def isNested : Value → Bool
  | .list _ | .table _ => true
  | _ => false

/-- A document under construction. -/
structure Draft where
  table : Table
  header : KeyPath
  frozen : List KeyPath
  opened : List KeyPath
  pending : List KeyPath

namespace Draft

/-- The start of a document. -/
def empty : Draft := ⟨[], [], [], [], []⟩

/-- Whether a path lies at or below a value that was written in one piece. -/
def isFrozen (frozen : List KeyPath) (path : KeyPath) : Bool :=
  frozen.any fun p => p.isPrefixOf path

/-- The draft with the paths of the section that ends here opened for good. -/
def closeSection (d : Draft) : Draft :=
  { d with opened := d.opened ++ d.pending, pending := [] }

/-- The draft after the header of a table. -/
def openTable (d : Draft) (path : KeyPath) : Option Draft := do
  let d := d.closeSection
  if d.opened.contains path || isFrozen d.frozen path then none
  else
    let table ← updateAt true some path d.table
    some { d with table := table, header := path, opened := path :: d.opened }

/-- The draft after the header of an item of a list of tables. What lies below the path belongs to
the item before, so it is free again. -/
def openItem (d : Draft) (path : KeyPath) : Option Draft := do
  let d := d.closeSection
  let key ← path.getLast?
  if isFrozen d.frozen path then none
  else
    let isOutside (p : KeyPath) : Bool := !path.isPrefixOf p
    let table ← updateAt true (addItem key) path.dropLast d.table
    some
      { d with
        table := table
        header := path
        frozen := d.frozen.filter isOutside
        opened := path :: d.opened.filter isOutside }

/-- The draft after a key and its value. -/
def assign (d : Draft) (path : KeyPath) (value : Value) : Option Draft := do
  let key ← path.getLast?
  let containers := (List.range (path.length - 1)).map fun i => d.header ++ path.take (i + 1)
  let above := d.header ++ path.dropLast
  if containers.any d.opened.contains || isFrozen d.frozen above then none
  else
    let table ← updateAt true (addField key value) above d.table
    some
      { d with
        table := table
        pending := d.pending ++ containers
        frozen := if isNested value then (d.header ++ path) :: d.frozen else d.frozen }

end Draft

/-- A table that is written in one piece: its fields, and those that cannot be extended. -/
structure InlineDraft where
  table : Table
  frozen : List KeyPath

/-- The table after a key and its value. -/
def InlineDraft.assign (d : InlineDraft) (path : KeyPath) (value : Value) : Option InlineDraft := do
  let key ← path.getLast?
  if Draft.isFrozen d.frozen path then none
  else
    let table ← updateAt false (addField key value) path.dropLast d.table
    some ⟨table, if isNested value then path :: d.frozen else d.frozen⟩

end Restyle.Toml
