import Restyle.Rename
import Restyle.Script

/-!
# The index of renames

An index holds at most one rename for each old name. A later rename of the same name takes the
place of the earlier one, so the order is that of the first renames and the content that of the
last (`get?_put_self`, `names_put`).
-/

namespace Restyle

open Text

/-- Renames with different old names, in order. -/
structure Index where
  renames : List Rename
  nodup : (renames.map Rename.old).Nodup

namespace Index

/-- The old names of an index, in order. -/
def names (index : Index) : List (List Glyph) :=
  index.renames.map Rename.old

/-- A list of renames with one more: in the place of one for the same name, or at the end. -/
def insertInto (r : Rename) : List Rename → List Rename
  | [] => [r]
  | s :: rest => if s.old = r.old then r :: rest else s :: insertInto r rest

theorem map_old_insertInto (r : Rename) (rs : List Rename) :
    (insertInto r rs).map Rename.old =
      if r.old ∈ rs.map Rename.old then rs.map Rename.old else rs.map Rename.old ++ [r.old] := by
  induction rs with
  | nil => simp [insertInto]
  | cons s rest ih =>
    by_cases h : s.old = r.old
    · simp [insertInto, h]
    · have h' : ¬ r.old = s.old := fun e => h e.symm
      simp only [insertInto, h, if_false, List.map_cons, List.mem_cons, h', false_or, ih]
      split <;> simp_all

/-- No renames. -/
def empty : Index := ⟨[], List.nodup_nil⟩

/-- An index with one more rename, which wins over an earlier one of the same name. -/
def put (index : Index) (r : Rename) : Index where
  renames := insertInto r index.renames
  nodup := by
    have hd := index.nodup
    rw [map_old_insertInto]
    split
    · exact hd
    · rename_i h
      refine List.nodup_append.2 ⟨hd, by simp, ?_⟩
      intro a ha b hb
      rw [List.mem_singleton.1 hb]
      exact fun e => h (e ▸ ha)

/-- The index of a list of renames. -/
def ofList (renames : List Rename) : Index :=
  renames.foldl put empty

/-- The rename of an old name. -/
def get? (index : Index) (old : List Glyph) : Option Rename :=
  index.renames.find? fun r => r.old = old

/-- The rename whose old selector reads as the given symbols. -/
def find? {α : Type} [DecidableEq α] [Script α] (index : Index) (selector : List α) :
    Option Rename :=
  index.renames.find? fun r => Script.write r.oldSelector = selector

/-- A name keeps its first place, and a new name goes to the end. -/
theorem names_put (index : Index) (r : Rename) :
    (index.put r).names =
      if r.old ∈ index.names then index.names else index.names ++ [r.old] :=
  map_old_insertInto r index.renames

/-- The last rename of a name is the one that counts. -/
theorem get?_put_self (index : Index) (r : Rename) : (index.put r).get? r.old = some r := by
  simp only [get?, put]
  induction index.renames with
  | nil => simp [insertInto]
  | cons s rest ih =>
    by_cases h : s.old = r.old <;> simp [insertInto, h, ih]

/-- The renames of other names stay as they are. -/
theorem get?_put_of_ne (index : Index) (r : Rename) {old : List Glyph} (h : old ≠ r.old) :
    (index.put r).get? old = index.get? old := by
  simp only [get?, put]
  induction index.renames with
  | nil => simp [insertInto, h.symm]
  | cons s rest ih =>
    by_cases hs : s.old = r.old
    · simp [insertInto, hs, h.symm]
    · by_cases ho : s.old = old
      · simp [insertInto, ho, h]
      · simp [insertInto, hs, ho, ih]

end Index

end Restyle
