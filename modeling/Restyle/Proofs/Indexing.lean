import Mathlib.Data.List.Nodup
import Restyle.Proofs.Writing
import Restyle.Summary

/-!
# What an index holds

An index comes about by putting in one rename after the other. So what is found under a selector is
the last rename of its name (`Index.find?_ofList`), and the names stand in the order in which they
come first (`Index.names_ofList`).
-/

namespace Restyle

open Script

/-! ## First occurrences -/

variable {β : Type} [DecidableEq β]

theorem mem_firstOccurrences {x : β} {seen xs : List β} :
    x ∈ firstOccurrences seen xs ↔ x ∈ xs ∧ x ∉ seen := by
  induction xs generalizing seen with
  | nil => simp [firstOccurrences]
  | cons y xs ih =>
    rw [firstOccurrences]
    split
    · rename_i hy
      rw [ih, List.mem_cons]
      constructor
      · exact fun h => ⟨.inr h.1, h.2⟩
      · rintro ⟨rfl | h, hx⟩
        · exact absurd hy hx
        · exact ⟨h, hx⟩
    · rename_i hy
      rw [List.mem_cons, ih, List.mem_cons, List.mem_cons, not_or]
      constructor
      · rintro (rfl | ⟨h, -, hx⟩)
        · exact ⟨.inl rfl, hy⟩
        · exact ⟨.inr h, hx⟩
      · rintro ⟨rfl | h, hx⟩
        · exact .inl rfl
        · by_cases hxy : x = y
          · exact .inl hxy
          · exact .inr ⟨h, hxy, hx⟩

/-- Only what was seen counts, and not in which order. -/
theorem firstOccurrences_congr {seen seen' : List β} (h : ∀ x, x ∈ seen ↔ x ∈ seen')
    (xs : List β) : firstOccurrences seen xs = firstOccurrences seen' xs := by
  induction xs generalizing seen seen' with
  | nil => rfl
  | cons x xs ih =>
    rw [firstOccurrences, firstOccurrences]
    by_cases hx : x ∈ seen
    · rw [if_pos hx, if_pos ((h x).1 hx)]
      exact ih h
    · have hcons : ∀ y, y ∈ x :: seen ↔ y ∈ x :: seen' := by
        intro y
        rw [List.mem_cons, List.mem_cons, h y]
      rw [if_neg hx, if_neg fun hx' => hx ((h x).2 hx'), ih hcons]

namespace Index

/-! ## Names -/

theorem names_foldl_put (index : Index) (renames : List Rename) :
    (renames.foldl put index).names =
      index.names ++ firstOccurrences index.names (renames.map Rename.old) := by
  induction renames generalizing index with
  | nil => simp [firstOccurrences]
  | cons r rest ih =>
    rw [List.foldl_cons, ih, names_put, List.map_cons, firstOccurrences]
    by_cases hr : r.old ∈ index.names
    · rw [if_pos hr, if_pos hr]
    · have hseen : ∀ x, x ∈ index.names ++ [r.old] ↔ x ∈ r.old :: index.names := by
        intro x
        simp [or_comm]
      rw [if_neg hr, if_neg hr, firstOccurrences_congr hseen, List.append_assoc]
      rfl

/-- The names of an index stand in the order of the first renames. -/
theorem names_ofList (renames : List Rename) :
    (ofList renames).names = firstOccurrences [] (renames.map Rename.old) :=
  names_foldl_put empty renames

theorem mem_names_ofList {renames : List Rename} {old : List Text.Glyph} :
    old ∈ (ofList renames).names ↔ ∃ r ∈ renames, r.old = old := by
  rw [names_ofList, mem_firstOccurrences]
  simp

/-! ## Renames -/

variable {α : Type} [DecidableEq α] [Script α]

/-- A rename that is put in is found under its name, and the others are found as before. -/
theorem find?_put (index : Index) (r : Rename) {name : List α} (h : IsUnambiguous name) :
    (index.put r).find? (dot :: name) =
      if write r.old = name then some r else index.find? (dot :: name) := by
  simp only [find?, put, Rename.write_oldSelector_eq]
  induction index.renames with
  | nil => by_cases hr : (write r.old : List α) = name <;> simp [insertInto, hr]
  | cons s rest ih =>
    rw [insertInto]
    by_cases hs : s.old = r.old
    · rw [if_pos hs, List.find?_cons, List.find?_cons, hs]
      by_cases hr : (write r.old : List α) = name <;> simp [hr]
    · rw [if_neg hs, List.find?_cons, List.find?_cons, ih]
      by_cases hfound : (write s.old : List α) = name
      · have hr : (write r.old : List α) ≠ name := fun e => hs (h _ _ hfound e)
        simp [hfound, hr]
      · simp [hfound]

theorem find?_foldl_put (index : Index) (renames : List Rename) {name : List α}
    (h : IsUnambiguous name) : (renames.foldl put index).find? (dot :: name) =
      (renames.reverse.find? fun r => write r.old = name).or (index.find? (dot :: name)) := by
  induction renames generalizing index with
  | nil => rfl
  | cons r rest ih =>
    rw [List.foldl_cons, ih, find?_put index r h, List.reverse_cons, List.find?_append,
      Option.or_assoc]
    by_cases hr : (write r.old : List α) = name <;> simp [hr]

/-- The last rename of a name is the one that is found. -/
theorem find?_ofList (renames : List Rename) {name : List α} (h : IsUnambiguous name) :
    (ofList renames).find? (dot :: name) = renames.reverse.find? fun r => write r.old = name := by
  have hempty : (empty.find? (dot :: name)) = none := rfl
  rw [ofList, find?_foldl_put empty renames h, hempty, Option.or_none]

/-- Every rename of an index is found under its selector. -/
theorem find?_oldSelector {index : Index} {r : Rename} (hr : r ∈ index.renames)
    (h : IsUnambiguous (write r.old : List α)) :
    index.find? (dot :: write r.old : List α) = some r := by
  cases hfind : index.find? (dot :: write r.old : List α) with
  | none =>
    have hno := List.find?_eq_none.1 hfind r hr
    rw [decide_eq_true_eq, r.write_oldSelector] at hno
    exact absurd rfl hno
  | some q =>
    have hwrite : (write q.oldSelector : List α) = dot :: write r.old := by
      simpa using List.find?_some hfind
    have hold : q.old = r.old := h _ _ (Rename.write_oldSelector_eq.1 hwrite) rfl
    exact congrArg some
      (List.inj_on_of_nodup_map index.nodup (List.mem_of_find?_eq_some hfind) hr hold)

theorem mem_of_mem_ofList {renames : List Rename} {r : Rename}
    (h : r ∈ (ofList renames).renames) : r ∈ renames := by
  have hfind := find?_oldSelector h (isUnambiguous_glyph _)
  rw [find?_ofList renames (isUnambiguous_glyph _)] at hfind
  exact List.mem_reverse.1 (List.mem_of_find?_eq_some hfind)

end Index

end Restyle
