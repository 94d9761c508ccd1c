import Restyle.Text.Lines

/-!
# Lines put together

What is done to a text line by line: a function that respects the separator acts on each line alone.
-/

namespace Restyle.Text

variable {α β : Type}

/-- Joining goes line by line, with the separator in front of what is left. -/
theorem joinWith_cons (sep : α) (piece : List α) {pieces : List (List α)} (h : pieces ≠ []) :
    joinWith sep (piece :: pieces) = piece ++ sep :: joinWith sep pieces := by
  obtain ⟨next, rest, rfl⟩ := List.exists_cons_of_ne_nil h
  rfl

theorem joinWith_append (sep : α) {front back : List (List α)} (hfront : front ≠ [])
    (hback : back ≠ []) :
    joinWith sep (front ++ back) = joinWith sep front ++ sep :: joinWith sep back := by
  induction front with
  | nil => exact absurd rfl hfront
  | cons piece front ih =>
    rw [List.cons_append]
    by_cases hnil : front = []
    · subst hnil
      exact joinWith_cons sep piece hback
    · have hne : front ++ back ≠ [] := List.append_ne_nil_of_left_ne_nil hnil back
      rw [joinWith_cons sep piece hne, ih hnil, joinWith_cons sep piece hnil, List.append_assoc,
        List.cons_append]

/-- A function that goes over the separator acts on each piece alone. -/
theorem map_joinWith {f : List α → List β} {sep : α} {sep' : β} (hnil : f [] = [])
    (hsep : ∀ piece rest, f (piece ++ sep :: rest) = f piece ++ sep' :: f rest)
    (pieces : List (List α)) : f (joinWith sep pieces) = joinWith sep' (pieces.map f) := by
  induction pieces with
  | nil => exact hnil
  | cons piece rest ih =>
    by_cases hrest : rest = []
    · rw [hrest]
      rfl
    · have hmap : rest.map f ≠ [] := fun h => hrest (List.map_eq_nil_iff.1 h)
      rw [List.map_cons, joinWith_cons sep piece hrest, joinWith_cons sep' _ hmap, hsep, ih]

/-! ## Splitting -/

variable [DecidableEq α]

theorem splitOn_of_not_mem {sep : α} {piece : List α} (h : sep ∉ piece) :
    splitOn sep piece = [piece] := by
  induction piece with
  | nil => rfl
  | cons c piece ih =>
    rw [List.mem_cons, not_or] at h
    rw [splitOn, if_neg (fun e => h.1 e.symm), ih h.2]

theorem splitOn_append_cons {sep : α} {piece : List α} (h : sep ∉ piece) (rest : List α) :
    splitOn sep (piece ++ sep :: rest) = piece :: splitOn sep rest := by
  induction piece with
  | nil => rw [List.nil_append, splitOn, if_pos rfl]
  | cons c piece ih =>
    rw [List.mem_cons, not_or] at h
    rw [List.cons_append, splitOn, if_neg (fun e => h.1 e.symm), ih h.2]

/-- Splitting gives back the pieces that were joined. -/
theorem splitOn_joinWith {sep : α} {pieces : List (List α)} (hne : pieces ≠ [])
    (h : ∀ piece ∈ pieces, sep ∉ piece) : splitOn sep (joinWith sep pieces) = pieces := by
  induction pieces with
  | nil => exact absurd rfl hne
  | cons piece rest ih =>
    have hpiece := h piece List.mem_cons_self
    by_cases hrest : rest = []
    · subst hrest
      exact splitOn_of_not_mem hpiece
    · rw [joinWith_cons sep piece hrest, splitOn_append_cons hpiece,
        ih hrest fun p hp => h p (List.mem_cons_of_mem _ hp)]

/-- The pieces hold the symbols of the text, without the separator. -/
theorem mem_of_mem_splitOn {sep : α} {text piece : List α} (h : piece ∈ splitOn sep text) :
    ∀ a ∈ piece, a ∈ text ∧ a ≠ sep := by
  induction text generalizing piece with
  | nil =>
    rw [splitOn, List.mem_singleton] at h
    simp [h]
  | cons c rest ih =>
    have later {a : α} (ha : a ∈ rest ∧ a ≠ sep) : a ∈ c :: rest ∧ a ≠ sep :=
      ⟨List.mem_cons_of_mem _ ha.1, ha.2⟩
    rw [splitOn] at h
    split at h
    case isTrue =>
      rcases List.mem_cons.1 h with rfl | h
      · simp
      · exact fun a ha => later (ih h a ha)
    case isFalse hc =>
      cases hrest : splitOn sep rest with
      | nil => exact absurd hrest (splitOn_ne_nil sep rest)
      | cons first pieces =>
        rw [hrest] at h ih
        rcases List.mem_cons.1 h with rfl | h
        · intro a ha
          rcases List.mem_cons.1 ha with rfl | ha
          · exact ⟨List.mem_cons_self, hc⟩
          · exact later (ih List.mem_cons_self a ha)
        · exact fun a ha => later (ih (List.mem_cons_of_mem _ h) a ha)

/-- A text that holds no separator begins the first piece. -/
theorem splitOn_append {sep : α} {front : List α} (h : sep ∉ front) (rest : List α) :
    ∃ piece pieces, splitOn sep (front ++ rest) = (front ++ piece) :: pieces := by
  induction front with
  | nil => exact List.exists_cons_of_ne_nil (splitOn_ne_nil sep rest)
  | cons c front ih =>
    rw [List.mem_cons, not_or] at h
    obtain ⟨piece, pieces, hsplit⟩ := ih h.2
    refine ⟨piece, pieces, ?_⟩
    rw [List.cons_append, splitOn, if_neg (Ne.symm h.1), hsplit]
    rfl

theorem splitOn_append_sep (sep : α) (front rest : List α) :
    splitOn sep (front ++ sep :: rest) = splitOn sep front ++ splitOn sep rest := by
  induction front with
  | nil => simp [splitOn]
  | cons c front ih =>
    rw [List.cons_append, splitOn, splitOn, ih]
    split
    · rfl
    · obtain ⟨piece, pieces, hsplit⟩ := List.exists_cons_of_ne_nil (splitOn_ne_nil sep front)
      rw [hsplit]
      rfl

end Restyle.Text
