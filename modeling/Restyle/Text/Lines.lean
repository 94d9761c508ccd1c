/-!
# Lines

A line ends at the newline symbol and nowhere else, so a text that ends in one has an empty last
line and `splitOn` gives one more piece than there are separators (`length_splitOn`). Joining the
pieces again gives the text back (`joinWith_splitOn`).

Both operations work on lists of any symbols: characters, decoded file text or bytes.
-/

namespace Restyle.Text

variable {α : Type} [DecidableEq α]

/-- The pieces of a text between the occurrences of a separator. -/
def splitOn (sep : α) : List α → List (List α)
  | [] => [[]]
  | c :: rest =>
    if c = sep then [] :: splitOn sep rest
    else
      match splitOn sep rest with
      | [] => [[c]]
      | piece :: pieces => (c :: piece) :: pieces

/-- The pieces one after the other, with the separator between them. -/
def joinWith (sep : α) : List (List α) → List α
  | [] => []
  | [piece] => piece
  | piece :: next :: pieces => piece ++ sep :: joinWith sep (next :: pieces)

theorem splitOn_ne_nil (sep : α) (text : List α) : splitOn sep text ≠ [] := by
  cases text with
  | nil => simp [splitOn]
  | cons c rest =>
    simp only [splitOn]
    split
    · simp
    · split <;> simp

omit [DecidableEq α] in
theorem joinWith_cons_cons (sep c : α) (piece : List α) (pieces : List (List α)) :
    joinWith sep ((c :: piece) :: pieces) = c :: joinWith sep (piece :: pieces) := by
  cases pieces <;> simp [joinWith]

/-- Joining the pieces gives the text back. -/
theorem joinWith_splitOn (sep : α) (text : List α) :
    joinWith sep (splitOn sep text) = text := by
  induction text with
  | nil => rfl
  | cons c rest ih =>
    simp only [splitOn]
    split
    · rename_i h
      cases hs : splitOn sep rest with
      | nil => exact absurd hs (splitOn_ne_nil sep rest)
      | cons piece pieces =>
        rw [hs] at ih
        simp [joinWith, ih, h]
    · cases hs : splitOn sep rest with
      | nil => exact absurd hs (splitOn_ne_nil sep rest)
      | cons piece pieces =>
        rw [hs] at ih
        simp [joinWith_cons_cons, ih]

/-- There is one piece more than there are separators. -/
theorem length_splitOn (sep : α) (text : List α) :
    (splitOn sep text).length = text.count sep + 1 := by
  induction text with
  | nil => rfl
  | cons c rest ih =>
    simp only [splitOn]
    split
    · rename_i h
      simp [h, ih]
    · rename_i h
      cases hs : splitOn sep rest with
      | nil => exact absurd hs (splitOn_ne_nil sep rest)
      | cons piece pieces =>
        rw [hs] at ih
        rw [List.count_cons_of_ne h, ← ih]
        simp

/-- The pieces of a string between the occurrences of a character. -/
def splitString (sep : Char) (s : String) : List String :=
  (splitOn sep s.toList).map String.ofList

/-- The lines of a string. -/
def lines (s : String) : List String :=
  splitString '\n' s

/-- Lines joined by newlines. -/
def unlines (ls : List String) : String :=
  String.ofList (joinWith '\n' (ls.map String.toList))

end Restyle.Text
