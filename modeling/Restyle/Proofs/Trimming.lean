import Mathlib.Data.List.TakeWhile
import Restyle.Proofs.Lines
import Restyle.Text.Glyph

/-!
# Trimmed texts

Trimming takes the blanks at both ends away and nothing else: what is left has no blank at its ends
(`isTrimmed_trimBy`), a text that has none stays (`trimBy_eq_self`), and the pieces of a text are trimmed
to the same whatever blanks stand at its ends (`map_trimBy_between`).

All of this holds for symbols of any kind, and whatever counts as blank among them.
-/

namespace Restyle.Text

variable {α : Type} {p : α → Bool}

/-- Symbols that pass a test at no end. -/
structure IsTrimmed (p : α → Bool) (xs : List α) : Prop where
  head : ∀ x, xs.head? = some x → p x = false
  last : ∀ x, xs.getLast? = some x → p x = false

/-! ## What trimming leaves -/

theorem mem_of_mem_trimBy {xs : List α} {x : α} (h : x ∈ trimBy p xs) : x ∈ xs := by
  rw [trimBy, List.mem_reverse] at h
  have hback := (List.dropWhile_sublist _).mem h
  rw [List.mem_reverse] at hback
  exact (List.dropWhile_sublist _).mem hback

theorem trimBy_append_of_dropped {front : List α} (h : ∀ x ∈ front, p x = true) (xs : List α) :
    trimBy p (front ++ xs) = trimBy p xs := by
  rw [trimBy, List.dropWhile_append_of_pos h, trimBy]

theorem trimBy_of_dropped_append {back : List α} (h : ∀ x ∈ back, p x = true) (xs : List α) :
    trimBy p (xs ++ back) = trimBy p xs := by
  rw [trimBy, trimBy, List.dropWhile_append]
  split
  · -- Nothing is left of the text before, so all is blank.
    rename_i hnone
    rw [List.isEmpty_iff.1 hnone, List.dropWhile_eq_nil_iff.2 h]
  · have hback : ∀ x ∈ back.reverse, p x = true := fun x hx => h x (List.mem_reverse.1 hx)
    rw [List.reverse_append, List.dropWhile_append_of_pos hback]

theorem isTrimmed_trimBy (p : α → Bool) (xs : List α) : IsTrimmed p (trimBy p xs) := by
  obtain ⟨blanks, hsuffix⟩ := List.dropWhile_suffix p (l := (xs.dropWhile p).reverse)
  have hdrop (ys : List α) {x : α} (h : (ys.dropWhile p).head? = some x) : p x = false := by
    have hnot := List.head?_dropWhile_not p ys
    rw [h] at hnot
    exact Bool.eq_false_iff.2 (by simpa using hnot)
  constructor
  · -- What is left begins as the text without the blanks in front of it.
    intro x hx
    rw [trimBy] at hx
    refine hdrop xs (x := x) ?_
    rw [← List.reverse_reverse (xs.dropWhile p), ← hsuffix, List.reverse_append, List.head?_append,
      hx, Option.some_or]
  · intro x hx
    rw [trimBy, List.getLast?_reverse] at hx
    exact hdrop _ hx

/-- A text is what trimming leaves of it, with blanks around. -/
theorem exists_margins (p : α → Bool) (xs : List α) : ∃ front back, (∀ x ∈ front, p x = true) ∧
    (∀ x ∈ back, p x = true) ∧ xs = front ++ trimBy p xs ++ back := by
  have hrest := List.takeWhile_append_dropWhile (p := p) (l := (xs.dropWhile p).reverse)
  refine ⟨xs.takeWhile p, ((xs.dropWhile p).reverse.takeWhile p).reverse,
    fun x hx => List.mem_takeWhile_imp hx, fun x hx => ?_, ?_⟩
  · rw [List.mem_reverse] at hx
    exact List.mem_takeWhile_imp hx
  · rw [trimBy, List.append_assoc, ← List.reverse_append, hrest, List.reverse_reverse,
      List.takeWhile_append_dropWhile]

theorem dropWhile_eq_self_of_head {xs : List α} (h : ∀ x, xs.head? = some x → p x = false) :
    xs.dropWhile p = xs := by
  cases xs with
  | nil => rfl
  | cons x xs => exact List.dropWhile_cons_of_neg (by simp [h x rfl])

/-- A text without blanks at its ends stays as it is. -/
theorem trimBy_eq_self {xs : List α} (h : IsTrimmed p xs) : trimBy p xs = xs := by
  have hlast : ∀ x, xs.reverse.head? = some x → p x = false := by
    intro x hx
    rw [List.head?_reverse] at hx
    exact h.last x hx
  rw [trimBy, dropWhile_eq_self_of_head h.head, dropWhile_eq_self_of_head hlast,
    List.reverse_reverse]

theorem isTrimmed_iff {xs : List α} : IsTrimmed p xs ↔ trimBy p xs = xs :=
  ⟨trimBy_eq_self, fun h => h ▸ isTrimmed_trimBy p xs⟩

instance [DecidableEq α] : DecidablePred (IsTrimmed p) :=
  fun _ => decidable_of_iff _ isTrimmed_iff.symm

theorem trimBy_eq_nil {xs : List α} (h : ∀ x ∈ xs, p x = true) : trimBy p xs = [] := by
  have hblank := trimBy_append_of_dropped h []
  rwa [List.append_nil] at hblank

theorem forall_of_trimBy {xs : List α} (h : trimBy p xs = []) : ∀ x ∈ xs, p x = true := by
  obtain ⟨front, back, hfront, hback, hxs⟩ := exists_margins p xs
  rw [h, List.append_nil] at hxs
  intro x hx
  rw [hxs] at hx
  exact (List.mem_append.1 hx).elim (hfront x) (hback x)

/-! ## Trimmed pieces -/

section Pieces

variable [DecidableEq α] {sep : α}

/-- What stands in front of a text stands in front of its first piece. -/
theorem splitOn_append_first {front rest piece : List α} {pieces : List (List α)} (h : sep ∉ front)
    (hrest : splitOn sep rest = piece :: pieces) :
    splitOn sep (front ++ rest) = (front ++ piece) :: pieces := by
  induction front with
  | nil => exact hrest
  | cons c front ih =>
    rw [List.mem_cons, not_or] at h
    rw [List.cons_append, splitOn, if_neg (Ne.symm h.1), ih h.2]
    rfl

/-- What stands behind a text stands behind its last piece. -/
theorem splitOn_append_last (text : List α) {back : List α} (h : sep ∉ back) :
    ∃ pieces piece, splitOn sep text = pieces ++ [piece] ∧
      splitOn sep (text ++ back) = pieces ++ [piece ++ back] := by
  induction text with
  | nil => exact ⟨[], [], rfl, splitOn_of_not_mem h⟩
  | cons c text ih =>
    obtain ⟨pieces, piece, htext, hall⟩ := ih
    rw [List.cons_append, splitOn, splitOn, htext, hall]
    split
    · exact ⟨[] :: pieces, piece, rfl, rfl⟩
    · cases pieces with
      | nil => exact ⟨[], c :: piece, rfl, rfl⟩
      | cons first pieces => exact ⟨(c :: first) :: pieces, piece, rfl, rfl⟩

/-- Blanks around a text make no difference to its trimmed pieces, if no separator is among them. -/
theorem map_trimBy_between {front back : List α} (hfront : ∀ x ∈ front, p x = true)
    (hback : ∀ x ∈ back, p x = true) (hsep : sep ∉ front) (hsep' : sep ∉ back) (xs : List α) :
    (splitOn sep (front ++ xs ++ back)).map (trimBy p) = (splitOn sep xs).map (trimBy p) := by
  obtain ⟨pieces, piece, htext, hall⟩ := splitOn_append_last (front ++ xs) hsep'
  obtain ⟨first, rest, hxs⟩ := List.exists_cons_of_ne_nil (splitOn_ne_nil sep xs)
  have hpieces := splitOn_append_first hsep hxs
  calc (splitOn sep (front ++ xs ++ back)).map (trimBy p)
      = (splitOn sep (front ++ xs)).map (trimBy p) := by
        rw [htext, hall, List.map_append, List.map_append, List.map_singleton, List.map_singleton,
          trimBy_of_dropped_append hback]
    _ = (splitOn sep xs).map (trimBy p) := by
        rw [hpieces, hxs, List.map_cons, List.map_cons, trimBy_append_of_dropped hfront]

end Pieces

/-! ## Strings -/

/-- A text that holds nothing but blanks. -/
def IsBlankText (s : String) : Prop :=
  ∀ c ∈ s.toList, isBlank c = true

instance : DecidablePred IsBlankText := fun s =>
  List.decidableBAll (fun c => isBlank c = true) s.toList

theorem isBlankText_empty : IsBlankText "" := by
  decide

theorem trim_eq_empty {s : String} (h : IsBlankText s) : trim s = "" := by
  rw [trim, trimChars, trimBy_eq_nil h]

/-- The trimmed pieces of a string with blanks around it. -/
theorem map_trim_between {sep : Char} {front back : String} (hfront : IsBlankText front)
    (hback : IsBlankText back) (hsep : sep ∉ front.toList) (hsep' : sep ∉ back.toList) (s : String) :
    (splitString sep (front ++ s ++ back)).map trim = (splitString sep s).map trim := by
  have hcomp : trim ∘ String.ofList = String.ofList ∘ trimBy isBlank := by
    funext cs
    rw [Function.comp_apply, trim, String.toList_ofList]
    rfl
  rw [splitString, splitString, List.map_map, List.map_map, hcomp, ← List.map_map, ← List.map_map,
    String.toList_append, String.toList_append, map_trimBy_between hfront hback hsep hsep']

/-! ## Texts of glyphs -/

namespace Glyph

/-- Text that holds nothing but blanks. -/
def AreBlank (text : List Glyph) : Prop :=
  ∀ g ∈ text, g.isBlank = true

instance : DecidablePred AreBlank := fun text =>
  List.decidableBAll (fun g => isBlank g = true) text

theorem areBlank_nil : AreBlank [] := by
  simp [AreBlank]

end Glyph

end Restyle.Text
