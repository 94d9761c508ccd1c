import Mathlib.Data.List.Basic
import Restyle.Wildcard

/-!
# Endings as patterns

A star in front of a text without wildcards stands for the names that end in this text
(`isMatch_star_iff`), and two stars stand for every name.
-/

namespace Restyle.Wildcard

/-! ## Stars -/

theorem hasEnd_iff {test : List Char → Bool} {text : List Char} :
    hasEnd test text = true ↔ ∃ rest, rest <:+ text ∧ test rest = true := by
  induction text with
  | nil => simp [hasEnd]
  | cons c text ih =>
    rw [hasEnd, Bool.or_eq_true, ih]
    constructor
    · rintro (h | ⟨rest, hrest, h⟩)
      · exact ⟨c :: text, List.suffix_rfl, h⟩
      · exact ⟨rest, hrest.trans (List.suffix_cons c text), h⟩
    · rintro ⟨rest, hrest, h⟩
      rcases List.suffix_cons_iff.1 hrest with rfl | hrest
      · exact .inl h
      · exact .inr ⟨rest, hrest, h⟩

/-- Two stars stand for every name. -/
theorem isMatch_anyDepth (name : String) : isMatch "**" name = true := by
  have hparse : parse "**".toList = [.anyRun] := by decide +kernel
  rw [isMatch_eq, hparse, matchesParts, hasEnd_iff]
  exact ⟨[], List.nil_suffix, rfl⟩

/-! ## Texts without wildcards -/

/-- A text without wildcards is the pattern of itself. -/
theorem parse_of_plain {text : List Char} (h : text.any isMagicChar = false) :
    parse text = text.map .char := by
  induction text with
  | nil => rw [parse, List.map_nil]
  | cons c rest ih =>
    rw [List.any_cons, Bool.or_eq_false_iff] at h
    have hc := h.1
    simp only [isMagicChar, Bool.or_eq_false_iff, beq_eq_false_iff_ne] at hc
    rw [parse, ih h.2, List.map_cons]
    · exact fun e => hc.1.1 e
    · exact fun e => hc.1.2 e
    · exact fun e => hc.2 e

theorem matchesParts_map_char (text name : List Char) :
    matchesParts (text.map .char) name = true ↔ name = text := by
  induction text generalizing name with
  | nil => cases name <;> simp [matchesParts]
  | cons c text ih =>
    cases name with
    | nil => simp [matchesParts]
    | cons d name =>
      rw [List.map_cons, matchesParts, Bool.and_eq_true, ih, beq_iff_eq, List.cons.injEq]
      exact and_congr_left fun _ => eq_comm

/-- A star before a text without wildcards stands for the names that end in this text. -/
theorem isMatch_star_iff {ending name : String} (h : isMagic ending = false) :
    isMatch ("*" ++ ending) name = true ↔ ending.toList <:+ name.toList := by
  have htext : ("*" ++ ending).toList = '*' :: ending.toList := by
    rw [String.toList_append]
    rfl
  have hparse : parse ('*' :: ending.toList) = .anyRun :: ending.toList.map .char := by
    rw [parse, parse_of_plain h]
    cases ending.toList <;> rfl
  rw [isMatch_eq, htext, hparse, matchesParts, hasEnd_iff]
  constructor
  · rintro ⟨rest, hrest, hmatch⟩
    rwa [(matchesParts_map_char _ _).1 hmatch] at hrest
  · intro hend
    exact ⟨_, hend, (matchesParts_map_char _ _).2 rfl⟩

end Restyle.Wildcard
