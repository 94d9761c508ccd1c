import Mathlib.Data.List.Basic
import Restyle.Summary

/-!
# Summaries are plain text

The JSON text of a summary holds printable ASCII characters and newlines only, whatever stands in the
names of its files and selectors.
-/

namespace Restyle

open Text

/-- Printable ASCII or a newline. -/
def IsPlainChar (c : Char) : Prop :=
  c = '\n' ∨ 0x20 ≤ c.toNat ∧ c.toNat ≤ 0x7E

instance : DecidablePred IsPlainChar := fun c =>
  inferInstanceAs (Decidable (c = '\n' ∨ 0x20 ≤ c.toNat ∧ c.toNat ≤ 0x7E))

/-- Whether a text holds plain characters only. -/
def IsPlain (s : String) : Prop :=
  ∀ c ∈ s.toList, IsPlainChar c

instance : DecidablePred IsPlain := fun s =>
  List.decidableBAll IsPlainChar s.toList

theorem IsPlain.append {s s' : String} (h : IsPlain s) (h' : IsPlain s') : IsPlain (s ++ s') := by
  intro c hc
  rw [String.toList_append] at hc
  rcases List.mem_append.1 hc with hc | hc
  · exact h c hc
  · exact h' c hc

theorem IsPlain.intercalate {sep : String} {parts : List String} (hsep : IsPlain sep)
    (hparts : ∀ part ∈ parts, IsPlain part) : IsPlain (sep.intercalate parts) := by
  unfold IsPlain
  rw [String.toList_intercalate]
  induction parts with
  | nil => simp
  | cons part rest ih =>
    have hpart := hparts part List.mem_cons_self
    have hrest := ih fun p hp => hparts p (List.mem_cons_of_mem _ hp)
    cases rest with
    | nil =>
      rw [List.map_singleton, List.intercalate_singleton]
      exact hpart
    | cons next rest =>
      intro c hc
      rw [List.map_cons, List.map_cons, List.intercalate_cons_cons] at hc
      rcases List.mem_append.1 hc with hc | hc
      · rcases List.mem_append.1 hc with hc | hc
        · exact hpart c hc
        · exact hsep c hc
      · exact hrest c hc

theorem isPlain_int (n : Int) : IsPlain (toString n) := by
  have hnat (k : Nat) : IsPlain (Nat.repr k) := by
    intro c hc
    rw [Nat.toList_repr] at hc
    have hdigit := Nat.isDigit_of_mem_toDigits (by decide) (by decide) hc
    simp only [Char.isDigit, Bool.and_eq_true, decide_eq_true_eq, ge_iff_le,
      UInt32.le_iff_toNat_le] at hdigit
    exact .inr ⟨Nat.le_trans (by decide) hdigit.1, Nat.le_trans hdigit.2 (by decide)⟩
  cases n with
  | ofNat k => exact hnat k
  | negSucc k =>
    have hsign : IsPlain "-" := by decide
    exact hsign.append (hnat (k + 1))

namespace Json

theorem isPlainChar_of_mem_hexDigits {c : Char} {width n : Nat} (h : c ∈ hexDigits width n) :
    IsPlainChar c := by
  induction width generalizing n with
  | zero => cases h
  | succ width ih =>
    rw [hexDigits] at h
    rcases List.mem_append.1 h with h | h
    · exact ih h
    · have hall : ∀ d < 16, IsPlainChar (Nat.digitChar d) := by decide
      rw [List.mem_singleton.1 h]
      exact hall _ (Nat.mod_lt n (by decide))

theorem isPlainChar_of_mem_unitEscape {c : Char} {unit : Nat} (h : c ∈ unitEscape unit) :
    IsPlainChar c := by
  rw [unitEscape, List.mem_cons, List.mem_cons] at h
  rcases h with rfl | rfl | h
  · decide
  · decide
  · exact isPlainChar_of_mem_hexDigits h

theorem isPlainChar_of_mem_escapeChar {c d : Char} (h : d ∈ escapeChar c) : IsPlainChar d := by
  have hshort {letter : Char} (hletter : IsPlainChar letter) (h : d ∈ ['\\', letter]) :
      IsPlainChar d := by
    rcases List.mem_cons.1 h with rfl | h
    · decide
    · rw [List.mem_singleton.1 h]
      exact hletter
  unfold escapeChar at h
  dsimp only at h
  split at h
  case isTrue hquote => exact hshort (by rcases hquote with rfl | rfl <;> decide) h
  split at h
  · exact hshort (by decide) h
  split at h
  · exact hshort (by decide) h
  split at h
  · exact hshort (by decide) h
  split at h
  · exact hshort (by decide) h
  split at h
  · exact hshort (by decide) h
  split at h
  case isTrue hprintable =>
    rw [List.mem_singleton.1 h]
    exact .inr hprintable
  split at h
  · exact isPlainChar_of_mem_unitEscape h
  · rcases List.mem_append.1 h with h | h
    · exact isPlainChar_of_mem_unitEscape h
    · exact isPlainChar_of_mem_unitEscape h

theorem isPlainChar_of_mem_escapeGlyph {g : Glyph} {c : Char} (h : c ∈ escapeGlyph g) :
    IsPlainChar c := by
  cases g with
  | char d => exact isPlainChar_of_mem_escapeChar h
  | stray b => exact isPlainChar_of_mem_unitEscape h
  | lone n => exact isPlainChar_of_mem_unitEscape h

theorem isPlain_stringText (text : List Glyph) : IsPlain (stringText text) := by
  intro c hc
  rw [stringText, String.toList_ofList, List.mem_cons, List.mem_append, List.mem_flatMap] at hc
  rcases hc with rfl | ⟨d, -, hd⟩ | hc
  · decide
  · exact isPlainChar_of_mem_escapeGlyph hd
  · rw [List.mem_singleton.1 hc]
    decide

theorem isPlain_lineStart (level : Nat) : IsPlain (lineStart level) := by
  intro c hc
  rw [lineStart, String.toList_ofList, List.mem_cons] at hc
  rcases hc with rfl | hc
  · decide
  · rw [List.eq_of_mem_replicate hc]
    decide

theorem isPlain_bracketed {left right : String} {level : Nat} {members : List String}
    (hleft : IsPlain left) (hright : IsPlain right) (h : ∀ m ∈ members, IsPlain m) :
    IsPlain (bracketed left right level members) := by
  unfold bracketed
  split
  · exact hleft.append hright
  · have hcomma : IsPlain "," := by decide
    have hsep := hcomma.append (isPlain_lineStart (level + 1))
    exact (((hleft.append (isPlain_lineStart _)).append (hsep.intercalate h)).append
      (isPlain_lineStart _)).append hright

theorem isPlain_list {level : Nat} {items : List (Value (List Glyph))}
    (h : ∀ v ∈ items, IsPlain (renderAt (level + 1) v)) :
    IsPlain (renderAt level (.list items)) := by
  have hitems (vs : List (Value (List Glyph))) (hvs : ∀ v ∈ vs, IsPlain (renderAt (level + 1) v)) :
      ∀ m ∈ renderItems (level + 1) vs, IsPlain m := by
    induction vs with
    | nil => simp [renderItems]
    | cons v vs ih =>
      rw [renderItems, List.forall_mem_cons]
      rw [List.forall_mem_cons] at hvs
      exact ⟨hvs.1, ih hvs.2⟩
  rw [renderAt]
  exact isPlain_bracketed (by decide) (by decide) (hitems items h)

theorem isPlain_table {level : Nat} {fields : Table (List Glyph)}
    (h : ∀ f ∈ fields, IsPlain (renderAt (level + 1) f.2)) :
    IsPlain (renderAt level (.table fields)) := by
  have hfields (fs : Table (List Glyph)) (hfs : ∀ f ∈ fs, IsPlain (renderAt (level + 1) f.2)) :
      ∀ m ∈ renderFields (level + 1) fs, IsPlain m := by
    induction fs with
    | nil => simp [renderFields]
    | cons f fs ih =>
      rw [renderFields, List.forall_mem_cons]
      rw [List.forall_mem_cons] at hfs
      have hcolon : IsPlain ": " := by decide
      exact ⟨((isPlain_stringText (Glyph.ofString f.1)).append hcolon).append hfs.1, ih hfs.2⟩
  rw [renderAt]
  exact isPlain_bracketed (by decide) (by decide) (hfields fields h)

theorem isPlain_text (level : Nat) (text : List Glyph) :
    IsPlain (renderAt level (.text text)) := by
  rw [renderAt]
  exact isPlain_stringText text

end Json

theorem Diff.isPlain_toValue (level : Nat) (d : Diff) : IsPlain (Json.renderAt level d.toValue) := by
  refine Json.isPlain_table ?_
  simp only [List.forall_mem_cons]
  refine ⟨Json.isPlain_text _ _, ?_, Json.isPlain_text _ _, Json.isPlain_text _ _, by simp⟩
  rw [Json.renderAt]
  exact isPlain_int d.line

/-- The text of a summary is plain. -/
theorem Summary.isPlain_render (s : Summary) : IsPlain s.render := by
  refine Json.isPlain_table ?_
  simp only [List.forall_mem_cons]
  refine ⟨?_, Json.isPlain_list ?_, Json.isPlain_list ?_, by simp⟩
  · rw [Json.renderAt]
    exact isPlain_int s.total
  · intro v hv
    obtain ⟨name, -, rfl⟩ := List.mem_map.1 hv
    exact Json.isPlain_text _ (Glyph.ofString name)
  · intro v hv
    obtain ⟨d, -, rfl⟩ := List.mem_map.1 hv
    exact d.isPlain_toValue _

end Restyle
