import Restyle.Proofs.Lines
import Restyle.Text.Glyph

/-!
# Text of characters

Text that holds nothing but characters is that of a string (`Glyph.string?_eq_some_iff`), and whatever
is put together from such text is so too. Every glyph is told by its code point
(`Glyph.ofCodePoint?_codePoint`).
-/

namespace Restyle.Text.Glyph

/-! ## Strings -/

/-- Text is that of the string that it is read as. -/
theorem string?_eq_some_iff {text : List Glyph} {s : String} :
    string? text = some s ↔ text = ofString s := by
  have hall (text : List Glyph) (cs : List Char) :
      text.mapM char? = some cs ↔ text = cs.map .char := by
    induction text generalizing cs with
    | nil => cases cs <;> simp
    | cons g text ih =>
      rw [List.mapM_cons]
      cases g with
      | char c =>
        cases cs with
        | nil => simp [char?, Option.bind_eq_some_iff]
        | cons d cs =>
          simp only [char?, Option.bind_eq_bind, Option.bind_some, Option.bind_eq_some_iff, ih,
            Option.pure_def, Option.some.injEq, List.map_cons, List.cons.injEq, Glyph.char.injEq]
          constructor
          · rintro ⟨ds, rfl, rfl, rfl⟩
            exact ⟨rfl, rfl⟩
          · rintro ⟨rfl, rfl⟩
            exact ⟨cs, rfl, rfl, rfl⟩
      | stray b => cases cs <;> simp [char?]
      | lone n => cases cs <;> simp [char?]
  rw [string?, Option.map_eq_some_iff, ofString, ← hall text s.toList]
  constructor
  · rintro ⟨cs, hcs, rfl⟩
    rw [hcs, String.toList_ofList]
  · exact fun h => ⟨s.toList, h, String.ofList_toList⟩

@[simp] theorem string?_ofString (s : String) : string? (ofString s) = some s :=
  string?_eq_some_iff.2 rfl

theorem ofString_injective {s t : String} (h : ofString s = ofString t) : s = t :=
  Option.some.inj ((string?_ofString s).symm.trans ((congrArg string? h).trans (string?_ofString t)))

/-- Whether text holds nothing but characters. -/
def AreChars (text : List Glyph) : Prop :=
  ∀ g ∈ text, ∃ c, g = .char c

theorem exists_char_iff {g : Glyph} : (∃ c, g = .char c) ↔ (char? g).isSome = true := by
  cases g <;> simp [char?]

instance : DecidablePred AreChars := fun text =>
  decidable_of_iff (∀ g ∈ text, (char? g).isSome = true)
    (forall₂_congr fun _ _ => exists_char_iff.symm)

theorem areChars_ofString (s : String) : AreChars (ofString s) := by
  intro g hg
  obtain ⟨c, -, rfl⟩ := List.mem_map.1 hg
  exact ⟨c, rfl⟩

/-- Text that holds nothing but characters is that of a string, and no other text is. -/
theorem exists_string_iff {text : List Glyph} : (∃ s, string? text = some s) ↔ AreChars text := by
  constructor
  · rintro ⟨s, hs⟩
    rw [string?_eq_some_iff.1 hs]
    exact areChars_ofString s
  · intro h
    induction text with
    | nil => exact ⟨"", rfl⟩
    | cons g text ih =>
      rw [AreChars, List.forall_mem_cons] at h
      obtain ⟨⟨c, rfl⟩, hrest⟩ := h
      obtain ⟨s, hs⟩ := ih hrest
      refine ⟨String.ofList (c :: s.toList), string?_eq_some_iff.2 ?_⟩
      rw [string?_eq_some_iff.1 hs, ofString, ofString, String.toList_ofList, List.map_cons]

theorem areChars_append {text more : List Glyph} :
    AreChars (text ++ more) ↔ AreChars text ∧ AreChars more :=
  List.forall_mem_append

theorem areChars_char {c : Char} {text : List Glyph} :
    AreChars (.char c :: text) ↔ AreChars text := by
  rw [AreChars, List.forall_mem_cons]
  exact and_iff_right ⟨c, rfl⟩

/-- Text of characters can be written. -/
theorem encodes_of_areChars {text : List Glyph} (h : AreChars text) : encodes text = true := by
  rw [encodes, List.all_eq_true]
  intro g hg
  obtain ⟨c, rfl⟩ := h g hg
  rfl

/-! ## Lines -/

theorem unlines_cons (line : List Glyph) {ls : List (List Glyph)} (h : ls ≠ []) :
    unlines (line :: ls) = line ++ .char '\n' :: unlines ls :=
  joinWith_cons _ line h

theorem unlines_lines (text : List Glyph) : unlines (lines text) = text :=
  joinWith_splitOn _ text

theorem lines_unlines {ls : List (List Glyph)} (hne : ls ≠ [])
    (h : ∀ line ∈ ls, Glyph.char '\n' ∉ line) : lines (unlines ls) = ls :=
  splitOn_joinWith hne h

/-- A line has no newline in it. -/
theorem newline_not_mem_line {text line : List Glyph} (h : line ∈ lines text) :
    Glyph.char '\n' ∉ line :=
  fun hmem => (mem_of_mem_splitOn h _ hmem).2 rfl

/-- Lines put together hold newlines and what the lines hold. -/
theorem mem_unlines {ls : List (List Glyph)} {g : Glyph} (h : g ∈ unlines ls) :
    g = .char '\n' ∨ ∃ line ∈ ls, g ∈ line := by
  induction ls with
  | nil => cases h
  | cons line ls ih =>
    by_cases hnil : ls = []
    · subst hnil
      exact .inr ⟨line, List.mem_cons_self, h⟩
    · rw [unlines_cons line hnil, List.mem_append, List.mem_cons] at h
      rcases h with h | h | h
      · exact .inr ⟨line, List.mem_cons_self, h⟩
      · exact .inl h
      · obtain hg | ⟨other, hother, hg⟩ := ih h
        · exact .inl hg
        · exact .inr ⟨other, List.mem_cons_of_mem line hother, hg⟩

/-- Lines put together hold nothing but characters if and only if each of them does. -/
theorem areChars_unlines {ls : List (List Glyph)} :
    AreChars (unlines ls) ↔ ∀ line ∈ ls, AreChars line := by
  induction ls with
  | nil => simp [unlines, joinWith, AreChars]
  | cons line ls ih =>
    by_cases hnil : ls = []
    · subst hnil
      simp [unlines, joinWith]
    · rw [unlines_cons line hnil, areChars_append, areChars_char, ih, List.forall_mem_cons]

/-! ## Code points -/

theorem not_surrogate (c : Char) : c.toNat < 0xD800 ∨ 0xE000 ≤ c.toNat ∧ c.toNat ≤ 0x10FFFF := by
  have hvalid : c.toNat.isValidChar := c.valid
  rw [Nat.isValidChar] at hvalid
  omega

/-- A glyph is told by its code point. -/
theorem ofCodePoint?_codePoint (g : Glyph) : ofCodePoint? g.codePoint = some g := by
  cases g with
  | char c =>
    have hc := not_surrogate c
    have hlone : ¬ isLone c.toNat = true := by
      simp only [isLone, Bool.or_eq_true, Bool.and_eq_true, decide_eq_true_eq]
      omega
    rw [codePoint, ofCodePoint?, dif_neg hlone, if_neg (by omega), if_pos (by omega),
      Char.ofNat_toNat]
  | stray b high =>
    have hb : 0x80 ≤ b.toNat := UInt8.le_iff_toNat_le.1 high
    have hlt := b.toNat_lt
    have hlone : ¬ isLone (0xDC00 + b.toNat) = true := by
      simp only [isLone, Bool.or_eq_true, Bool.and_eq_true, decide_eq_true_eq]
      omega
    have hrange : 0xDC80 ≤ 0xDC00 + b.toNat ∧ 0xDC00 + b.toNat < 0xDD00 := by omega
    rw [codePoint, ofCodePoint?, dif_neg hlone, if_pos hrange, Nat.add_sub_cancel_left,
      UInt8.ofNat_toNat, ofOctet, dif_pos high]
  | lone n h => rw [codePoint, ofCodePoint?, dif_pos h]

/-- A code point beyond U+FFFF is that of a character. -/
theorem ofCodePoint?_of_large {n : Nat} (hlow : 0x10000 ≤ n) (hhigh : n ≤ 0x10FFFF) :
    ofCodePoint? n = some (.char (Char.ofNat n)) := by
  have hlone : ¬ isLone n = true := by
    simp only [isLone, Bool.or_eq_true, Bool.and_eq_true, decide_eq_true_eq]
    omega
  rw [ofCodePoint?, dif_neg hlone, if_neg (by omega), if_pos hhigh]

end Restyle.Text.Glyph
