import Restyle.Text.Encoding

/-!
# Scripts

A stylesheet can be read at two levels: as file text, in glyphs, or as plain octets. A script says
what renaming needs to know of such a level: how a glyph is spelled, which symbol is the dot and which
the newline, and which symbols make up names.

Names are made of ASCII letters, digits, underscores and hyphens, at every level.
-/

namespace Restyle

open Text

/-- Whether a character can stand in a name. -/
def isNameChar (c : Char) : Bool :=
  c.isAlphanum || c == '_' || c == '-'

/-- How text is written in symbols of type `α`. -/
class Script (α : Type) where
  /-- The symbols of a glyph. -/
  spell : Glyph → List α
  /-- The symbol that starts a selector. -/
  dot : α
  /-- The symbol that ends a line. -/
  newline : α
  /-- Whether a symbol can stand in a name. -/
  isName : α → Bool
  spell_dot : spell (.char '.') = [dot]
  spell_newline : spell (.char '\n') = [newline]
  spell_ne_nil : ∀ g, spell g ≠ []
  /-- A character of a name is one symbol, which can stand in a name. -/
  spell_name : ∀ c, isNameChar c = true → ∃ a, spell (.char c) = [a] ∧ isName a = true
  /-- A symbol that can stand in a name is spelled by no more than one glyph, a character of names. -/
  exists_char_of_isName : ∀ a, isName a = true →
    ∃ c, isNameChar c = true ∧ ∀ g, a ∈ spell g → g = .char c
  isName_dot : isName dot = false
  isName_newline : isName newline = false
  dot_ne_newline : dot ≠ newline

/-- Whether an octet is the ASCII code of a character that can stand in a name. -/
def isNameOctet (b : UInt8) : Bool :=
  b < 0x80 && isNameChar (Char.ofNat b.toNat)

/-- Whether a glyph is a character that can stand in a name. -/
def isNameGlyph : Glyph → Bool
  | .char c => isNameChar c
  | .stray _ _ | .lone _ _ => false

/-! ### Names in octets -/

/-- The characters of names belong to ASCII. -/
theorem lt_of_isNameChar {c : Char} (h : isNameChar c = true) : c.toNat < 0x80 := by
  have below {d : Char} (hd : d.toNat < 0x80) (hc : c.val ≤ d.val) : c.toNat < 0x80 :=
    Nat.lt_of_le_of_lt (UInt32.le_iff_toNat_le.1 hc) hd
  simp only [isNameChar, Bool.or_eq_true, beq_iff_eq] at h
  rcases h with (h | rfl) | rfl
  · rcases Bool.or_eq_true_iff.1 h with h | h
    · rcases Bool.or_eq_true_iff.1 h with h | h
      · exact below (d := 'Z') (by decide) (of_decide_eq_true h).2
      · exact below (d := 'z') (by decide) (of_decide_eq_true (Bool.and_eq_true_iff.1 h).2)
    · exact below (d := '9') (by decide) (of_decide_eq_true (Bool.and_eq_true_iff.1 h).2)
  · decide
  · decide

theorem exists_octet_of_isNameChar (c : Char) (h : isNameChar c = true) :
    ∃ b, String.utf8EncodeChar c = [b] ∧ isNameOctet b = true := by
  have hlt := lt_of_isNameChar h
  refine ⟨_, utf8EncodeChar_of_lt hlt, ?_⟩
  have hb : (UInt8.ofNat c.toNat).toNat = c.toNat := by
    rw [UInt8.toNat_ofNat']
    omega
  simp only [isNameOctet, Bool.and_eq_true, decide_eq_true_eq, hb, Char.ofNat_toNat, h, and_true]
  rw [UInt8.lt_iff_toNat_lt, hb]
  exact hlt

theorem exists_char_of_isNameOctet (b : UInt8) (h : isNameOctet b = true) :
    ∃ c, isNameChar c = true ∧ ∀ g : Glyph, b ∈ g.octets → g = .char c := by
  rw [isNameOctet, Bool.and_eq_true, decide_eq_true_eq] at h
  exact ⟨_, h.2, fun g hb => g.eq_of_mem_octets hb h.1⟩

theorem exists_char_of_isNameGlyph (a : Glyph) (h : isNameGlyph a = true) :
    ∃ c, isNameChar c = true ∧ ∀ g, a ∈ [g] → g = .char c := by
  cases a with
  | char c => exact ⟨c, h, fun g ha => (List.mem_singleton.1 ha).symm⟩
  | stray b => cases h
  | lone n => cases h

namespace Script

instance : Script Glyph where
  spell g := [g]
  dot := .char '.'
  newline := .char '\n'
  isName := isNameGlyph
  spell_dot := rfl
  spell_newline := rfl
  spell_ne_nil g := List.cons_ne_nil g []
  spell_name _ h := ⟨_, rfl, h⟩
  exists_char_of_isName := exists_char_of_isNameGlyph
  isName_dot := by decide
  isName_newline := by decide
  dot_ne_newline := by decide

instance : Script UInt8 where
  spell := Glyph.octets
  dot := 0x2E
  newline := 0x0A
  isName := isNameOctet
  spell_dot := by decide
  spell_newline := by decide
  spell_ne_nil := Glyph.octets_ne_nil
  spell_name := exists_octet_of_isNameChar
  exists_char_of_isName := exists_char_of_isNameOctet
  isName_dot := by decide
  isName_newline := by decide
  dot_ne_newline := by decide

/-- Text in the symbols of a script. -/
def write {α : Type} [Script α] (text : List Glyph) : List α :=
  text.flatMap spell

/-- Glyphs spell themselves. -/
@[simp] theorem write_glyph (text : List Glyph) : write (α := Glyph) text = text :=
  List.flatMap_singleton' text

/-- In octets, text is written as it is in a file. -/
theorem write_octet (text : List Glyph) : write (α := UInt8) text = Glyph.toOctets text :=
  rfl

end Script

end Restyle
