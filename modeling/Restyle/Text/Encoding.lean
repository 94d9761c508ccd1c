import Restyle.Text.Glyph

/-!
# Octets of characters

A character takes one to four octets in UTF-8, by its number. One of ASCII takes the octet of the same
number, and all octets of any other glyph are above ASCII. So an octet of ASCII is always a glyph of
its own (`Glyph.eq_of_mem_octets`).
-/

namespace Restyle.Text

/-! ### Encodings of numbers -/

theorem toNat_ofNat_of_valid {n : Nat} (h : n.isValidChar) : (Char.ofNat n).val.toNat = n := by
  rw [Char.ofNat, dif_pos h]
  exact UInt32.toNat_ofNatLT

theorem encode_two {n : Nat} (hlow : 0x80 ≤ n) (hhigh : n < 0x800) :
    String.utf8EncodeChar (Char.ofNat n) =
      [UInt8.ofNat (n / 64 + 0xC0), UInt8.ofNat (n % 64 + 0x80)] := by
  have hvalid : n.isValidChar := .inl (by omega)
  have h1 : ¬ n ≤ 0x7F := by omega
  have h2 : n ≤ 0x7FF := by omega
  have hmod : n / 64 % 0x20 = n / 64 := by omega
  simp only [String.utf8EncodeChar, toNat_ofNat_of_valid hvalid, h1, h2, if_false, if_true, hmod]

theorem encode_three {n : Nat} (hvalid : n.isValidChar) (hlow : 0x800 ≤ n) (hhigh : n < 0x10000) :
    String.utf8EncodeChar (Char.ofNat n) =
      [UInt8.ofNat (n / 4096 + 0xE0), UInt8.ofNat (n / 64 % 64 + 0x80),
        UInt8.ofNat (n % 64 + 0x80)] := by
  have h1 : ¬ n ≤ 0x7F := by omega
  have h2 : ¬ n ≤ 0x7FF := by omega
  have h3 : n ≤ 0xFFFF := by omega
  have hmod : n / 4096 % 0x10 = n / 4096 := by omega
  simp only [String.utf8EncodeChar, toNat_ofNat_of_valid hvalid, h1, h2, h3, if_false, if_true,
    hmod]

theorem encode_four {n : Nat} (hlow : 0x10000 ≤ n) (hhigh : n < 0x110000) :
    String.utf8EncodeChar (Char.ofNat n) =
      [UInt8.ofNat (n / 262144 + 0xF0), UInt8.ofNat (n / 4096 % 64 + 0x80),
        UInt8.ofNat (n / 64 % 64 + 0x80), UInt8.ofNat (n % 64 + 0x80)] := by
  have hvalid : n.isValidChar := .inr ⟨by omega, by omega⟩
  have h1 : ¬ n ≤ 0x7F := by omega
  have h2 : ¬ n ≤ 0x7FF := by omega
  have h3 : ¬ n ≤ 0xFFFF := by omega
  have hmod : n / 262144 % 0x08 = n / 262144 := by omega
  simp only [String.utf8EncodeChar, toNat_ofNat_of_valid hvalid, h1, h2, h3, if_false, hmod]

/-- A character of ASCII is one octet. -/
theorem utf8EncodeChar_of_lt {c : Char} (h : c.toNat < 0x80) :
    String.utf8EncodeChar c = [UInt8.ofNat c.toNat] := by
  have hle : c.val.toNat ≤ 0x7f := Nat.le_of_lt_succ h
  simp only [String.utf8EncodeChar, hle, if_true]
  rfl

/-! ### Octets of ASCII -/

theorem le_lead_octet {n m : Nat} (hm : 0x80 ≤ m) (hlt : n + m < 0x100) :
    0x80 ≤ UInt8.ofNat (n + m) := by
  rw [UInt8.le_iff_toNat_le, UInt8.toNat_ofNat']
  show 0x80 ≤ (n + m) % 2 ^ 8
  omega

theorem le_tail_octet (n : Nat) : 0x80 ≤ UInt8.ofNat (n % 64 + 0x80) :=
  le_lead_octet (Nat.le_refl _) (by omega)

/-- The octets of a character outside of ASCII are above ASCII. -/
theorem le_of_mem_utf8EncodeChar {c : Char} (hc : ¬ c.toNat < 0x80) {b : UInt8}
    (hb : b ∈ String.utf8EncodeChar c) : 0x80 ≤ b := by
  have hvalid : c.toNat.isValidChar := c.valid
  rw [← Char.ofNat_toNat c] at hb
  generalize c.toNat = n at *
  have hn : n < 0x110000 := by
    rcases hvalid with h | h <;> omega
  by_cases h2 : n < 0x800
  · rw [encode_two (by omega) h2] at hb
    simp only [List.mem_cons, List.not_mem_nil, or_false] at hb
    rcases hb with rfl | rfl
    · exact le_lead_octet (by decide) (by omega)
    · exact le_tail_octet n
  by_cases h3 : n < 0x10000
  · rw [encode_three hvalid (by omega) h3] at hb
    simp only [List.mem_cons, List.not_mem_nil, or_false] at hb
    rcases hb with rfl | rfl | rfl
    · exact le_lead_octet (by decide) (by omega)
    · exact le_tail_octet _
    · exact le_tail_octet n
  · rw [encode_four (by omega) hn] at hb
    simp only [List.mem_cons, List.not_mem_nil, or_false] at hb
    rcases hb with rfl | rfl | rfl | rfl
    · exact le_lead_octet (by decide) (by omega)
    · exact le_tail_octet _
    · exact le_tail_octet _
    · exact le_tail_octet n

namespace Glyph

/-- An octet of ASCII is a glyph of its own. -/
theorem eq_of_mem_octets {g : Glyph} {b : UInt8} (hb : b ∈ g.octets) (hlt : b < 0x80) :
    g = .char (Char.ofNat b.toNat) := by
  cases g with
  | stray d high =>
    obtain rfl : b = d := List.mem_singleton.1 hb
    exact absurd hlt (UInt8.not_lt.2 high)
  | lone n =>
    simp only [octets, List.mem_cons, List.not_mem_nil, or_false] at hb
    rcases hb with rfl | rfl | rfl
    · exact absurd hlt (by decide)
    · exact absurd hlt (UInt8.not_lt.2 (le_tail_octet _))
    · exact absurd hlt (UInt8.not_lt.2 (le_tail_octet n))
  | char c =>
    by_cases hc : c.toNat < 0x80
    · have hocts : (Glyph.char c).octets = [UInt8.ofNat c.toNat] := utf8EncodeChar_of_lt hc
      rw [hocts, List.mem_singleton] at hb
      subst hb
      have hnat : (UInt8.ofNat c.toNat).toNat = c.toNat := by
        rw [UInt8.toNat_ofNat']
        omega
      rw [hnat, Char.ofNat_toNat]
    · exact absurd hlt (UInt8.not_lt.2 (le_of_mem_utf8EncodeChar hc hb))

theorem octets_ne_nil (g : Glyph) : g.octets ≠ [] := by
  cases g with
  | char c => exact String.utf8EncodeChar_ne_nil
  | stray b _ => exact List.cons_ne_nil b []
  | lone n _ => exact List.cons_ne_nil _ _

end Glyph

end Restyle.Text
