import Mathlib.Algebra.GroupWithZero.Nat
import Mathlib.Data.List.Forall2
import Mathlib.Data.List.TakeWhile
import Restyle.Json.Printer
import Restyle.Json.Token
import Restyle.Proofs.Glyphs
import Restyle.Text.Encoding

/-!
# Spelling tokens

The characters that the printer writes are cut into the tokens they were written for. Marks, gaps and
texts end by themselves (`Spells`); a literal or a number ends where a character follows that no word
holds (`SpellsWord`). Both are kept by what the printer does with its parts: it joins them, and it puts
members between brackets (`spells_bracketed`).

Inside a text every glyph comes back from its escape (`textBody_escapeGlyph`), a character beyond U+FFFF
from its two surrogates. Two surrogates that stand alone in a text, one behind the other, are written as
such a character is, so they come back as one (`textBody_escaped`).
-/

namespace Restyle

/-! ## Surrogates -/

namespace Text.Glyph

/-- Whether a glyph is a surrogate that can be the first of two. -/
def isHigh (g : Glyph) : Bool :=
  0xD800 ≤ g.codePoint && g.codePoint < 0xDC00

/-- Whether a glyph is a surrogate that can be the second of two. -/
def isLow (g : Glyph) : Bool :=
  0xDC00 ≤ g.codePoint && g.codePoint < 0xE000

/-- Text with a character in the place of every two surrogates that stand for it. -/
def joined : List Glyph → List Glyph
  | g :: h :: rest =>
    if g.isHigh && h.isLow then
      .char (Char.ofNat (0x10000 + (g.codePoint - 0xD800) * 0x400 + (h.codePoint - 0xDC00))) ::
        joined rest
    else g :: joined (h :: rest)
  | text => text

theorem isHigh_char (c : Char) : isHigh (.char c) = false := by
  have hc := not_surrogate c
  rw [Bool.eq_false_iff, isHigh, codePoint]
  simp only [ne_eq, Bool.and_eq_true, decide_eq_true_eq]
  omega

/-- Text without surrogates is left as it is. -/
theorem joined_of_areChars {text : List Glyph} (h : AreChars text) : joined text = text := by
  fun_induction joined text with
  | case1 g g' rest hpair _ =>
    obtain ⟨c, rfl⟩ := h g List.mem_cons_self
    rw [isHigh_char, Bool.false_and] at hpair
    cases hpair
  | case2 g g' rest _ ih => rw [ih fun a ha => h a (List.mem_cons_of_mem g ha)]
  | case3 => rfl

theorem joined_ofString (s : String) : joined (ofString s) = ofString s :=
  joined_of_areChars (areChars_ofString s)

end Text.Glyph

namespace Json

open Text

/-! ## Escapes -/

section Escapes

variable {cs rest : List Char}

theorem length_hexDigits (width n : Nat) : (hexDigits width n).length = width := by
  induction width generalizing n with
  | zero => rfl
  | succ width ih => rw [hexDigits, List.length_append, ih, List.length_singleton]

theorem hexDigit?_digitChar : ∀ d < 16, Toml.hexDigit? (Nat.digitChar d) = some d := by
  decide

theorem hexValue?_append_digit (digits : List Char) {d : Nat} (hd : d < 16) :
    Toml.hexValue? (digits ++ [Nat.digitChar d]) = (Toml.hexValue? digits).map (· * 16 + d) := by
  unfold Toml.hexValue?
  rw [List.foldlM_append]
  simp only [List.foldlM_cons, List.foldlM_nil, hexDigit?_digitChar d hd, Option.map_some]
  cases List.foldlM (fun n c => (Toml.hexDigit? c).map (n * 16 + ·)) 0 digits with
  | none => rfl
  | some n => rfl

theorem hexValue?_hexDigits (width n : Nat) :
    Toml.hexValue? (hexDigits width n) = some (n % 16 ^ width) := by
  induction width generalizing n with
  | zero => rw [Nat.pow_zero, Nat.mod_one]; rfl
  | succ width ih =>
    rw [hexDigits, hexValue?_append_digit _ (Nat.mod_lt n (by decide)), ih, Option.map_some,
      Nat.pow_succ', Nat.mod_mul, Nat.mul_comm, Nat.add_comm]

theorem unit?_hexDigits {unit : Nat} (h : unit < 0x10000) (rest : List Char) :
    unit? (hexDigits 4 unit ++ rest) = some (unit, rest) := by
  have hlength := length_hexDigits 4 unit
  have hsize : unit < 16 ^ 4 := h
  have hfour : ¬ (hexDigits 4 unit ++ rest).length < 4 := by
    rw [List.length_append, hlength]
    omega
  rw [unit?, if_neg hfour, List.take_left' hlength, List.drop_left' hlength, hexValue?_hexDigits,
    Nat.mod_eq_of_lt hsize]
  rfl

theorem lowUnit?_unitEscape {unit : Nat} (h : unit < 0x10000) (rest : List Char) :
    lowUnit? (unitEscape unit ++ rest) =
      if 0xDC00 ≤ unit ∧ unit < 0xE000 then some (unit, rest) else none := by
  rw [unitEscape, List.cons_append, List.cons_append, lowUnit?, unit?_hexDigits h,
    Option.filter_some]
  simp only [Bool.and_eq_true, decide_eq_true_eq]

theorem codePoint_lt_of_isLow {g : Glyph} (h : g.isLow = true) :
    0xDC00 ≤ g.codePoint ∧ g.codePoint < 0xE000 := by
  simpa [Glyph.isLow] using h

theorem codePoint_lt_of_isHigh {g : Glyph} (h : g.isHigh = true) :
    0xD800 ≤ g.codePoint ∧ g.codePoint < 0xDC00 := by
  simpa [Glyph.isHigh] using h

/-- A glyph that is a surrogate is escaped by its number. -/
theorem escapeGlyph_of_surrogate {g : Glyph} (hlow : 0xD800 ≤ g.codePoint)
    (hhigh : g.codePoint < 0xE000) : escapeGlyph g = unitEscape g.codePoint := by
  cases g with
  | char c =>
    have hc := Glyph.not_surrogate c
    rw [Glyph.codePoint] at hlow hhigh
    omega
  | stray b => rfl
  | lone n => rfl

/-- Nothing else begins as the second of two surrogates does. -/
theorem lowUnit?_escapeGlyph {g : Glyph} (h : g.isLow = false) (rest : List Char) :
    lowUnit? (escapeGlyph g ++ rest) = none := by
  have hnot : ¬ (0xDC00 ≤ g.codePoint ∧ g.codePoint < 0xE000) := by
    simpa [Glyph.isLow] using h
  have hunit {unit : Nat} (hsmall : unit < 0x10000) (hno : ¬ (0xDC00 ≤ unit ∧ unit < 0xE000))
      (more : List Char) : lowUnit? (unitEscape unit ++ more) = none := by
    rw [lowUnit?_unitEscape hsmall, if_neg hno]
  have hletter {letter : Char} (hu : letter ≠ 'u') : lowUnit? (['\\', letter] ++ rest) = none := by
    rw [List.cons_append, List.singleton_append, lowUnit?]
    intro more heq
    exact hu (List.cons.inj (List.cons.inj heq).2).1
  cases g with
  | stray b high =>
    have hlt := b.toNat_lt
    exact hunit (by rw [Glyph.codePoint]; omega) hnot rest
  | lone n hlone =>
    simp only [isLone, Bool.or_eq_true, Bool.and_eq_true, decide_eq_true_eq] at hlone
    exact hunit (by rw [Glyph.codePoint]; omega) hnot rest
  | char c =>
    rw [Glyph.codePoint] at hnot
    unfold escapeGlyph escapeChar
    dsimp only
    split
    case isTrue hmarked => exact hletter (by rcases hmarked with rfl | rfl <;> decide)
    case isFalse hmarked =>
    rw [not_or] at hmarked
    split
    · exact hletter (by decide)
    split
    · exact hletter (by decide)
    split
    · exact hletter (by decide)
    split
    · exact hletter (by decide)
    split
    · exact hletter (by decide)
    split
    · rw [List.singleton_append, lowUnit?]
      intro more heq
      exact hmarked.2 (List.cons.inj heq).1
    split
    case isTrue hsmall => exact hunit hsmall hnot rest
    case isFalse hlarge =>
      -- The first of the two surrogates is no second one.
      have hc := Glyph.not_surrogate c
      rw [List.append_assoc]
      exact hunit (by omega) (by omega) _

/-- A unit is the glyph of its number, unless it is the first of two surrogates. -/
theorem escaped?_unit {g : Glyph} (hsmall : g.codePoint < 0x10000) {rest : List Char}
    (hrest : g.isHigh = true → lowUnit? rest = none) :
    escaped? ('u' :: (hexDigits 4 g.codePoint ++ rest)) = some (g, rest) := by
  rw [escaped?, if_pos rfl, unitsGlyph?, unit?_hexDigits hsmall]
  dsimp only
  by_cases hhigh : 0xD800 ≤ g.codePoint ∧ g.codePoint < 0xDC00
  · rw [if_pos hhigh, hrest (by simpa [Glyph.isHigh] using hhigh)]
    dsimp only
    rw [Glyph.ofCodePoint?_codePoint]
    rfl
  · rw [if_neg hhigh, Glyph.ofCodePoint?_codePoint]
    rfl

/-- Two surrogates are the character that they stand for. -/
theorem escaped?_surrogates {high low : Nat} (hhigh : 0xD800 ≤ high ∧ high < 0xDC00)
    (hlow : 0xDC00 ≤ low ∧ low < 0xE000) (rest : List Char) :
    escaped? ('u' :: (hexDigits 4 high ++ (unitEscape low ++ rest))) =
      some (.char (Char.ofNat (0x10000 + (high - 0xD800) * 0x400 + (low - 0xDC00))), rest) := by
  rw [escaped?, if_pos rfl, unitsGlyph?, unit?_hexDigits (by omega)]
  dsimp only
  rw [if_pos hhigh, lowUnit?_unitEscape (by omega), if_pos hlow]
  dsimp only
  rw [Glyph.ofCodePoint?_of_large (by omega) (by omega)]
  rfl

theorem textBody_backslash {g : Glyph} (h : escaped? cs = some (g, rest)) :
    textBody ('\\' :: cs) = withGlyph g (textBody rest) := by
  rw [textBody, if_neg (by decide), if_pos rfl]
  split
  case h_1 e more heq =>
    rw [h, Option.some.injEq, Prod.mk.injEq] at heq
    rw [heq.1, heq.2]
  case h_2 heq =>
    rw [h] at heq
    cases heq

theorem textBody_letter {letter d : Char} (hu : letter ≠ 'u') (h : letterEscape? letter = some d) :
    textBody ('\\' :: letter :: rest) = withGlyph (.char d) (textBody rest) := by
  refine textBody_backslash ?_
  rw [escaped?, if_neg hu, h]
  rfl

/-- A character comes back from its escape. -/
theorem textBody_escapeChar (c : Char) (rest : List Char) :
    textBody (escapeChar c ++ rest) = withGlyph (.char c) (textBody rest) := by
  unfold escapeChar
  dsimp only
  split
  case isTrue hmarked =>
    rcases hmarked with rfl | rfl
    · exact textBody_letter (by decide) rfl
    · exact textBody_letter (by decide) rfl
  case isFalse hmarked =>
  rw [not_or] at hmarked
  split
  case isTrue hnewline => exact hnewline ▸ textBody_letter (by decide) rfl
  split
  case isTrue hreturn => exact hreturn ▸ textBody_letter (by decide) rfl
  split
  case isTrue htab => exact htab ▸ textBody_letter (by decide) rfl
  split
  case isTrue hbackspace =>
    exact textBody_letter (by decide) (by rw [← Char.ofNat_toNat c, hbackspace]; rfl)
  split
  case isTrue hfeed =>
    exact textBody_letter (by decide) (by rw [← Char.ofNat_toNat c, hfeed]; rfl)
  split
  case isTrue hprintable =>
    rw [List.singleton_append, textBody, if_neg hmarked.1, if_neg hmarked.2,
      if_neg (Nat.not_lt.2 hprintable.1)]
  split
  case isTrue hsmall =>
    have hnot : (Glyph.char c).isHigh = true → lowUnit? rest = none := by
      rw [Glyph.isHigh_char]
      exact fun h => absurd h Bool.false_ne_true
    exact textBody_backslash (escaped?_unit (g := .char c) hsmall hnot)
  case isFalse hlarge =>
    have hc := Glyph.not_surrogate c
    have hhigh : 0xD800 ≤ 0xD800 + (c.toNat - 0x10000) / 0x400 ∧
        0xD800 + (c.toNat - 0x10000) / 0x400 < 0xDC00 := by omega
    have hlow : 0xDC00 ≤ 0xDC00 + (c.toNat - 0x10000) % 0x400 ∧
        0xDC00 + (c.toNat - 0x10000) % 0x400 < 0xE000 := by omega
    have hsum : 0x10000 + (0xD800 + (c.toNat - 0x10000) / 0x400 - 0xD800) * 0x400 +
        (0xDC00 + (c.toNat - 0x10000) % 0x400 - 0xDC00) = c.toNat := by omega
    have hpair := escaped?_surrogates hhigh hlow rest
    rw [hsum, Char.ofNat_toNat] at hpair
    rw [List.append_assoc]
    exact textBody_backslash hpair

/-- A glyph comes back from its escape, unless it is the first of two surrogates. -/
theorem textBody_escapeGlyph (g : Glyph) {rest : List Char}
    (hrest : g.isHigh = true → lowUnit? rest = none) :
    textBody (escapeGlyph g ++ rest) = withGlyph g (textBody rest) := by
  cases g with
  | char c => exact textBody_escapeChar c rest
  | stray b high =>
    have hlt := b.toNat_lt
    exact textBody_backslash (escaped?_unit (by rw [Glyph.codePoint]; omega) hrest)
  | lone n hlone =>
    have hsmall : (Glyph.lone n hlone).codePoint < 0x10000 := by
      have hrange := hlone
      simp only [isLone, Bool.or_eq_true, Bool.and_eq_true, decide_eq_true_eq] at hrange
      rw [Glyph.codePoint]
      omega
    exact textBody_backslash (escaped?_unit hsmall hrest)

/-- A text is read up to its closing quote, with its surrogates joined. -/
theorem textBody_escaped (text : List Glyph) (rest : List Char) :
    textBody (text.flatMap escapeGlyph ++ '"' :: rest) = some (Glyph.joined text, rest) := by
  have hquote : lowUnit? ('"' :: rest) = none := rfl
  fun_induction Glyph.joined text with
  | case1 g h text hpair ih =>
    -- Two surrogates, which are escaped by their numbers.
    obtain ⟨hhigh, hlow⟩ := Bool.and_eq_true_iff.1 hpair
    have hg := codePoint_lt_of_isHigh hhigh
    have hh := codePoint_lt_of_isLow hlow
    rw [List.flatMap_cons, List.flatMap_cons, List.append_assoc, List.append_assoc,
      escapeGlyph_of_surrogate hg.1 (by omega), escapeGlyph_of_surrogate (by omega) hh.2]
    refine (textBody_backslash (escaped?_surrogates hg hh _)).trans ?_
    rw [ih]
    rfl
  | case2 g h text hpair ih =>
    have hnext : g.isHigh = true →
        lowUnit? ((h :: text).flatMap escapeGlyph ++ '"' :: rest) = none := by
      intro hhigh
      rw [hhigh, Bool.true_and, Bool.not_eq_true] at hpair
      rw [List.flatMap_cons, List.append_assoc]
      exact lowUnit?_escapeGlyph hpair _
    rw [List.flatMap_cons, List.append_assoc, textBody_escapeGlyph g hnext, ih]
    rfl
  | case3 text hshort =>
    -- At most one glyph is left, and behind it stands the quote.
    have hnil : textBody ('"' :: rest) = some ([], rest) := by rw [textBody, if_pos rfl]
    rcases text with _ | ⟨g, _ | ⟨h, text⟩⟩
    · exact hnil
    · rw [List.flatMap_singleton, textBody_escapeGlyph g fun _ => hquote, hnil]
      rfl
    · exact absurd rfl (hshort g h text)

/-- A character beyond U+FFFF is escaped by its two surrogates. -/
theorem escapeChar_of_large {c : Char} (h : 0x10000 ≤ c.toNat) : escapeChar c =
    unitEscape (0xD800 + (c.toNat - 0x10000) / 0x400) ++
      unitEscape (0xDC00 + (c.toNat - 0x10000) % 0x400) := by
  have hne {d : Char} (hd : d.toNat < 0x10000) : c ≠ d := by
    rintro rfl
    omega
  unfold escapeChar
  dsimp only
  rw [if_neg (by rw [not_or]; exact ⟨hne (by decide), hne (by decide)⟩), if_neg (hne (by decide)),
    if_neg (hne (by decide)), if_neg (hne (by decide)), if_neg (by omega), if_neg (by omega),
    if_neg (by omega), if_neg (by omega)]

/-- Two surrogates are escaped as the character that they stand for. -/
theorem flatMap_escapeGlyph_joined (text : List Glyph) :
    (Glyph.joined text).flatMap escapeGlyph = text.flatMap escapeGlyph := by
  fun_induction Glyph.joined text with
  | case1 g h text hpair ih =>
    obtain ⟨hhigh, hlow⟩ := Bool.and_eq_true_iff.1 hpair
    have hg := codePoint_lt_of_isHigh hhigh
    have hh := codePoint_lt_of_isLow hlow
    generalize hvalue : 0x10000 + (g.codePoint - 0xD800) * 0x400 + (h.codePoint - 0xDC00) = value
    have hchar : (Char.ofNat value).toNat = value :=
      toNat_ofNat_of_valid (.inr ⟨by omega, by omega⟩)
    have hescape := escapeChar_of_large (c := Char.ofNat value) (by omega)
    rw [hchar, show 0xD800 + (value - 0x10000) / 0x400 = g.codePoint by omega,
      show 0xDC00 + (value - 0x10000) % 0x400 = h.codePoint by omega] at hescape
    rw [List.flatMap_cons, List.flatMap_cons, List.flatMap_cons, ih, escapeGlyph, hescape,
      escapeGlyph_of_surrogate hg.1 (by omega), escapeGlyph_of_surrogate (by omega) hh.2,
      List.append_assoc]
  | case2 g h text _ ih => rw [List.flatMap_cons, ih, ← List.flatMap_cons]
  | case3 => rfl

/-- So they are joined once and for all. -/
theorem joined_joined (text : List Glyph) :
    Glyph.joined (Glyph.joined text) = Glyph.joined text := by
  have hread := textBody_escaped (Glyph.joined text) []
  rw [flatMap_escapeGlyph_joined, textBody_escaped] at hread
  exact (Prod.mk.inj (Option.some.inj hread)).1.symm

theorem stringText_joined (text : List Glyph) : stringText (Glyph.joined text) = stringText text := by
  rw [stringText, flatMap_escapeGlyph_joined, stringText]

end Escapes

/-! ## Integers -/

/-- No zero stands in front of the digits of a number. -/
theorem head?_toDigits {n : Nat} (h : (Nat.toDigits 10 n).head? = some '0') :
    Nat.toDigits 10 n = ['0'] := by
  induction n using Nat.strongRecOn with
  | ind n ih =>
    by_cases hn : n < 10
    · have hall : ∀ d < 10, [Nat.digitChar d].head? = some '0' → [Nat.digitChar d] = ['0'] := by
        decide
      rw [Nat.toDigits_of_lt_base hn] at h ⊢
      exact hall n hn h
    · -- The digits before the last one are those of a number that is not zero.
      have hfront := Nat.toDigits_ne_nil (n := n / 10) (b := 10)
      rw [Nat.toDigits_of_base_le (by decide) (Nat.le_of_not_lt hn),
        List.head?_append_of_ne_nil _ hfront] at h
      have hzero : n / 10 = 0 := by
        rw [← Nat.ofDigitChars_toDigits (b := 10) (n := n / 10) (by decide) (by decide),
          ih (n / 10) (by omega) h]
        rfl
      omega

theorem isDigit_of_mem_toDigits {c : Char} {n : Nat} (h : c ∈ Nat.toDigits 10 n) : c.isDigit = true :=
  Nat.isDigit_of_mem_toDigits (by decide) (by decide) h

theorem unsigned?_toDigits (negative : Bool) (n : Nat) :
    unsigned? negative (Nat.toDigits 10 n) = some (.int (if negative then -(n : Int) else n)) := by
  have hwhole : (Nat.toDigits 10 n).takeWhile Char.isDigit = Nat.toDigits 10 n :=
    List.takeWhile_eq_self_iff.2 fun c hc => isDigit_of_mem_toDigits hc
  have hrest : (Nat.toDigits 10 n).dropWhile Char.isDigit = [] :=
    List.dropWhile_eq_nil_iff.2 fun c hc => isDigit_of_mem_toDigits hc
  have hfront : ¬ (Nat.toDigits 10 n = [] ∨
      (Nat.toDigits 10 n).head? = some '0' ∧ Nat.toDigits 10 n ≠ ['0']) := by
    rintro (hnil | ⟨hzero, hmore⟩)
    · exact Nat.toDigits_ne_nil hnil
    · exact hmore (head?_toDigits hzero)
  rw [unsigned?, hwhole, hrest]
  dsimp only
  rw [if_neg hfront, if_pos rfl, digitsValue, Nat.ofDigitChars_toDigits (by decide) (by decide)]

/-- Digits are no literal and have no sign. -/
theorem scalar?_toDigits (n : Nat) : scalar? (Nat.toDigits 10 n) = some (.int n) := by
  have hnumber := unsigned?_toDigits false n
  cases hdigits : Nat.toDigits 10 n with
  | nil => exact absurd hdigits Nat.toDigits_ne_nil
  | cons c cs =>
    have hc : c.isDigit = true := isDigit_of_mem_toDigits (hdigits ▸ List.mem_cons_self)
    have hne {d : Char} (hd : d.isDigit = false) : c ≠ d := by
      rintro rfl
      rw [hc] at hd
      cases hd
    rw [hdigits] at hnumber
    rw [scalar?, if_neg (fun h => hne rfl (List.cons.inj h).1),
      if_neg (fun h => hne rfl (List.cons.inj h).1), if_neg (fun h => hne rfl (List.cons.inj h).1),
      number?]
    · exact hnumber
    · intro rest h
      exact hne rfl (List.cons.inj h).1

/-- An integer is written with its sign, if it has one, and its digits. -/
theorem toList_int (n : Int) :
    (toString n).toList = (if n < 0 then ['-'] else []) ++ Nat.toDigits 10 n.natAbs := by
  cases n with
  | ofNat k => exact Nat.toList_repr
  | negSucc k =>
    have hsign : toString (Int.negSucc k) = "-" ++ (k + 1).repr := rfl
    rw [hsign, String.toList_append, Nat.toList_repr, if_pos (Int.negSucc_lt_zero k)]
    rfl

theorem scalar?_int (n : Int) : scalar? (toString n).toList = some (.int n) := by
  rw [toList_int]
  split
  case isTrue hneg =>
    have hvalue : -(n.natAbs : Int) = n := by omega
    rw [List.singleton_append, scalar?, if_neg (by simp), if_neg (by simp), if_neg (by simp), number?,
      unsigned?_toDigits, if_pos rfl, hvalue]
  case isFalse hneg =>
    have hvalue : (n.natAbs : Int) = n := by omega
    rw [List.nil_append, scalar?_toDigits, hvalue]

theorem isWordChar_of_mem_int {n : Int} {c : Char} (h : c ∈ (toString n).toList) :
    isWordChar c = true := by
  rw [toList_int, List.mem_append] at h
  rcases h with h | h
  · split at h
    · rw [List.mem_singleton.1 h]
      decide
    · cases h
  · simp [isWordChar, Char.isAlphanum, isDigit_of_mem_toDigits h]

/-! ## Tokens -/

/-- Whether no word goes on in these characters. -/
def EndsWord (cs : List Char) : Prop :=
  cs.takeWhile isWordChar = []

/-- A text is cut into these tokens, whatever follows. -/
def Spells (s : String) (pieces : List Token) : Prop :=
  ∀ rest, tokens (s.toList ++ rest) = (tokens rest).map (pieces ++ ·)

/-- A text is cut into these tokens if a word ends behind it. -/
def SpellsWord (s : String) (pieces : List Token) : Prop :=
  ∀ rest, EndsWord rest → tokens (s.toList ++ rest) = (tokens rest).map (pieces ++ ·)

/-- A text that a word ends in front of. -/
def Stops (s : String) : Prop :=
  ∀ rest, EndsWord (s.toList ++ rest)

section Spelling

variable {s s' : String} {pieces pieces' : List Token}

theorem stops_of_cons {c : Char} {cs : List Char} (hs : s.toList = c :: cs)
    (hc : isWordChar c = false) : Stops s := by
  intro rest
  rw [EndsWord, hs, List.cons_append, List.takeWhile_cons_of_neg (by simp [hc])]

theorem Stops.append (h : Stops s) (s' : String) : Stops (s ++ s') := by
  intro rest
  rw [String.toList_append, List.append_assoc]
  exact h (s'.toList ++ rest)

theorem Spells.word (h : Spells s pieces) : SpellsWord s pieces :=
  fun rest _ => h rest

theorem map_append_map (o : Option (List Token)) :
    (o.map (pieces' ++ ·)).map (pieces ++ ·) = o.map (pieces ++ pieces' ++ ·) := by
  cases o with
  | none => rfl
  | some more => exact congrArg some (List.append_assoc pieces pieces' more).symm

theorem Spells.append_word (h : Spells s pieces) (h' : SpellsWord s' pieces') :
    SpellsWord (s ++ s') (pieces ++ pieces') := by
  intro rest hrest
  rw [String.toList_append, List.append_assoc, h, h' rest hrest, map_append_map]

theorem SpellsWord.append (h : SpellsWord s pieces) (h' : Spells s' pieces') (hstops : Stops s') :
    Spells (s ++ s') (pieces ++ pieces') := by
  intro rest
  rw [String.toList_append, List.append_assoc, h _ (hstops rest), h' rest, map_append_map]

theorem Spells.append (h : Spells s pieces) (h' : Spells s' pieces') :
    Spells (s ++ s') (pieces ++ pieces') := by
  intro rest
  rw [String.toList_append, List.append_assoc, h, h' rest, map_append_map]

/-! ### Marks, gaps, texts and words -/

theorem spells_mark {c : Char} {mark : Token} (hs : s.toList = [c]) (hgap : isGap c = false)
    (hmark : mark? c = some mark) : Spells s [mark] := by
  intro rest
  rw [hs, List.singleton_append, tokens, if_neg (by simp [hgap]), hmark]
  rfl

theorem spells_gap (h : s.toList.all isGap = true) : Spells s [] := by
  intro rest
  have hall (cs : List Char) (hcs : ∀ c ∈ cs, isGap c = true) : tokens (cs ++ rest) = tokens rest := by
    induction cs with
    | nil => rfl
    | cons c cs ih =>
      rw [List.forall_mem_cons] at hcs
      rw [List.cons_append, tokens, if_pos hcs.1, ih hcs.2]
  rw [hall s.toList (List.all_eq_true.1 h)]
  cases tokens rest with
  | none => rfl
  | some more => rfl

theorem spells_stringText (text : List Glyph) :
    Spells (stringText text) [.text (Glyph.joined text)] := by
  intro rest
  rw [stringText, String.toList_ofList, List.cons_append, List.append_assoc, List.singleton_append,
    tokens, if_neg (by decide)]
  have hmark : mark? '"' = none := rfl
  rw [hmark]
  dsimp only
  rw [if_pos rfl]
  split
  case h_1 found more heq =>
    rw [textBody_escaped, Option.some.injEq, Prod.mk.injEq] at heq
    rw [← heq.1, ← heq.2]
    rfl
  case h_2 heq =>
    rw [textBody_escaped] at heq
    cases heq

/-- What words consist of is no gap, no mark and no quote. -/
theorem not_word_of {c : Char} (h : isGap c = true ∨ mark? c ≠ none ∨ c = '"') :
    isWordChar c = false := by
  rcases h with h | h | rfl
  · simp only [isGap, Bool.or_eq_true, beq_iff_eq] at h
    rcases h with ((rfl | rfl) | rfl) | rfl <;> decide
  · unfold mark? at h
    split at h
    case h_7 => exact absurd rfl h
    all_goals decide
  · decide

theorem spellsWord_scalar {v : Value (List Glyph)} (hword : s.toList.all isWordChar = true)
    (hv : scalar? s.toList = some v) : SpellsWord s [.scalar v] := by
  intro rest hrest
  cases hs : s.toList with
  | nil =>
    rw [hs] at hv
    cases hv
  | cons c cs =>
    rw [hs] at hv hword
    obtain ⟨hc, hcs⟩ := List.forall_mem_cons.1 (List.all_eq_true.1 hword)
    have hnot {P : Prop} (hP : P → isWordChar c = false) : ¬ P := fun h => by
      rw [hP h] at hc
      cases hc
    have hmark : mark? c = none := by
      by_contra hsome
      exact hnot (fun h => not_word_of (.inr (.inl h))) hsome
    -- The word is taken up to its own end and no further.
    have htake : (cs ++ rest).takeWhile isWordChar = cs := by
      rw [List.takeWhile_append_of_pos hcs, hrest, List.append_nil]
    have hdrop : (cs ++ rest).dropWhile isWordChar = rest := by
      rw [List.dropWhile_append_of_pos hcs]
      have hwhole := List.takeWhile_append_dropWhile (p := isWordChar) (l := rest)
      rwa [hrest, List.nil_append] at hwhole
    rw [List.cons_append, tokens, if_neg (hnot fun h => not_word_of (.inl h)), hmark]
    dsimp only
    rw [if_neg (hnot fun h => not_word_of (.inr (.inr h))), if_pos hc, htake, hv, hdrop]
    rfl

theorem spellsWord_int (n : Int) : SpellsWord (toString n) [.scalar (.int n)] :=
  spellsWord_scalar (List.all_eq_true.2 fun _ => isWordChar_of_mem_int) (scalar?_int n)

/-! ### Members between brackets -/

theorem spells_lineStart (level : Nat) : Spells (lineStart level) [] := by
  refine spells_gap (List.all_eq_true.2 fun c hc => ?_)
  rw [lineStart, String.toList_ofList, List.mem_cons] at hc
  rcases hc with rfl | hc
  · rfl
  · rw [List.eq_of_mem_replicate hc]
    rfl

theorem stops_lineStart (level : Nat) : Stops (lineStart level) :=
  stops_of_cons (String.toList_ofList ..) rfl

/-- Members with a separator between them, the last of them in front of something that ends it. -/
theorem spells_members {separator ending : String} {members : List String}
    {parts : List (List Token)} {closing : List Token} (hseparator : Spells separator [.comma])
    (hstops : Stops separator) (hending : Spells ending closing) (hends : Stops ending)
    (h : List.Forall₂ SpellsWord members parts) (hne : members ≠ []) :
    Spells (separator.intercalate members ++ ending)
      ([Token.comma].intercalate parts ++ closing) := by
  induction h with
  | nil => exact absurd rfl hne
  | cons hmember hrest ih =>
    cases hrest with
    | nil =>
      rw [String.intercalate_singleton, List.intercalate_singleton]
      exact hmember.append hending hends
    | cons hnext hrest =>
      rw [String.intercalate_cons_cons, List.intercalate_cons_cons, String.append_assoc,
        List.append_assoc]
      exact (hmember.append hseparator hstops).append (ih (by simp))

/-- Members between brackets. -/
theorem spells_bracketed {left right : String} {opening closing : Token} (level : Nat)
    {members : List String} {parts : List (List Token)} (hleft : Spells left [opening])
    (hright : Spells right [closing]) (h : List.Forall₂ SpellsWord members parts) :
    Spells (bracketed left right level members)
      (opening :: ([Token.comma].intercalate parts ++ [closing])) := by
  have hcomma : Spells "," [.comma] := spells_mark rfl rfl rfl
  have hcut : Stops "," := stops_of_cons rfl rfl
  have hending := (spells_lineStart level).append hright
  have hends := (stops_lineStart level).append right
  unfold bracketed
  split
  case h_1 =>
    cases h
    exact hleft.append hright
  case h_2 hne =>
    have hmembers := spells_members (hcomma.append (spells_lineStart (level + 1))) (hcut.append _)
      hending hends h hne
    rw [String.append_assoc, String.append_assoc]
    exact (hleft.append (spells_lineStart (level + 1))).append hmembers

end Spelling

end Json

end Restyle
