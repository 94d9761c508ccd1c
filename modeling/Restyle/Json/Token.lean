import Restyle.Toml.Text
import Restyle.Value

/-!
# Pieces of JSON text

`tokens` cuts a JSON text into its marks, texts and scalars; blanks and line ends between them do not
count. A text is closed by its quote and holds no control characters. Of what it escapes by UTF-16 units,
a high surrogate with a low one right after it is a character, and any other surrogate stands alone.

A scalar is a literal or a number. A number is an integer unless it has a fraction or an exponent, and
its whole part has no zeros in front.
-/

namespace Restyle.Json

open Number Text

/-- A piece of a JSON text. -/
inductive Token
  | listStart
  | listEnd
  | tableStart
  | tableEnd
  | comma
  | colon
  | text (s : List Glyph)
  | scalar (v : Value (List Glyph))
  deriving Inhabited

/-! ### Texts -/

/-- The UTF-16 unit of four hexadecimal digits. -/
def unit? (cs : List Char) : Option (Nat × List Char) :=
  if cs.length < 4 then none
  else (Toml.hexValue? (cs.take 4)).map fun unit => (unit, cs.drop 4)

/-- The low surrogate that is escaped here. -/
def lowUnit? : List Char → Option (Nat × List Char)
  | '\\' :: 'u' :: rest =>
    (unit? rest).filter fun (unit, _) => 0xDC00 ≤ unit && unit < 0xE000
  | _ => none

/-- The glyph of one UTF-16 unit, or the character of two surrogates. -/
def unitsGlyph? (cs : List Char) : Option (Glyph × List Char) :=
  match unit? cs with
  | none => none
  | some (unit, rest) =>
    if 0xD800 ≤ unit ∧ unit < 0xDC00 then
      match lowUnit? rest with
      | none => (Glyph.ofCodePoint? unit).map fun g => (g, rest)
      | some (low, rest) =>
        (Glyph.ofCodePoint? (0x10000 + (unit - 0xD800) * 0x400 + (low - 0xDC00))).map fun g =>
          (g, rest)
    else (Glyph.ofCodePoint? unit).map fun g => (g, rest)

/-- The character of an escape of one letter. -/
def letterEscape? : Char → Option Char
  | '"' => some '"'
  | '\\' => some '\\'
  | '/' => some '/'
  | 'b' => some (Char.ofNat 8)
  | 'f' => some (Char.ofNat 12)
  | 'n' => some '\n'
  | 'r' => some '\r'
  | 't' => some '\t'
  | _ => none

/-- The glyph that stands behind a backslash. -/
def escaped? : List Char → Option (Glyph × List Char)
  | [] => none
  | c :: rest =>
    if c = 'u' then unitsGlyph? rest else (letterEscape? c).map fun d => (.char d, rest)

theorem length_of_unit? {cs rest : List Char} {unit : Nat} (h : unit? cs = some (unit, rest)) :
    rest.length ≤ cs.length := by
  unfold unit? at h
  split at h
  · cases h
  · obtain ⟨n, -, hn⟩ := Option.map_eq_some_iff.1 h
    simp only [Prod.mk.injEq] at hn
    rw [← hn.2, List.length_drop]
    omega

theorem length_of_lowUnit? {cs rest : List Char} {low : Nat} (h : lowUnit? cs = some (low, rest)) :
    rest.length ≤ cs.length := by
  unfold lowUnit? at h
  split at h
  · have hrest := length_of_unit? (Option.filter_eq_some_iff.1 h).1
    simp only [List.length_cons]
    omega
  · cases h

theorem length_of_unitsGlyph? {cs rest : List Char} {g : Glyph}
    (h : unitsGlyph? cs = some (g, rest)) : rest.length ≤ cs.length := by
  unfold unitsGlyph? at h
  split at h
  · cases h
  · rename_i unit more hunit
    have hmore := length_of_unit? hunit
    split at h
    · split at h
      · obtain ⟨d, -, hd⟩ := Option.map_eq_some_iff.1 h
        simp only [Prod.mk.injEq] at hd
        rw [← hd.2]
        exact hmore
      · rename_i low after hlow
        have hafter := length_of_lowUnit? hlow
        obtain ⟨d, -, hd⟩ := Option.map_eq_some_iff.1 h
        simp only [Prod.mk.injEq] at hd
        rw [← hd.2]
        omega
    · obtain ⟨d, -, hd⟩ := Option.map_eq_some_iff.1 h
      simp only [Prod.mk.injEq] at hd
      rw [← hd.2]
      exact hmore

theorem length_of_escaped? {cs rest : List Char} {g : Glyph} (h : escaped? cs = some (g, rest)) :
    rest.length < cs.length := by
  cases cs with
  | nil => cases h
  | cons d cs =>
    rw [escaped?] at h
    rw [List.length_cons]
    split at h
    · exact Nat.lt_succ_of_le (length_of_unitsGlyph? h)
    · obtain ⟨e, -, he⟩ := Option.map_eq_some_iff.1 h
      simp only [Prod.mk.injEq] at he
      rw [← he.2]
      exact Nat.lt_succ_self _

/-- A glyph in front of what was read. -/
def withGlyph (g : Glyph) (r : Option (List Glyph × List Char)) : Option (List Glyph × List Char) :=
  r.map fun (text, rest) => (g :: text, rest)

/-- The glyphs of a text, up to the quote that closes it. -/
def textBody (cs : List Char) : Option (List Glyph × List Char) :=
  match cs with
  | [] => none
  | c :: rest =>
    if c = '"' then some ([], rest)
    else if c = '\\' then
      match _h : escaped? rest with
      | some (g, more) => withGlyph g (textBody more)
      | none => none
    else if c.toNat < 0x20 then none
    else withGlyph (.char c) (textBody rest)
termination_by cs.length
decreasing_by
  · exact Nat.lt_succ_of_lt (length_of_escaped? _h)
  · exact Nat.lt_succ_self _

theorem length_of_textBody {cs rest : List Char} {text : List Glyph}
    (h : textBody cs = some (text, rest)) : rest.length < cs.length := by
  fun_induction textBody cs generalizing text with
  | case1 => cases h
  | case2 more =>
    simp only [Option.some.injEq, Prod.mk.injEq] at h
    rw [← h.2]
    exact Nat.lt_succ_self _
  | case3 more d after hescaped _ ih =>
    obtain ⟨⟨text', rest'⟩, hbody, heq⟩ := Option.map_eq_some_iff.1 h
    simp only [Prod.mk.injEq] at heq
    have hrest := ih (heq.2 ▸ hbody)
    have hafter := length_of_escaped? hescaped
    rw [List.length_cons]
    omega
  | case4 => cases h
  | case5 => cases h
  | case6 c more _ _ _ ih =>
    obtain ⟨⟨text', rest'⟩, hbody, heq⟩ := Option.map_eq_some_iff.1 h
    simp only [Prod.mk.injEq] at heq
    exact Nat.lt_succ_of_lt (ih (heq.2 ▸ hbody))

/-! ### Scalars -/

/-- The value of decimal digits. -/
def digitsValue (digits : List Char) : Nat :=
  Nat.ofDigitChars 10 digits 0

/-- The digits of a fraction and what follows it, if it is well-formed; none without a point. -/
def fraction? : List Char → Option (List Char × List Char)
  | '.' :: rest =>
    match rest.takeWhile Char.isDigit with
    | [] => none
    | digits => some (digits, rest.dropWhile Char.isDigit)
  | cs => some ([], cs)

/-- The power of ten that an exponent stands for; nothing may follow its digits. -/
def exponent? : List Char → Option Int
  | [] => some 0
  | c :: rest =>
    let (negative, digits) := match rest with
      | '-' :: digits => (true, digits)
      | '+' :: digits => (false, digits)
      | digits => (false, digits)
    if (c = 'e' ∨ c = 'E') ∧ digits ≠ [] ∧ digits.all Char.isDigit then
      let size : Int := digitsValue digits
      some (if negative then -size else size)
    else none

/-- A number without its sign. -/
def unsigned? (negative : Bool) (cs : List Char) : Option (Value (List Glyph)) :=
  let whole := cs.takeWhile Char.isDigit
  let rest := cs.dropWhile Char.isDigit
  if whole = [] ∨ (whole.head? = some '0' ∧ whole ≠ ['0']) then none
  else if rest = [] then
    let size : Int := digitsValue whole
    some (.int (if negative then -size else size))
  else do
    let (digits, rest) ← fraction? rest
    let power ← exponent? rest
    return .real (.ofDecimal negative (digitsValue (whole ++ digits)) (power - digits.length))

/-- A number. -/
def number? : List Char → Option (Value (List Glyph))
  | '-' :: rest => unsigned? true rest
  | cs => unsigned? false cs

/-- A literal or a number. -/
def scalar? (word : List Char) : Option (Value (List Glyph)) :=
  if word = ['n', 'u', 'l', 'l'] then some .null
  else if word = ['t', 'r', 'u', 'e'] then some (.bool true)
  else if word = ['f', 'a', 'l', 's', 'e'] then some (.bool false)
  else number? word

/-! ### The pieces of a text -/

/-- Whether a character may stand between tokens. -/
def isGap (c : Char) : Bool :=
  c == ' ' || c == '\t' || c == '\n' || c == '\r'

/-- Whether a character can stand in a literal or a number. -/
def isWordChar (c : Char) : Bool :=
  c.isAlphanum || c == '+' || c == '-' || c == '.'

/-- The mark that a character is. -/
def mark? : Char → Option Token
  | '[' => some .listStart
  | ']' => some .listEnd
  | '\x7b' => some .tableStart
  | '\x7d' => some .tableEnd
  | ',' => some .comma
  | ':' => some .colon
  | _ => none

/-- The tokens of a text. -/
def tokens (cs : List Char) : Option (List Token) :=
  match cs with
  | [] => some []
  | c :: rest =>
    if isGap c then tokens rest
    else
      match mark? c with
      | some mark => (tokens rest).map (mark :: ·)
      | none =>
        if c = '"' then
          match _h : textBody rest with
          | some (text, more) => (tokens more).map (.text text :: ·)
          | none => none
        else if isWordChar c then
          match scalar? (c :: rest.takeWhile isWordChar) with
          | some v => (tokens (rest.dropWhile isWordChar)).map (.scalar v :: ·)
          | none => none
        else none
termination_by cs.length
decreasing_by
  · exact Nat.lt_succ_self _
  · exact Nat.lt_succ_self _
  · exact Nat.lt_succ_of_lt (length_of_textBody _h)
  · exact Nat.lt_succ_of_le (List.dropWhile_sublist _).length_le

end Restyle.Json
