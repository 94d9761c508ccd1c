/-!
# Blanks, comments, keys and texts of TOML

The small parts of a TOML document. Each reader takes one from the front of a list of characters and
gives it together with what follows; it fails where nothing well-formed begins.

Control characters other than the tab have no place in comments and texts, and a newline only in a
text between triple quotes.
-/

namespace Restyle.Toml

/-- Whether a character is a blank inside a line. -/
def isBlank (c : Char) : Bool :=
  c == ' ' || c == '\t'

/-- Whether a character is a blank or ends a line. -/
def isGap (c : Char) : Bool :=
  isBlank c || c == '\n'

/-- Whether a character has no place in comments and texts. -/
def isControl (c : Char) : Bool :=
  (c.toNat < 0x20 && c != '\t') || c.toNat == 0x7F

/-- What follows the blanks of a line. -/
def skipBlanks (cs : List Char) : List Char :=
  cs.dropWhile isBlank

/-- What follows blanks, newlines and comments. -/
def skipGaps (inComment : Bool) : List Char → Option (List Char)
  | [] => some []
  | c :: rest =>
    if c == '\n' then skipGaps false rest
    else if inComment then (if isControl c then none else skipGaps true rest)
    else if isBlank c then skipGaps false rest
    else if c == '#' then skipGaps true rest
    else some (c :: rest)

/-- What follows a comment, if there is one: the end of its line. -/
def skipComment : List Char → Option (List Char)
  | '#' :: rest =>
    if (rest.takeWhile (· != '\n')).any isControl then none
    else some (rest.dropWhile (· != '\n'))
  | cs => some cs

/-! ### Escapes -/

/-- The value of a hexadecimal digit. -/
def hexDigit? (c : Char) : Option Nat :=
  if c.isDigit then some (c.toNat - 48)
  else if 'a' ≤ c ∧ c ≤ 'f' then some (c.toNat - 87)
  else if 'A' ≤ c ∧ c ≤ 'F' then some (c.toNat - 55)
  else none

/-- The value of hexadecimal digits. -/
def hexValue? (digits : List Char) : Option Nat :=
  digits.foldlM (fun n c => (hexDigit? c).map (n * 16 + ·)) 0

/-- The character of a code point, which may not be a surrogate. -/
def scalar? (n : Nat) : Option Char :=
  if n.isValidChar then some (Char.ofNat n) else none

/-- A character given by so many hexadecimal digits. -/
def hexEscape (width : Nat) (cs : List Char) : Option (List Char × List Char) :=
  if cs.length < width then none
  else
    match (hexValue? (cs.take width)).bind scalar? with
    | some c => some ([c], cs.drop width)
    | none => none

/-- The character of an escape of one letter. -/
def shortEscape? : Char → Option Char
  | 'b' => some (Char.ofNat 8)
  | 't' => some '\t'
  | 'n' => some '\n'
  | 'f' => some (Char.ofNat 12)
  | 'r' => some '\r'
  | 'e' => some (Char.ofNat 27)
  | '"' => some '"'
  | '\\' => some '\\'
  | _ => none

/-- What a backslash and the characters after it stand for. In a text of several lines, a backslash
at the end of a line takes the blanks and newlines after it away. -/
def escape (multiline : Bool) (cs : List Char) : Option (List Char × List Char) :=
  match cs with
  | [] => none
  | c :: rest =>
    if multiline && isGap c then
      match skipBlanks cs with
      | '\n' :: more => some ([], more.dropWhile isGap)
      | _ => none
    else if c == 'x' then hexEscape 2 rest
    else if c == 'u' then hexEscape 4 rest
    else if c == 'U' then hexEscape 8 rest
    else (shortEscape? c).map fun d => ([d], rest)

theorem length_of_hexEscape {width : Nat} {cs found rest : List Char}
    (h : hexEscape width cs = some (found, rest)) : rest.length ≤ cs.length := by
  unfold hexEscape at h
  split at h
  · cases h
  · split at h
    · simp only [Option.some.injEq, Prod.mk.injEq] at h
      rw [← h.2, List.length_drop]
      omega
    · cases h

theorem length_of_escape {multiline : Bool} {cs found rest : List Char}
    (h : escape multiline cs = some (found, rest)) : rest.length ≤ cs.length := by
  unfold escape at h
  split at h
  · cases h
  · rename_i c more
    split at h
    · -- a line that goes on: blanks, a newline and the gaps after it
      split at h
      · rename_i tail eq
        simp only [Option.some.injEq, Prod.mk.injEq] at h
        have h₁ := (List.dropWhile_sublist isGap (l := tail)).length_le
        have h₂ := (List.dropWhile_sublist isBlank (l := c :: more)).length_le
        rw [skipBlanks] at eq
        rw [eq, List.length_cons] at h₂
        rw [← h.2]
        omega
      · cases h
    · rw [List.length_cons]
      split at h
      · exact Nat.le_succ_of_le (length_of_hexEscape h)
      · split at h
        · exact Nat.le_succ_of_le (length_of_hexEscape h)
        · split at h
          · exact Nat.le_succ_of_le (length_of_hexEscape h)
          · -- an escape of one letter
            obtain ⟨d, _, h⟩ := Option.map_eq_some_iff.1 h
            simp only [Prod.mk.injEq] at h
            rw [← h.2]
            omega

/-! ### Texts -/

/-- Puts characters in front of what was read. -/
def prepend (front : List Char) (r : Option (List Char × List Char)) :
    Option (List Char × List Char) :=
  r.map fun (text, rest) => (front ++ text, rest)

/-- What follows two quotes. -/
def twoQuotes? (quote : Char) : List Char → Option (List Char)
  | c :: d :: rest => if c == quote && d == quote then some rest else none
  | _ => none

/-- A text with escapes, up to the quotes that close it. -/
def basicText (multiline : Bool) (cs : List Char) : Option (List Char × List Char) :=
  match cs with
  | [] => none
  | c :: rest =>
    if c == '"' then
      if !multiline then some ([], rest)
      else
        match twoQuotes? '"' rest with
        | some more => some ([], more)
        | none => prepend ['"'] (basicText multiline rest)
    else if c == '\\' then
      match _h : escape multiline rest with
      | some (front, more) => prepend front (basicText multiline more)
      | none => none
    else if isControl c && !(multiline && c == '\n') then none
    else prepend [c] (basicText multiline rest)
termination_by cs.length
decreasing_by
  · exact Nat.lt_succ_self _
  · exact Nat.lt_succ_of_le (length_of_escape _h)
  · exact Nat.lt_succ_self _

/-- A text without escapes, up to the quotes that close it. -/
def literalText (multiline : Bool) : List Char → Option (List Char × List Char)
  | [] => none
  | c :: rest =>
    if c == '\x27' then
      if !multiline then some ([], rest)
      else
        match twoQuotes? '\x27' rest with
        | some more => some ([], more)
        | none => prepend ['\x27'] (literalText multiline rest)
    else if isControl c && !(multiline && c == '\n') then none
    else prepend [c] (literalText multiline rest)

/-- Up to two quotes more that belong to a text between triple quotes. -/
def extraQuotes (quote : Char) (text : List Char) (cs : List Char) : List Char × List Char :=
  let extra := (cs.take 2).takeWhile (· == quote)
  (text ++ extra, cs.drop extra.length)

/-- A text between triple quotes. A newline right after the first of them does not count. -/
def multilineText (quote : Char) (cs : List Char) : Option (List Char × List Char) :=
  let body := match cs with
    | '\n' :: rest => rest
    | _ => cs
  let read := if quote == '"' then basicText true body else literalText true body
  read.map fun (text, rest) => extraQuotes quote text rest

/-- A text between single quotes of either kind. -/
def lineText : List Char → Option (List Char × List Char)
  | '"' :: rest => basicText false rest
  | '\x27' :: rest => literalText false rest
  | _ => none

/-- A text of any kind. -/
def anyText : List Char → Option (List Char × List Char)
  | '"' :: '"' :: '"' :: rest => multilineText '"' rest
  | '\x27' :: '\x27' :: '\x27' :: rest => multilineText '\x27' rest
  | cs => lineText cs

/-! ### Keys -/

/-- Whether a character can stand in a key without quotes. -/
def isBareKeyChar (c : Char) : Bool :=
  c.isAlphanum || c == '-' || c == '_'

/-- One part of a key. -/
def keyPart (cs : List Char) : Option (String × List Char) :=
  match cs.takeWhile isBareKeyChar with
  | [] => (lineText cs).map fun (text, rest) => (String.ofList text, rest)
  | name => some (String.ofList name, cs.dropWhile isBareKeyChar)

/-- The parts of a key after the first one, with so many parts to go at most. -/
def moreKeyParts (parts : List String) : Nat → List Char → Option (List String × List Char)
  | 0, _ => none
  | left + 1, cs =>
    match skipBlanks cs with
    | '.' :: rest =>
      match keyPart (skipBlanks rest) with
      | some (part, rest) => moreKeyParts (parts ++ [part]) left rest
      | none => none
    | rest => some (parts, rest)

/-- A key: parts with dots between them. -/
def key (cs : List Char) : Option (List String × List Char) :=
  match keyPart cs with
  | some (part, rest) => moreKeyParts [part] (cs.length + 1) rest
  | none => none

end Restyle.Toml
