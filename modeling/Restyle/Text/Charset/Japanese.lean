import Restyle.Text.Charset.Planes.Jis0208
import Restyle.Text.Charset.Planes.Jis0212
import Restyle.Text.Charset.Planes.Jis0213
import Restyle.Text.Charset.Planes.Page932
import Restyle.Text.Charset.Step

/-!
# Japanese charsets

Two families write the same planes: EUC sets the highest bits of both octets of a code, and Shift
JIS folds two rows of a plane into one. Both have katakana of half width, EUC after an octet of its
own. The charsets of JIS X 0213 have a second plane, and two editions that differ in few characters.
-/

namespace Restyle.Text.Charset

/-- An edition of JIS X 0213. -/
inductive Edition
  | of2000
  | of2004
  deriving DecidableEq, Repr

namespace Japanese

/-- A katakana of half width. -/
def halfKana? (b : UInt8) : Option Char :=
  if 0xA1 ≤ b ∧ b ≤ 0xDF then some (Char.ofNat (0xFEC0 + b.toNat)) else none

/-! ### Planes -/

/-- The character of JIS X 0208. -/
def basic? (code : Nat) : Option (List Char) :=
  (jis0208.char? code).map fun c => [c]

/-- The codes of the first plane that came with the edition of 2004. -/
def addedIn2004 : List Nat :=
  [0x2E21, 0x2F7E, 0x4F54, 0x4F7E, 0x7427, 0x7E7A, 0x7E7B, 0x7E7C, 0x7E7D, 0x7E7E]

/-- The characters of the first plane of JIS X 0213. -/
def first? (edition : Edition) (code : Nat) : Option (List Char) :=
  if edition = .of2000 && addedIn2004.contains code then none
  else
    match (jis0208.char? code).or (jis0213First.char? code) with
    | some c => some [c]
    | none => (jis0213Pairs.find? fun e => e.1 = code).map fun e => e.2.toList

/-- What is found at a code of the first plane of JIS X 0213. Both octets of a code that an edition
lacks, and the other one has, are malformed together. -/
def firstStep (edition : Edition) (code : Nat) : Step :=
  if edition = .of2000 && addedIn2004.contains code then .malformed 1
  else .ofChars? (first? edition code) 1

/-- The characters of the second plane of JIS X 0213. -/
def second? (edition : Edition) (code : Nat) : Option (List Char) :=
  if edition = .of2000 && code = 0x7D3B then some ['\u9b1d']
  else (jis0213Second.char? code).map fun c => [c]

/-! ### EUC -/

/-- A step of an EUC charset, given what is found at its codes and the plane of those after octet
8F. -/
def eucStep (found : Nat → Step) (supplement? : Nat → Option (List Char)) (b : UInt8)
    (rest : Octets) : Step :=
  if b < 0x80 then .ascii b
  else if b = 0x8E then .pair (fun _ c => (halfKana? c).map fun k => [k]) b rest
  else if b = 0x8F then
    match rest with
    | c :: d :: _ => .ofChars? ((lowCode? c d).bind supplement?) 2
    | _ => .incomplete
  else .atPair (fun b c => ((lowCode? b c).map found).getD (.malformed 0)) b rest

/-- EUC-JP. -/
def eucJp : Octets → Reading :=
  readSteps (eucStep (fun code => .ofChars? (basic? code) 1) fun code =>
    (jis0212.char? code).map fun c => [c])

/-- What is found at a code of EUC-JIS-2004, where the tilde is of full width. -/
def eucFirst (edition : Edition) (code : Nat) : Step :=
  if code = 0x2232 then .chars ['～'] 1 else firstStep edition code

/-- EUC-JIS-2004 and EUC-JISX0213. -/
def eucJis (edition : Edition) : Octets → Reading :=
  readSteps (eucStep (eucFirst edition) fun code =>
    (second? edition code).or ((jis0212.char? code).map fun c => [c]))

/-! ### Shift JIS -/

/-- The row and the column, both from zero, of a code of Shift JIS. -/
def unshift? (b c : UInt8) : Option (Nat × Nat) :=
  if (0x81 ≤ b ∧ b ≤ 0x9F ∨ 0xE0 ≤ b ∧ b ≤ 0xFC) ∧ 0x40 ≤ c ∧ c ≠ 0x7F ∧ c ≤ 0xFC then
    let lead := b.toNat - (if b < 0xE0 then 0x81 else 0xC1)
    let trail := c.toNat - (if c < 0x80 then 0x40 else 0x41)
    some (2 * lead + trail / 94, trail % 94)
  else none

/-- The code of seven bits at a row and a column. -/
def codeAt (row column : Nat) : Nat :=
  256 * (row + 0x21) + (column + 0x21)

/-- The code of seven bits of a code of Shift JIS in a single plane. -/
def shiftedCode? (b c : UInt8) : Option Nat :=
  (unshift? b c).bind fun (row, column) => if row < 94 then some (codeAt row column) else none

/-- A step of a charset with katakana of half width between characters of two octets. -/
def shiftStep (single? : UInt8 → Option Char) (atPair : UInt8 → UInt8 → Step)
    (b : UInt8) (rest : Octets) : Step :=
  match (single? b).or (halfKana? b) with
  | some c => .one c
  | none => .atPair atPair b rest

/-- A character in ASCII. -/
def asciiChar? (b : UInt8) : Option Char :=
  if b < 0x80 then some (Char.ofNat b.toNat) else none

/-- A character of the Japanese variant of ASCII, with a yen sign and an overline. -/
def romanChar? (b : UInt8) : Option Char :=
  if b = 0x5C then some '¥' else if b = 0x7E then some '‾' else asciiChar? b

/-- Shift JIS. -/
def shiftJis : Octets → Reading :=
  readSteps (shiftStep asciiChar? fun b c => .ofChars? ((shiftedCode? b c).bind basic?) 1)

/-- The single octets of code page 932: ASCII and five characters for private use. -/
def page932Single? (b : UInt8) : Option Char :=
  if b ≤ 0x80 then some (Char.ofNat b.toNat)
  else if b = 0xA0 then some '\uf8f0'
  else if 0xFD ≤ b then some (Char.ofNat (0xF8F1 + (b.toNat - 0xFD)))
  else none

/-- The characters for private use of code page 932. -/
def page932Private? (b c : UInt8) : Option Char :=
  if 0xF0 ≤ b ∧ b ≤ 0xF9 ∧ 0x40 ≤ c ∧ c ≠ 0x7F ∧ c ≤ 0xFC then
    some (Char.ofNat
      (0xE000 + 188 * (b.toNat - 0xF0) + (c.toNat - (if c < 0x80 then 0x40 else 0x41))))
  else none

/-- Code page 932. -/
def codePage932 : Octets → Reading :=
  readSteps (shiftStep page932Single? fun b c =>
    match (page932.char? (codeOf b c)).or (page932Private? b c) with
    | some ch => .chars [ch] 1
    | none => .ofChars? ((shiftedCode? b c).bind basic?) 1)

/-- The row of the second plane that is folded into a row beyond the first plane. -/
def secondRow (row : Nat) : Nat :=
  if 0x67 ≤ row then row + 7
  else if 0x63 ≤ row ∨ row = 0x5F then row - 0x37
  else row - 0x3D

/-- What is found at two octets of Shift JIS-2004, where the backslash is of half width. -/
def shiftPair (edition : Edition) (b c : UInt8) : Step :=
  match unshift? b c with
  | none => .malformed 0
  | some (row, column) =>
    if 94 ≤ row then .ofChars? (second? edition (256 * secondRow row + (column + 0x21))) 1
    else if codeAt row column = 0x2140 then .chars ['\\'] 1
    else firstStep edition (codeAt row column)

/-- Shift JIS-2004 and Shift JISX0213. -/
def shiftJis2004 (edition : Edition) : Octets → Reading :=
  readSteps (shiftStep romanChar? (shiftPair edition))

end Japanese

end Restyle.Text.Charset
