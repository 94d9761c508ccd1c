import Restyle.Text.Charset.Chinese
import Restyle.Text.Charset.Japanese
import Restyle.Text.Charset.Korean
import Restyle.Text.Charset.Pages.Iso8859

/-!
# Charsets with escape sequences

Octets below 80 stand for characters of the set that is in use. An escape sequence designates a set
of characters to one of three places: the first place is in use at the start, the second one after
the octet for shifting out, and the third one for a single character. Which sets can be designated
differs from charset to charset.

After an escape character that begins no such sequence, octets stand for themselves until a capital
letter or an at sign.
-/

namespace Restyle.Text.Charset

/-- A set of characters that can be in use. -/
inductive CodeSet
  | ascii
  | latin
  | greek
  | kana
  | roman
  | simplified
  | korean
  | kanji
  | moreKanji
  | firstKanji (edition : Edition)
  | secondKanji
  deriving DecidableEq, Repr

namespace CodeSet

/-- Whether a character takes two octets. -/
def isWide : CodeSet → Bool
  | ascii | latin | greek | kana | roman => false
  | _ => true

/-- The character of an octet. -/
def char? (s : CodeSet) (b : UInt8) : Option Char :=
  match s with
  | ascii => some (Char.ofNat b.toNat)
  | kana => Japanese.halfKana? (b + 0x80)
  | roman => Japanese.romanChar? b
  | _ => none

/-- The characters of a code of two octets. -/
def chars? (s : CodeSet) (code : Nat) : Option (List Char) :=
  let single (c : Option Char) : Option (List Char) := c.map fun ch => [ch]
  match s with
  | simplified => single (gb2312.char? code)
  | korean => single (ksx1001.char? code)
  | kanji => single (jis0208.char? code)
  | moreKanji => single (jis0212.char? code)
  | firstKanji edition => Japanese.first? edition code
  | secondKanji => single (jis0213Second.char? code)
  | _ => none

/-- The character of an octet after the sequence for a single character of the third place. -/
def singleShift? (s : CodeSet) (b : UInt8) : Option Char :=
  match s with
  | ascii => if b < 0x80 then some (Char.ofNat b.toNat) else none
  | latin => if b < 0x80 then some (Char.ofNat (b.toNat + 0x80)) else none
  | greek =>
    let n := (b + 0x80).toNat
    if n < 0xA0 then some (Char.ofNat n)
    else if n = 0xA4 ∨ n = 0xA5 ∨ n = 0xAA then none
    else (isoPart7.toList[n - 0xA0]?).filter (· ≠ replacement)
  | _ => none

end CodeSet

/-- What can be designated in a charset: the sets of single octets and of two octets by the last
octet of their sequences, whether it is shifted out, whether there is a third place, and whether a
revision may be announced before the set of kanji. -/
structure Designations where
  narrow : List (UInt8 × CodeSet)
  wide : List (UInt8 × CodeSet)
  shifts : Bool
  hasThird : Bool
  isRevised : Bool

namespace Designations

/-- The set of kanji, by two sequences. -/
def kanjiSets : List (UInt8 × CodeSet) :=
  [(0x42, .kanji), (0x40, .kanji)]

/-- The Korean charset. -/
def korean : Designations :=
  ⟨[], [(0x43, .korean)], true, false, false⟩

/-- The Japanese charset. -/
def japanese : Designations :=
  ⟨[(0x4A, .roman)], kanjiSets, false, false, true⟩

/-- The Japanese charset with supplementary kanji. -/
def japanese1 : Designations :=
  ⟨[(0x4A, .roman)], kanjiSets ++ [(0x44, .moreKanji)], false, false, true⟩

/-- The Japanese charset with sets of other languages. -/
def japanese2 : Designations :=
  ⟨[(0x4A, .roman), (0x41, .latin), (0x46, .greek)],
    kanjiSets ++ [(0x44, .moreKanji), (0x43, .korean), (0x41, .simplified)], false, true, true⟩

/-- The Japanese charset with the planes of an edition of JIS X 0213; each edition has an octet of
its own for the first plane. -/
def japanese3 (edition : Edition) : Designations :=
  let first : UInt8 := if edition = .of2004 then 0x51 else 0x4F
  ⟨[], [(0x42, .kanji), (first, .firstKanji edition), (0x50, .secondKanji)], false, false, true⟩

/-- The Japanese charset with katakana of half width. -/
def japaneseMore : Designations :=
  ⟨[(0x4A, .roman), (0x49, .kana)], kanjiSets ++ [(0x44, .moreKanji)], false, false, true⟩

/-- The set that a last octet designates. ASCII is in all charsets. -/
def set? (d : Designations) (isWide : Bool) (final : UInt8) : Option CodeSet :=
  if isWide then (d.wide.find? fun e => e.1 = final).map Prod.snd
  else if final = 0x42 then some .ascii
  else (d.narrow.find? fun e => e.1 = final).map Prod.snd

end Designations

/-- The sets at the three places, whether the second place is in use, and whether octets stand for
themselves. -/
structure Shift where
  first : CodeSet
  second : CodeSet
  third : CodeSet
  isOut : Bool
  isPlain : Bool
  deriving DecidableEq, Repr

namespace Shift

/-- The state at the start. -/
def initial : Shift :=
  ⟨.ascii, .ascii, .ascii, false, false⟩

/-- The set in use. -/
def inUse (s : Shift) : CodeSet :=
  if s.isOut then s.second else s.first

end Shift

/-- A place for a set. -/
inductive Place
  | first
  | second
  | third
  deriving DecidableEq, Repr

/-- The state with a set at a place. -/
def Shift.designate (s : Shift) (place : Place) (codes : CodeSet) : Shift :=
  match place with
  | .first => { s with first := codes }
  | .second => { s with second := codes }
  | .third => { s with third := codes }

namespace Designations

/-! ### Escape sequences -/

/-- Whether an octet ends an escape sequence. -/
def isFinal (b : UInt8) : Bool :=
  0x40 ≤ b && b ≤ 0x5A

/-- Where an escape sequence ends: after so many octets, beyond the octets at hand, or too far
away. -/
inductive SequenceEnd
  | after (count : Nat)
  | unseen
  | tooFar
  deriving DecidableEq, Repr

/-- The greatest number of octets after an escape character. -/
def sequenceLimit : Nat := 15

/-- The end of the escape sequence whose octets follow an escape character, from the given one on.
An announced revision is passed over together with the escape character after it. -/
def sequenceEnd (isRevised : Bool) (rest : Octets) (count : Nat) : SequenceEnd :=
  if sequenceLimit < count then .tooFar
  else
    match rest[count - 1]? with
    | none => .unseen
    | some b =>
      if isFinal b then .after count
      else if isRevised && b == 0x26 && rest[count]? == some 0x40 then
        sequenceEnd isRevised rest (count + 3)
      else sequenceEnd isRevised rest (count + 1)
termination_by sequenceLimit + 1 - count

/-- The place of a set, by the octet before its last one. -/
def place? (b : UInt8) : Option Place :=
  if b = 0x28 then some .first else if b = 0x29 then some .second else none

/-- What the octets of an escape sequence designate. -/
def designation? (d : Designations) (sequence : Octets) : Option (Place × CodeSet) :=
  match sequence with
  | [0x24, final] => (d.set? true final).map fun s => (.first, s)
  | [b, final] =>
    let place := if b = 0x2E && d.hasThird then some .third else place? b
    place.bind fun p => (d.set? false final).map fun s => (p, s)
  | [0x24, b, final] => (place? b).bind fun p => (d.set? true final).map fun s => (p, s)
  | [_, _, 0x1B, 0x24, 0x42] =>
    if d.isRevised then (d.set? true 0x42).map fun s => (.first, s) else none
  | _ => none

/-- Whether an octet after an escape character begins a sequence. -/
def beginsSequence (b : UInt8) : Bool :=
  b == 0x28 || b == 0x29 || b == 0x24 || b == 0x2E || b == 0x26

/-- A step at an escape character. -/
def escapeStep (d : Designations) (s : Shift) (rest : Octets) : Step × Shift :=
  match rest with
  | [] => (.incomplete, s)
  | b :: after =>
    if beginsSequence b then
      match sequenceEnd d.isRevised rest 1 with
      | .unseen => (.incomplete, s)
      | .tooFar => (.malformed 0, s)
      | .after count =>
        match d.designation? (rest.take count) with
        | some (place, codes) => (.chars [] count, s.designate place codes)
        | none => (.malformed count, s)
    else if d.hasThird && b == 0x4E then
      match after with
      | [] => (.incomplete, s)
      | c :: _ =>
        match s.third.singleShift? c with
        | some ch => (.chars [ch] 2, s)
        | none => (.malformed 2, s)
    else (.one '\x1b', { s with isPlain := true })

/-! ### Reading -/

/-- A step at an octet of the set in use. -/
def codeStep (s : Shift) (b : UInt8) (rest : Octets) : Step :=
  let codes := s.inUse
  if codes.isWide then
    match rest with
    | [] => .incomplete
    | c :: _ =>
      match codes.chars? (codeOf b c) with
      | some cs => .chars cs 1
      | none => .malformed 1
  else .ofChars? ((codes.char? b).map fun c => [c]) 0

/-- A step of a charset. A newline ends shifting out. -/
def step (d : Designations) (s : Shift) (b : UInt8) (rest : Octets) : Step × Shift :=
  if s.isPlain then (.ascii b, { s with isPlain := !isFinal b })
  else if b = 0x1B then d.escapeStep s rest
  else if b = 0x0F && d.shifts then (.chars [] 0, { s with isOut := false })
  else if b = 0x0E && d.shifts then (.chars [] 0, { s with isOut := true })
  else if b = 0x0A then (.ascii b, { s with isOut := false })
  else if b < 0x20 then (.ascii b, s)
  else if 0x80 ≤ b then (.malformed 0, s)
  else (codeStep s b rest, s)

/-- The reading of octets in a charset. -/
def read (d : Designations) : Octets → Reading :=
  readFrom d.step .initial

end Designations

end Restyle.Text.Charset
