import Restyle.Text.Charset.Planes.Ksx1001
import Restyle.Text.Charset.Step

/-!
# Korean charsets

EUC-KR writes KS X 1001 with the highest bits set, and syllables that are not in it by their
letters. Code page 949 gives codes to these syllables in their order, and Johab writes every
syllable by the numbers of its letters.
-/

namespace Restyle.Text.Charset.Korean

/-! ### Syllables -/

/-- The letters that a syllable can begin with, in order. -/
def leads : List Char := "ㄱㄲㄴㄷㄸㄹㅁㅂㅃㅅㅆㅇㅈㅉㅊㅋㅌㅍㅎ".toList

/-- The vowels of syllables, in order. -/
def vowels : List Char := "ㅏㅐㅑㅒㅓㅔㅕㅖㅗㅘㅙㅚㅛㅜㅝㅞㅟㅠㅡㅢㅣ".toList

/-- The letters that a syllable can end with, in order. -/
def tails : List Char := "ㄱㄲㄳㄴㄵㄶㄷㄹㄺㄻㄼㄽㄾㄿㅀㅁㅂㅄㅅㅆㅇㅈㅊㅋㅌㅍㅎ".toList

/-- The syllable of a first letter, a vowel and a last letter; the number of no last letter is
zero. -/
def syllable (lead vowel tail : Nat) : Char :=
  Char.ofNat (0xAC00 + 588 * lead + 28 * vowel + tail)

/-- The first of all syllables. -/
def firstSyllable : Nat := 0xAC00

/-- The number of syllables. -/
def syllableCount : Nat := 11172

/-- The syllables from a code point on that are not among those given, which are in order. -/
def otherSyllables : Nat → Nat → List Nat → List Nat
  | 0, _, _ => []
  | count + 1, point, [] => point :: otherSyllables count (point + 1) []
  | count + 1, point, taken :: rest =>
    if point = taken then otherSyllables count (point + 1) rest
    else point :: otherSyllables count (point + 1) (taken :: rest)

/-- The syllables of KS X 1001, which are in the order of Unicode there. -/
def planeSyllables : List Nat :=
  (ksx1001.chars.toList.map Char.toNat).filter fun n =>
    firstSyllable ≤ n && n < firstSyllable + syllableCount

/-- The syllables that KS X 1001 lacks, in order. -/
def missingSyllables : Array Nat :=
  (otherSyllables syllableCount firstSyllable planeSyllables).toArray

/-! ### EUC-KR and code page 949 -/

/-- A character of KS X 1001. -/
def planePair? (b c : UInt8) : Option Char :=
  (lowCode? b c).bind ksx1001.char?

/-- The octet before each letter of a syllable that is written by its letters. -/
def letterMark : UInt8 := 0xA4

/-- The octet for no letter. -/
def noLetter : UInt8 := 0xD4

/-- A syllable by its letters, each one after the mark. -/
def spelled? : Octets → Option Char
  | [m, lead, n, vowel, o, tail] =>
    if m = letterMark ∧ n = letterMark ∧ o = letterMark then do
      let letter? (b : UInt8) : Option Char := planePair? letterMark b
      let first ← (letter? lead).bind leads.idxOf?
      let middle ← (letter? vowel).bind vowels.idxOf?
      let last ← if tail = noLetter then some 0
        else ((letter? tail).bind tails.idxOf?).map (· + 1)
      return syllable first middle last
    else none
  | _ => none

/-- A step of EUC-KR. -/
def eucStep (b : UInt8) (rest : Octets) : Step :=
  if b < 0x80 then .ascii b
  else if b = letterMark ∧ rest.head? = some noLetter then
    let letters := (rest.drop 1).take 6
    if letters.length < 6 then .incomplete
    else .ofChars? ((spelled? letters).map fun c => [c]) 7
  else .pair (fun b c => (planePair? b c).map fun ch => [ch]) b rest

/-- EUC-KR. -/
def readEuc : Octets → Reading :=
  readSteps eucStep

/-- The number of the second octet of a code for a missing syllable: letters come before the octets
from 81 on. -/
def trailNumber? (c : UInt8) : Option Nat :=
  if 0x41 ≤ c ∧ c ≤ 0x5A then some (c.toNat - 0x41)
  else if 0x61 ≤ c ∧ c ≤ 0x7A then some (c.toNat - 0x61 + 26)
  else if 0x81 ≤ c ∧ c ≤ 0xFE then some (c.toNat - 0x81 + 52)
  else none

/-- A syllable that KS X 1001 lacks, by its code in code page 949. The rows from A1 on are shorter,
as the other octets belong to KS X 1001. -/
def missing? (b c : UInt8) : Option Char :=
  (trailNumber? c).bind fun trail =>
    let number :=
      if 0x81 ≤ b ∧ b ≤ 0xA0 then some (178 * (b.toNat - 0x81) + trail)
      else if 0xA1 ≤ b ∧ b ≤ 0xC6 ∧ trail < 84 then some (5696 + 84 * (b.toNat - 0xA1) + trail)
      else none
    (number.bind fun n => missingSyllables[n]?).map Char.ofNat

/-- Code page 949. -/
def codePage949 : Octets → Reading :=
  readSteps fun b rest =>
    if b < 0x80 then .ascii b
    else .pair (fun b c => ((planePair? b c).or (missing? b c)).map fun ch => [ch]) b rest

/-! ### Johab -/

/-- A letter by its number in a code of Johab, where one number stands for no letter. -/
inductive Letter
  | none
  | letter (index : Nat)
  deriving DecidableEq, Repr

/-- The first letter of a number. -/
def lead? (n : Nat) : Option Letter :=
  if n = 1 then some .none else if 2 ≤ n ∧ n ≤ 20 then some (.letter (n - 2)) else Option.none

/-- The vowel of a number. Numbers are given out in groups of six. -/
def vowel? (n : Nat) : Option Letter :=
  if n = 2 then some .none
  else if 3 ≤ n ∧ n ≤ 29 ∧ 2 ≤ n % 8 then
    some (.letter (n - 3 - 2 * (n / 8)))
  else Option.none

/-- The last letter of a number. -/
def tail? (n : Nat) : Option Letter :=
  if n = 1 then some .none
  else if 2 ≤ n ∧ n ≤ 17 then some (.letter (n - 1))
  else if 19 ≤ n ∧ n ≤ 29 then some (.letter (n - 2))
  else Option.none

/-- What is written by three letters: a syllable, a single letter, or a blank. -/
def combined? : Letter → Letter → Letter → Option Char
  | .none, .none, .none => some '\u3000'
  | .letter lead, .none, .none => leads[lead]?
  | .none, .letter vowel, .none => vowels[vowel]?
  | .none, .none, .letter tail => tails[tail - 1]?
  | .letter lead, .letter vowel, .none => some (syllable lead vowel 0)
  | .letter lead, .letter vowel, .letter tail => some (syllable lead vowel tail)
  | _, _, _ => Option.none

/-- A syllable of Johab: one bit is set, and three letters have five bits each. -/
def johabSyllable? (b c : UInt8) : Option Char := do
  let code := codeOf b c
  let lead ← lead? (code / 1024 % 32)
  let vowel ← vowel? (code / 32 % 32)
  let tail ← tail? (code % 32)
  combined? lead vowel tail

/-- A character of KS X 1001 in Johab, which folds two rows into one. -/
def johabPlane? (b c : UInt8) : Option Char :=
  if b = 0xDF ∨ 0xF9 < b ∨ b < 0xD9 ∨ c < 0x31 ∨ (0x80 ≤ c ∧ c < 0x91) ∨ c = 0x7F ∨ c = 0xFF ∨
      (b = 0xDA ∧ 0xA1 ≤ c ∧ c ≤ 0xD3) then Option.none
  else
    let lead := if b < 0xE0 then 2 * (b.toNat - 0xD9) else 2 * b.toNat - 0x197
    let trail := c.toNat - (if c < 0x91 then 0x31 else 0x43)
    ksx1001.char? (256 * (lead + trail / 94 + 0x21) + (trail % 94 + 0x21))

/-- Johab. -/
def readJohab : Octets → Reading :=
  readSteps fun b rest =>
    if b < 0x80 then .ascii b
    else
      .pair (fun b c =>
        (if b < 0xD8 then johabSyllable? b c else johabPlane? b c).map fun ch => [ch]) b rest

end Restyle.Text.Charset.Korean
