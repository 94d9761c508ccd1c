import Restyle.Text.Charset.Reading

/-!
# Encodings of Unicode

UTF-16 writes a character as one unit of two octets or as a pair of surrogates, UTF-32 as one unit
of four octets. UTF-7 writes ASCII as it is, and everything else as UTF-16 in digits to the base 64,
between a plus sign and a hyphen.
-/

namespace Restyle.Text.Charset

/-- The order of the octets of a unit. -/
inductive OctetOrder
  | littleFirst
  | bigFirst
  deriving DecidableEq, Repr

namespace Unicode

/-- The character of a code point; surrogates and numbers beyond Unicode have none. -/
def char? (n : Nat) : Option Glyph :=
  if n < 0xD800 ∨ 0xDFFF < n ∧ n ≤ 0x10FFFF then some (.char (Char.ofNat n)) else none

/-- The number that octets make. -/
def unitOf (order : OctetOrder) (octets : Octets) : Nat :=
  match order with
  | .littleFirst => octets.foldr (fun b n => b.toNat + 256 * n) 0
  | .bigFirst => octets.foldl (fun n b => 256 * n + b.toNat) 0

/-! ### UTF-16 -/

/-- The units of octets; an octet left over at the end makes none. -/
def units (order : OctetOrder) : Octets → List (Option Nat)
  | a :: b :: rest => some (unitOf order [a, b]) :: units order rest
  | [_] => [none]
  | [] => []

/-- Whether a unit begins a pair of surrogates. -/
def isHighSurrogate (unit : Nat) : Bool :=
  0xD800 ≤ unit && unit < 0xDC00

/-- Whether a unit ends a pair of surrogates. -/
def isLowSurrogate (unit : Nat) : Bool :=
  0xDC00 ≤ unit && unit < 0xE000

/-- The character of a pair of surrogates. -/
def joinSurrogates (high low : Nat) : Glyph :=
  .char (Char.ofNat (0x10000 + (high - 0xD800) * 0x400 + (low - 0xDC00)))

/-- The reading of units. An unpaired surrogate is malformed, and so is an incomplete end, together
with the first half of a pair before it. -/
def pairUnits : List (Option Nat) → Reading
  | some u :: some v :: rest =>
    if isHighSurrogate u && isLowSurrogate v then some (joinSurrogates u v) :: pairUnits rest
    else char? u :: pairUnits (some v :: rest)
  | [some u, none] => if isHighSurrogate u then [none] else [char? u, none]
  | some u :: rest => char? u :: pairUnits rest
  | none :: rest => none :: pairUnits rest
  | [] => []

/-- The reading of UTF-16. -/
def readUtf16 (order : OctetOrder) (bytes : Octets) : Reading :=
  pairUnits (units order bytes)

/-- UTF-16 that begins with a mark: the reading of what follows the mark. Two octets or more without
a mark give none. -/
def readMarkedUtf16? (bytes : Octets) : Option Reading :=
  match bytes with
  | 0xFF :: 0xFE :: rest => some (readUtf16 .littleFirst rest)
  | 0xFE :: 0xFF :: rest => some (readUtf16 .bigFirst rest)
  | _ :: _ :: _ => none
  | short => some (readUtf16 .littleFirst short)

/-! ### UTF-32 -/

/-- The reading of UTF-32; fewer than four octets at the end are malformed. -/
def readUtf32 (order : OctetOrder) : Octets → Reading
  | a :: b :: c :: d :: rest => char? (unitOf order [a, b, c, d]) :: readUtf32 order rest
  | [] => []
  | _ => [none]

/-- UTF-32 that begins with a mark: the reading of what follows the mark. Four octets or more
without a mark give none. -/
def readMarkedUtf32? (bytes : Octets) : Option Reading :=
  match bytes with
  | 0xFF :: 0xFE :: 0 :: 0 :: rest => some (readUtf32 .littleFirst rest)
  | 0 :: 0 :: 0xFE :: 0xFF :: rest => some (readUtf32 .bigFirst rest)
  | _ :: _ :: _ :: _ :: _ => none
  | short => some (readUtf32 .littleFirst short)

/-! ### UTF-8 with a mark -/

/-- The mark at the start of UTF-8 text. -/
def utf8Mark : Octets := [0xEF, 0xBB, 0xBF]

/-- Octets without the mark at their start; an incomplete mark alone is dropped as well. -/
def withoutMark (bytes : Octets) : Octets :=
  if utf8Mark.isPrefixOf bytes || bytes.isPrefixOf utf8Mark then bytes.drop 3 else bytes

/-- The reading of UTF-8. -/
def readUtf8 (bytes : Octets) : Reading :=
  (decode bytes).map fun
    | .char c => some (.char c)
    | .malformed _ => none

/-! ### UTF-7 -/

/-- What is under way in UTF-7: characters that stand for themselves, a section that has just been
opened, or a section with bits and perhaps a first surrogate. -/
inductive Section
  | plain
  | opened
  | coded (bits count : Nat) (high : Option Nat)
  deriving DecidableEq, Repr

namespace Section

/-- The value of a digit to the base 64. -/
def digit? (b : UInt8) : Option Nat :=
  if 0x41 ≤ b ∧ b ≤ 0x5A then some (b.toNat - 0x41)
  else if 0x61 ≤ b ∧ b ≤ 0x7A then some (b.toNat - 0x61 + 26)
  else if 0x30 ≤ b ∧ b ≤ 0x39 then some (b.toNat - 0x30 + 52)
  else if b = 0x2B then some 62
  else if b = 0x2F then some 63
  else none

/-- A unit of a section: what it completes, and the first surrogate that then waits. A surrogate that
stays alone is read as it is. -/
def takeUnit (high : Option Nat) (unit : Nat) : Reading × Option Nat :=
  let alone : Reading × Option Nat :=
    if isHighSurrogate unit then ([], some unit) else ([Glyph.ofCodePoint? unit], none)
  match high with
  | none => alone
  | some h =>
    if isLowSurrogate unit then ([some (joinSurrogates h unit)], none)
    else (Glyph.ofCodePoint? h :: alone.1, alone.2)

/-- A digit of a section. -/
def takeDigit (bits count : Nat) (high : Option Nat) (digit : Nat) : Reading × Section :=
  let bits := bits * 64 + digit
  let count := count + 6
  if count < 16 then ([], coded bits count high)
  else
    let left := count - 16
    let (reading, high) := takeUnit high (bits / Nat.pow 2 left)
    (reading, coded (bits % Nat.pow 2 left) left high)

/-- An octet outside of sections. -/
def takePlain (b : UInt8) : Reading × Section :=
  if b = 0x2B then ([], opened)
  else if b < 0x80 then ([some (.char (Char.ofNat b.toNat))], plain)
  else ([none], plain)

/-- One octet more. A section ends at an octet that is no digit; bits left over have to be fewer
than six and zero. -/
def take (s : Section) (b : UInt8) : Reading × Section :=
  match s with
  | plain => takePlain b
  | opened =>
    match digit? b with
    | some d => takeDigit 0 0 none d
    | none => if b = 0x2D then ([some (.char '+')], plain) else ([none], plain)
  | coded bits count high =>
    match digit? b with
    | some d => takeDigit bits count high d
    | none =>
      if 6 ≤ count ∨ bits ≠ 0 then ([none], plain)
      else
        let lone : Reading := if b < 0x80 then (high.map Glyph.ofCodePoint?).toList else []
        if b = 0x2D then (lone, plain)
        else
          let (reading, next) := takePlain b
          (lone ++ reading, next)

/-- What is malformed at the end of the text. -/
def finish : Section → Reading
  | coded bits count high => if high.isSome || 6 ≤ count || bits ≠ 0 then [none] else []
  | _ => []

end Section

/-- The reading of UTF-7 that follows what is under way. -/
def readUtf7From (s : Section) : Octets → Reading
  | [] => s.finish
  | b :: rest =>
    let (reading, next) := s.take b
    reading ++ readUtf7From next rest

/-- The reading of UTF-7. -/
def readUtf7 : Octets → Reading :=
  readUtf7From .plain

end Unicode

end Restyle.Text.Charset
