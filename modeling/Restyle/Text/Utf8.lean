/-!
# UTF-8

`decode` reads a list of octets as a list of pieces: characters, and the maximal runs that start
an encoding without finishing one. The machine behind it looks at one octet at a time; an octet
that cannot continue the encoding under way ends it as malformed and is then looked at afresh.

Two texts are read off the pieces:

* `decodeStrict` is the text only if nothing is malformed;
* `decodeReplacing` puts one U+FFFD in the place of each malformed run.
-/

namespace Restyle.Text

/-- The raw content of a file or of a response. -/
abbrev Octets := List UInt8

/-- The octets of a string. -/
def octetsOf (s : String) : Octets :=
  s.toList.flatMap String.utf8EncodeChar

/-! ### The machine -/

/-- A piece of decoded text. -/
inductive Piece
  | char (c : Char)
  | malformed (run : Octets)
  deriving DecidableEq, Repr

/-- An encoding under way: how many octets are owed, the range of the next one, the bits and the
octets read so far. -/
structure Pending where
  owed : Nat
  low : UInt8
  high : UInt8
  bits : Nat
  seen : Octets
  deriving DecidableEq, Repr

/-- What an octet begins. The range of the octet after it leaves out overlong forms, surrogates
and everything above U+10FFFF. -/
def begin (b : UInt8) : List Piece × Option Pending :=
  let expect (owed : Nat) (low high : UInt8) (bits : Nat) : List Piece × Option Pending :=
    ([], some ⟨owed, low, high, bits, [b]⟩)
  if b < 0x80 then ([.char (Char.ofNat b.toNat)], none)
  else if b < 0xC2 then ([.malformed [b]], none)
  else if b < 0xE0 then expect 1 0x80 0xBF (b.toNat - 0xC0)
  else if b = 0xE0 then expect 2 0xA0 0xBF 0
  else if b = 0xED then expect 2 0x80 0x9F 0xD
  else if b < 0xF0 then expect 2 0x80 0xBF (b.toNat - 0xE0)
  else if b = 0xF0 then expect 3 0x90 0xBF 0
  else if b < 0xF4 then expect 3 0x80 0xBF (b.toNat - 0xF0)
  else if b = 0xF4 then expect 3 0x80 0x8F 4
  else ([.malformed [b]], none)

/-- One octet more: the pieces that it completes and the encoding then under way. -/
def advance : Option Pending → UInt8 → List Piece × Option Pending
  | none, b => begin b
  | some p, b =>
    if p.low ≤ b ∧ b ≤ p.high then
      let bits := p.bits * 64 + (b.toNat - 0x80)
      if p.owed ≤ 1 then ([.char (Char.ofNat bits)], none)
      else ([], some ⟨p.owed - 1, 0x80, 0xBF, bits, p.seen ++ [b]⟩)
    else
      let (pieces, next) := begin b
      (.malformed p.seen :: pieces, next)

/-- The pieces of the octets that follow an encoding under way. -/
def decodeFrom : Option Pending → Octets → List Piece
  | none, [] => []
  | some p, [] => [.malformed p.seen]
  | under, b :: rest =>
    let (pieces, next) := advance under b
    pieces ++ decodeFrom next rest

/-- The pieces of a list of octets. -/
def decode (bytes : Octets) : List Piece :=
  decodeFrom none bytes

/-! ### Texts read off the pieces -/

/-- The characters, if nothing is malformed. -/
def strictChars : List Piece → Option (List Char)
  | [] => some []
  | .char c :: rest => (strictChars rest).map (c :: ·)
  | .malformed _ :: _ => none

/-- The text of octets that are well-formed UTF-8 throughout. -/
def decodeStrict (bytes : Octets) : Option String :=
  (strictChars (decode bytes)).map String.ofList

/-- The text of octets with one U+FFFD for each malformed run. -/
def decodeReplacing (bytes : Octets) : String :=
  String.ofList <| (decode bytes).map fun
    | .char c => c
    | .malformed _ => Char.ofNat 0xFFFD

end Restyle.Text
