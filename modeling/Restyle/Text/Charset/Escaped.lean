import Restyle.Text.Charset.Step
import Restyle.Text.Charset.Unicode
import Restyle.Text.Percent

/-!
# Texts with backslash escapes

Octets stand for the characters of the same number, and a backslash begins an escape. The full
notation has escapes for control characters, numbers in octal and hexadecimal, and line ends that
are passed over; the plain one has only those for code points of four and of eight digits, and these
may be surrogates. In the full notation a character may also be given by its name; which names there
are is left open.
-/

namespace Restyle.Text.Charset

/-- The characters by their names. -/
abbrev Names := Octets → Option Char

namespace Escaped

/-- The character of an octet. -/
def latin (b : UInt8) : Char :=
  Char.ofNat b.toNat

/-- The value of a digit in an octet. -/
def digit? (base : Nat) (b : UInt8) : Option Nat :=
  (hexValue? (latin b)).filter (· < base)

/-- The digits at the front, at most so many. -/
def digits (base limit : Nat) (bytes : Octets) : List Nat :=
  ((bytes.take limit).map (digit? base)).takeWhile Option.isSome |>.reduceOption

/-- The number that digits make. -/
def valueOf (base : Nat) (ds : List Nat) : Nat :=
  ds.foldl (fun n d => base * n + d) 0

/-- A code point in so many hexadecimal digits, after a backslash and a letter. -/
def codePoint (width : Nat) (bytes : Octets) : Step :=
  let ds := digits 16 width bytes
  if ds.length < width then .malformed (1 + ds.length)
  else
    match Glyph.ofCodePoint? (valueOf 16 ds) with
    | some g => .glyph g (1 + width)
    | none => .malformed (1 + width)

/-- The width of a code point by the letter of its escape. -/
def width? (b : UInt8) : Option Nat :=
  if b = 0x75 then some 4 else if b = 0x55 then some 8 else none

/-- A step of the plain notation. -/
def plainStep (b : UInt8) (rest : Octets) : Step :=
  if b ≠ 0x5C then .one (latin b)
  else
    match rest with
    | [] => .one '\\'
    | c :: after =>
      match width? c with
      | some width => codePoint width after
      | none => .chars ['\\', latin c] 1

/-- The character of an escape of one letter; a line end is passed over. -/
def simple? (b : UInt8) : Option (List Char) :=
  match latin b with
  | '\n' => some []
  | '\\' => some ['\\']
  | '\x27' => some ['\x27']
  | '"' => some ['"']
  | 'b' => some ['\x08']
  | 'f' => some ['\x0c']
  | 't' => some ['\t']
  | 'n' => some ['\n']
  | 'r' => some ['\r']
  | 'v' => some ['\x0b']
  | 'a' => some ['\x07']
  | _ => none

/-- A character by its name, after a backslash and a letter. -/
def named (names : Names) (bytes : Octets) : Step :=
  match bytes with
  | 0x7B :: after =>
    let name := after.takeWhile (· ≠ 0x7D)
    if name.length = after.length then .incomplete
    else if name = [] then .malformed 2
    else
      match names name with
      | some c => .chars [c] (3 + name.length)
      | none => .malformed (3 + name.length)
  | _ => .malformed 1

/-- A step of the full notation. -/
def step (names : Names) (b : UInt8) (rest : Octets) : Step :=
  if b ≠ 0x5C then .one (latin b)
  else
    match rest with
    | [] => .incomplete
    | c :: after =>
      match simple? c, width? c with
      | some cs, _ => .chars cs 1
      | none, some width => codePoint width after
      | none, none =>
        if (digit? 8 c).isSome then
          let ds := digits 8 3 rest
          .chars [Char.ofNat (valueOf 8 ds)] ds.length
        else if c = 0x78 then codePoint 2 after
        else if c = 0x4E then named names after
        else .chars ['\\', latin c] 1

/-- The reading of the full notation. -/
def read (names : Names) : Octets → Reading :=
  readSteps (step names)

/-- The reading of the plain notation. -/
def readPlain : Octets → Reading :=
  readSteps plainStep

end Escaped

end Restyle.Text.Charset
