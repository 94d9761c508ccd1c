import Restyle.Text.Integer
import Restyle.Toml.Text
import Restyle.Value

/-!
# Numbers, dates and times of TOML

An integer is decimal, without zeros in front, or hexadecimal, octal or binary after `0x`, `0o` or
`0b`; a decimal number with a fraction or an exponent is a floating-point number. Single underscores
may stand between digits.

A moment is a date and a time with a `T` or a blank between them, with an offset or without one. The
seconds may be left out, and of their fraction six digits count.
-/

namespace Restyle.Toml

open Calendar Number

/-- Why a document cannot be read. -/
inductive ReadError
  | malformed
  | numberTooLong
  deriving DecidableEq, Repr

/-- A scalar that begins here, which may prove to be at fault, and what follows it. -/
abbrev Scan := Option (Except ReadError Value × List Char)

/-! ### Numbers -/

/-- The digits that follow a digit, without the underscores between them. -/
def moreDigits (isDigit : Char → Bool) : List Char → List Char × List Char
  | [] => ([], [])
  | c :: rest =>
    if isDigit c then
      let (digits, after) := moreDigits isDigit rest
      (c :: digits, after)
    else if c == '_' && rest.head?.any isDigit then moreDigits isDigit rest
    else ([], c :: rest)

/-- The digits at the front, without the underscores between them. -/
def digitRun (isDigit : Char → Bool) (cs : List Char) : List Char × List Char :=
  if cs.head?.any isDigit then moreDigits isDigit cs else ([], cs)

/-- The value of digits in a base. -/
def digitsValue (base : Nat) (digits : List Char) : Nat :=
  digits.foldl (fun n c => n * base + (hexDigit? c).getD 0) 0

/-- Whether a character is a digit of a base. -/
def isDigitOf (base : Nat) (c : Char) : Bool :=
  match hexDigit? c with
  | some d => d < base
  | none => false

/-- The base that a letter after a zero stands for. -/
def baseOf? : Char → Option Nat
  | 'x' => some 16
  | 'o' => some 8
  | 'b' => some 2
  | _ => none

/-- An integer in a base other than ten. -/
def prefixedInteger? : List Char → Scan
  | '0' :: c :: rest =>
    match baseOf? c with
    | some base =>
      match digitRun (isDigitOf base) rest with
      | ([], _) => none
      | (digits, after) => some (.ok (.int (digitsValue base digits)), after)
    | none => none
  | _ => none

/-- A sign at the front: whether it is a minus. -/
def signOf : List Char → Bool × List Char
  | '+' :: rest => (false, rest)
  | '-' :: rest => (true, rest)
  | cs => (false, cs)

/-- The digits before the point. A zero stands alone. -/
def wholeDigits (cs : List Char) : List Char × List Char :=
  match cs with
  | '0' :: rest => (['0'], rest)
  | _ => digitRun Char.isDigit cs

/-- The digits of a fraction, if there is one. -/
def fraction? : List Char → Option (List Char × List Char)
  | '.' :: rest =>
    match digitRun Char.isDigit rest with
    | ([], _) => none
    | found => some found
  | _ => none

/-- An exponent, if there is one. -/
def exponent? : List Char → Option (Int × List Char)
  | c :: rest =>
    if c == 'e' || c == 'E' then
      let (negative, rest) := signOf rest
      match digitRun Char.isDigit rest with
      | ([], _) => none
      | (digits, after) =>
        let size : Int := digitsValue 10 digits
        some (if negative then -size else size, after)
    else none
  | [] => none

/-- A decimal integer. -/
def decimalInteger (negative : Bool) (digits : List Char) : Except ReadError Value :=
  if Text.digitLimit < digits.length then .error .numberTooLong
  else
    let n : Int := digitsValue 10 digits
    .ok (.int (if negative then -n else n))

/-- A decimal number. -/
def decimalNumber? (cs : List Char) : Scan :=
  let (negative, unsigned) := signOf cs
  match wholeDigits unsigned with
  | ([], _) => none
  | (whole, rest) =>
    let fraction := fraction? rest
    let (fractionDigits, rest) := fraction.getD ([], rest)
    let exponent := exponent? rest
    let (power, rest) := exponent.getD (0, rest)
    if fraction.isNone && exponent.isNone then some (decimalInteger negative whole, rest)
    else
      let digits := digitsValue 10 (whole ++ fractionDigits)
      some (.ok (.real (.ofDecimal negative digits (power - fractionDigits.length))), rest)

/-- An infinity or no number. -/
def namedNumber? (cs : List Char) : Scan :=
  match signOf cs with
  | (negative, 'i' :: 'n' :: 'f' :: rest) => some (.ok (.real (.infinite negative)), rest)
  | (_, 'n' :: 'a' :: 'n' :: rest) => some (.ok (.real .nan), rest)
  | _ => none

/-! ### Dates and times -/

/-- The value of so many decimal digits at the front. -/
def fixedDigits (width : Nat) (cs : List Char) : Option (Nat × List Char) :=
  let digits := cs.take width
  if digits.length = width && digits.all Char.isDigit then
    some (digitsValue 10 digits, cs.drop width)
  else none

/-- Two digits with a value in a range. -/
def twoDigits (low high : Nat) (cs : List Char) : Option (Nat × List Char) := do
  let (n, rest) ← fixedDigits 2 cs
  if low ≤ n && n ≤ high then some (n, rest) else none

/-- What follows a character that has to be there. -/
def expect (c : Char) : List Char → Option (List Char)
  | d :: rest => if c = d then some rest else none
  | [] => none

/-- The form of a date; whether there is such a day is not asked. -/
def date? (cs : List Char) : Option (Date × List Char) := do
  let (year, rest) ← fixedDigits 4 cs
  let (month, rest) ← twoDigits 1 12 (← expect '-' rest)
  let (day, rest) ← twoDigits 1 31 (← expect '-' rest)
  return (⟨year, month, day⟩, rest)

/-- The microseconds of a fraction of a second. -/
def micros (digits : List Char) : Nat :=
  digitsValue 10 ((digits ++ List.replicate 6 '0').take 6)

/-- A fraction of a second, if there is one. -/
def secondFraction (cs : List Char) : Nat × List Char :=
  match cs with
  | '.' :: rest =>
    match rest.takeWhile Char.isDigit with
    | [] => (0, cs)
    | digits => (micros digits, rest.dropWhile Char.isDigit)
  | _ => (0, cs)

/-- Seconds and their fraction, if there are any. -/
def seconds (cs : List Char) : (Nat × Nat) × List Char :=
  match (expect ':' cs).bind (twoDigits 0 59) with
  | some (second, rest) =>
    let (micros, rest) := secondFraction rest
    ((second, micros), rest)
  | none => ((0, 0), cs)

/-- A time of day. -/
def clock? (cs : List Char) : Option (Clock × List Char) := do
  let (hour, rest) ← twoDigits 0 23 cs
  let (minute, rest) ← twoDigits 0 59 (← expect ':' rest)
  let ((second, micros), rest) := seconds rest
  return (⟨hour, minute, second, micros⟩, rest)

/-- An offset in hours and minutes. -/
def signedOffset? (cs : List Char) : Option (Offset × List Char) := do
  let (negative, rest) := signOf cs
  if rest.length = cs.length then none
  let (hour, rest) ← twoDigits 0 23 rest
  let (minute, rest) ← twoDigits 0 59 (← expect ':' rest)
  let size : Int := hour * 60 + minute
  return (⟨if negative then -size else size⟩, rest)

/-- An offset, if there is one. -/
def offset (cs : List Char) : Option Offset × List Char :=
  match cs with
  | 'Z' :: rest | 'z' :: rest => (some ⟨0⟩, rest)
  | _ =>
    match signedOffset? cs with
    | some (found, rest) => (some found, rest)
    | none => (none, cs)

/-- The time after a date, if there is one. -/
def clockAfterDate? : List Char → Option (Clock × List Char)
  | c :: rest => if c == 'T' || c == 't' || c == ' ' then clock? rest else none
  | [] => none

/-- A date or a moment. There has to be such a day. -/
def moment? (cs : List Char) : Scan := do
  let (date, rest) ← date? cs
  let check (v : Value) : Except ReadError Value :=
    if date.isValid then .ok v else .error .malformed
  match clockAfterDate? rest with
  | some (clock, rest) =>
    let (found, rest) := offset rest
    return (check (.moment ⟨date, clock, found⟩), rest)
  | none => return (check (.date date), rest)

/-! ### Scalars -/

/-- A truth value. -/
def truth? : List Char → Scan
  | 't' :: 'r' :: 'u' :: 'e' :: rest => some (.ok (.bool true), rest)
  | 'f' :: 'a' :: 'l' :: 's' :: 'e' :: rest => some (.ok (.bool false), rest)
  | _ => none

/-- Any scalar other than a text: the first form that fits. -/
def scalar (cs : List Char) : Except ReadError (Value × List Char) :=
  let clock : Scan := (clock? cs).map fun (t, rest) => (.ok (.clock t), rest)
  match truth? cs <|> moment? cs <|> clock <|> prefixedInteger? cs <|> decimalNumber? cs <|>
      namedNumber? cs with
  | some (v, rest) => v.map fun v => (v, rest)
  | none => .error .malformed

end Restyle.Toml
