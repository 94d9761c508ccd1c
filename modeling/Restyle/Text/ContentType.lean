import Restyle.Text.Charset
import Restyle.Text.Blank
import Restyle.Text.Integer
import Restyle.Text.Percent

/-!
# Content types

A content type names a charset by its parameter `charset`. Parameters stand between semicolons
outside of quotes. The first part is taken as it is. In the others a name may end in an asterisk,
where the value has percent escapes, and perhaps names a charset and a language of its own before
two single quotes. A value may be split into parts that are numbered after an asterisk in the name.

A charset that is not known, or no charset at all, counts as UTF-8.
-/

namespace Restyle.Text.ContentType

/-- Why a content type cannot be read: parts of one value with numbers and without, a number that is
too long, or a charset's name with the character NUL. -/
inductive Fault
  | mixedParts
  | numberTooLong
  | nulInName
  deriving DecidableEq, Repr

/-! ### Parameters -/

/-- The texts between semicolons outside of quotes, where a quote after a backslash is none. -/
def segments (previous : Char) (isQuoted : Bool) : List Char → List (List Char)
  | [] => [[]]
  | c :: rest =>
    if c = ';' ∧ !isQuoted then [] :: segments ';' false rest
    else
      match segments c (if c = '"' ∧ previous ≠ '\\' then !isQuoted else isQuoted) rest with
      | [] => [[c]]
      | s :: others => (c :: s) :: others

/-- A parameter as it is written: its name and its value. -/
abbrev Parameter := List Char × List Char

/-- The parameter of a text. A name that is given a value is in lower case. -/
def parameterOf (segment : List Char) : Parameter :=
  let name := segment.takeWhile (· != '=')
  let value := (segment.drop name.length).drop 1
  if name.length < segment.length then
    ((trimChars name).map Char.toLower, trimChars value)
  else (trimChars name, [])

/-- A text with each occurrence of two characters replaced by one. -/
def contract (first second result : Char) : List Char → List Char
  | a :: b :: rest =>
    if a = first ∧ b = second then result :: contract first second result rest
    else a :: contract first second result (b :: rest)
  | cs => cs

/-- The text inside quotes: first each pair of backslashes is one, then each quote after a backslash
is a quote. -/
def unquoteInner (cs : List Char) : List Char :=
  contract '\\' '"' '"' (contract '\\' '\\' '\\' cs)

/-- A value without the quotes or angle brackets around it. -/
def unquote (value : List Char) : List Char :=
  let inner := (value.drop 1).dropLast
  match value.head?, (value.drop 1).getLast? with
  | some '"', some '"' => unquoteInner inner
  | some '<', some '>' => inner
  | _, _ => value

/-- A text with a backslash before each backslash and each quote. -/
def quote (cs : List Char) : List Char :=
  cs.flatMap fun c => if c = '\\' ∨ c = '"' then ['\\', c] else [c]

/-! ### Parts of values -/

/-- A part of a value: the name, the number, the text, and whether it has percent escapes. -/
structure Part where
  name : List Char
  number : Option Nat
  text : List Char
  isEscaped : Bool
  deriving DecidableEq, Repr

/-- The name and the digits of the number of a part; these may be left out. -/
def partName? (name : List Char) : Option (List Char × List Char) :=
  let stem := name.takeWhile fun c => c.isAlphanum || c == '_'
  match name.drop stem.length with
  | '*' :: rest =>
    let digits := rest.takeWhile Char.isDigit
    let after := rest.drop digits.length
    if stem ≠ [] && (after = [] || digits ≠ [] && after = ['*']) then some (stem, digits) else none
  | _ => none

/-- The number that digits make; no digits make none. -/
def numberOf (digits : List Char) : Except Fault (Option Nat) :=
  if digits = [] then .ok none
  else
    match natural? digits with
    | some n => .ok (some n)
    | none => .error .numberTooLong

/-- A parameter after the first one: a whole value, or a part of one. -/
def readParameter (p : Parameter) : Except Fault (Parameter ⊕ Part) :=
  let value := unquote p.2
  match partName? p.1 with
  | none => .ok (.inl (p.1, unquoteInner (quote value)))
  | some (stem, digits) =>
    (numberOf digits).map fun number => .inr ⟨stem, number, value, p.1.getLast? == some '*'⟩

/-- Whether a part comes before another one: by the number, then by the text. -/
def Part.le (p q : Part) : Bool :=
  match compare p.number q.number with
  | .lt => true
  | .gt => false
  | .eq => p.text < q.text || p.text == q.text && (!p.isEscaped || q.isEscaped)

/-- The text of a part with its escapes read, each as the character of the same number. -/
def Part.plainText (p : Part) : List Char :=
  if p.isEscaped then
    (unescape p.text).map fun
      | .inl c => c
      | .inr b => Char.ofNat b.toNat
  else p.text

/-- A value that parts make: its text, and its own charset, if it may name one. -/
structure Value where
  charset : Option (List Char)
  text : List Char
  deriving DecidableEq, Repr

/-- A text up to the first single quote, and what follows it. -/
def cutAtTick (cs : List Char) : List Char × Option (List Char) :=
  match cs.dropWhile (· != '\x27') with
  | [] => (cs, none)
  | _ :: rest => (cs.takeWhile (· != '\x27'), some rest)

/-- The value of a text that may name its charset and its language before it. -/
def valueOf (cs : List Char) : Value :=
  match cutAtTick cs with
  | (charset, some rest) =>
    match cutAtTick rest with
    | (_, some text) => ⟨some charset, unquoteInner text⟩
    | (_, none) => ⟨some [], unquoteInner cs⟩
  | (_, none) => ⟨some [], unquoteInner cs⟩

/-- The value of all parts of one name. -/
def joinParts (parts : List Part) : Except Fault Value :=
  if parts.any (·.number.isNone) && parts.any (·.number.isSome) then .error .mixedParts
  else
    let text := quote ((parts.mergeSort Part.le).flatMap Part.plainText)
    .ok (if parts.any (·.isEscaped) then valueOf text else ⟨none, unquoteInner text⟩)

/-- The values of parts by their names, in the order in which the names come first. -/
def joinAll (parts : List Part) : Except Fault (List (List Char × Value)) :=
  (parts.map (·.name)).eraseDups.mapM fun name =>
    (joinParts (parts.filter (·.name = name))).map fun v => (name, v)

/-- The values of a content type by their names. -/
def values (contentType : String) : Except Fault (List (List Char × Value)) :=
  match (segments ';' false contentType.toList).map parameterOf with
  | [] => .ok []
  | first :: rest => do
    let others ← rest.mapM readParameter
    let whole := others.filterMap Sum.getLeft?
    let joined ← joinAll (others.filterMap Sum.getRight?)
    return (((first.1, unquote first.2) :: whole).map fun p => (p.1, ⟨none, p.2⟩)) ++ joined

/-! ### The charset -/

/-- The octets of a text, where a character beyond the first 256 is a backslash escape. -/
def octetsOfLatin (cs : List Char) : Octets :=
  cs.flatMap fun c =>
    if c.toNat < 0x100 then [UInt8.ofNat c.toNat]
    else if c.toNat < 0x10000 then octetsOf (String.ofList ('\\' :: 'u' :: hexDigits 4 c.toNat))
    else octetsOf (String.ofList ('\\' :: 'U' :: hexDigits 8 c.toNat))

/-- The charset of a name, which cannot hold the character NUL. -/
def charsetNamed (name : List Char) : Except Fault (Option Charset) :=
  if name.contains '\x00' then .error .nulInName else .ok (Charset.ofName? (String.ofList name))

/-- The text of a value. A value with a charset of its own is read in it, if that is possible;
without a name it is ASCII. -/
def Value.read (names : Charset.Names) (v : Value) : Except Fault (List Glyph) :=
  match v.charset with
  | none => .ok (v.text.map .char)
  | some name => do
    let charset ← charsetNamed (if name = [] then "us-ascii".toList else name)
    let text := charset.bind fun c => c.decodeStrict? names (octetsOfLatin v.text)
    return text.getD (v.text.map .char)

/-- The charset of a content type. -/
def charset (names : Charset.Names) (contentType : Option String) : Except Fault Charset := do
  let unnamed := Charset.reader Charset.Unicode.readUtf8
  let all ← values (contentType.getD "")
  match all.find? fun v => v.1.map Char.toLower = "charset".toList with
  | none => return unnamed
  | some (_, v) =>
    let name ← v.read names
    if name.all fun g => g.codePoint < 0x80 then
      return (← charsetNamed ((name.filterMap Glyph.char?).map Char.toLower)).getD unnamed
    else return unnamed

end Restyle.Text.ContentType
