import Restyle.Text.Lines
import Restyle.Text.Lowercase
import Restyle.Text.Percent
import Restyle.Text.Punycode

/-!
# Hosts

A host is an address of four octets, an address of eight groups in brackets, or a name. A text that
looks like an address has to be one. Names are in lower case; a label with characters beyond ASCII
is written in Punycode after `xn--`, and characters that have no place in a name as percent escapes.
-/

namespace Restyle.Host

open Text

/-- Why a text is no host. -/
inductive Fault
  | octets (host : String)
  | groups (host : String)
  deriving DecidableEq, Repr

/-! ### Addresses -/

/-- The number of separators that have to be found among digits if each run of digits between them
keeps a digit: a run gives up one digit in two. -/
def spareSeparators (runs : List (List Char)) : Nat :=
  runs.foldl (fun n run => n + (run.length - 1) / 2) 0

/-- Whether a text is four runs of digits with any one character between each two of them. -/
def looksLikeOctets (host : List Char) : Bool :=
  let runs := splitOn ' ' (host.map fun c => if c.isDigit then c else ' ')
  runs.length ≤ 4 && runs.all (· ≠ []) && 4 ≤ runs.length + spareSeparators runs

/-- Whether a text is the decimal number of an octet, without zeros in front. -/
def isOctet (digits : List Char) : Bool :=
  digits ≠ [] && digits.all Char.isDigit && digits.length ≤ 3 &&
    (digits.length == 1 || digits.head? != some '0') && (String.ofList digits).toNat?.any (· ≤ 255)

/-- Whether a text is an address of four octets. -/
def isOctetAddress (host : List Char) : Bool :=
  let parts := splitOn '.' host
  parts.length == 4 && parts.all isOctet

/-- Whether a text is a group of an address: up to four hexadecimal digits. -/
def isGroup (digits : List Char) : Bool :=
  digits ≠ [] && digits.length ≤ 4 && digits.all fun c => (hexValue? c).isSome

/-- The parts between the colons of an address, where four octets at the end count as two groups. -/
def groupsOf (address : List Char) : Option (List (List Char)) :=
  let parts := splitOn ':' address
  match parts.getLast? with
  | some last =>
    if parts.length < 3 then none
    else if last.contains '.' then
      if isOctetAddress last then some (parts.dropLast ++ [['0'], ['0']]) else none
    else some parts
  | none => none

/-- Whether the groups on one side of the gap are well formed. Where the gap is at an end of the
address, that end is empty. -/
def isSide (groups : List (List Char)) : Bool :=
  groups == [[]] || groups.all isGroup

/-- The number of groups on one side of the gap. -/
def sideLength (groups : List (List Char)) : Nat :=
  if groups == [[]] then 0 else groups.length

/-- Whether groups make an address: eight of them, or fewer with one gap that stands for zeros. -/
def areGroups (groups : List (List Char)) : Bool :=
  if 9 < groups.length then false
  else
    let inner := (groups.drop 1).dropLast
    match inner.findIdx? (· == []) with
    | none => groups.length == 8 && groups.all isGroup
    | some gap =>
      let before := groups.take (gap + 1)
      let after := groups.drop (gap + 2)
      inner.count [] == 1 && isSide before && isSide after &&
        sideLength before + sideLength after < 8

/-- Whether a text is an address of eight groups, which a zone may follow after a percent sign. -/
def isGroupAddress (host : List Char) : Bool :=
  let address := host.takeWhile (· != '%')
  let zone := (host.dropWhile (· != '%')).drop 1
  let isZoned := address.length < host.length
  !host.contains '/' && (!isZoned || (zone ≠ [] && !zone.contains '%')) &&
    (groupsOf address).any areGroups

/-! ### Names -/

/-- Whether a character can stand in a name. -/
def isNameChar (c : Char) : Bool :=
  c.isAlphanum || "-._~!$&'()*+,;=\"\x60\x7b\x7d%|\\".toList.contains c

/-- Whether a character is in ASCII. -/
def isAscii (c : Char) : Bool :=
  c.toNat < 0x80

/-- A label in ASCII. -/
def asciiLabel (label : List Char) : List Char :=
  if label.all isAscii then label else "xn--".toList ++ Punycode.encode label

/-- A name in ASCII. There are four full stops between labels. -/
def asciiName (name : List Char) : List Char :=
  let marked := name.map fun c => if ['。', '．', '｡'].contains c then '.' else c
  joinWith '.' ((splitOn '.' marked).map asciiLabel)

/-- A host in normal form; the brackets around an address are not part of it. -/
def ofText (host : String) : Except Fault String :=
  let cs := host.toList
  if looksLikeOctets cs then
    if isOctetAddress cs then .ok host else .error (.octets host)
  else if cs.head? == some '[' && cs.getLast? == some ']' && 1 < cs.length then
    let address := (cs.drop 1).dropLast
    if isGroupAddress address then .ok (String.ofList address) else .error (.groups host)
  else if cs.all isAscii then .ok (escape isNameChar (lowercase host))
  else .ok (String.ofList (asciiName (lowercase host).toList))

/-- A host as it is written: an address of groups is in brackets. -/
def written (host : String) : String :=
  if host.toList.contains ':' then "[" ++ host ++ "]" else host

end Restyle.Host
