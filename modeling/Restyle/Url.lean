import Restyle.Text.Integer
import Restyle.Url.Host
import Restyle.Url.Parts

/-!
# URLs

A URL in normal form: scheme and host in lower case, no number after the host that the scheme has by
default, no dot segments, and characters that have no place in a URL as percent escapes. `Url.ofText`
reads a text, and says what is wrong with a text that is no URL. `Url.redirected` gives the URL that a
redirect leads to.
-/

namespace Restyle

open Text

/-- A URL or a reference to one. A scheme, a user or a host that is not there is empty. The number
after the host tells the service of the host that is meant. -/
structure Url where
  scheme : String
  user : String
  host : String
  portNumber : Option Int
  path : String
  query : Option String
  fragment : Option String
  deriving DecidableEq, Repr

/-- Why a text is no URL. -/
inductive UrlFault
  | tooLong
  | unprintable (c : Char) (position : Nat)
  | portNumber (text : String)
  | host (fault : Host.Fault)
  | unrootedPath
  | doubleSlash
  | leadingColon
  deriving DecidableEq, Repr

/-- What a message says of a fault. -/
def UrlFault.message : UrlFault → String
  | .tooLong => "URL too long"
  | .unprintable c position =>
    "Invalid non-printable ASCII character in URL, " ++ quoted (String.ofList [c]) ++
      " at position " ++ toString position ++ "."
  | .portNumber text => "Invalid port: " ++ quoted text
  | .host (.octets name) => "Invalid IPv4 address: " ++ quoted name
  | .host (.groups name) => "Invalid IPv6 address: " ++ quoted name
  | .unrootedPath => "For absolute URLs, path must be empty or begin with '/'"
  | .doubleSlash => "Relative URLs cannot have a path starting with '//'"
  | .leadingColon => "Relative URLs cannot have a path starting with ':'"

namespace Url

/-! ### Characters -/

/-- Whether a character is in ASCII and neither a control nor a blank. -/
def isVisible (c : Char) : Bool :=
  0x20 < c.toNat && c.toNat < 0x7F

/-- Whether a user's name or password holds a character as it is. -/
def isUserChar (c : Char) : Bool :=
  isVisible c && !"\"#<>?\x60\x7b\x7d/;=@[\\]^|".toList.contains c

/-- Whether a path holds a character as it is. -/
def isPathChar (c : Char) : Bool :=
  isVisible c && !"\"#<>?\x60\x7b\x7d".toList.contains c

/-- Whether a query holds a character as it is. -/
def isQueryChar (c : Char) : Bool :=
  isVisible c && !"\"#<>".toList.contains c

/-- Whether a fragment holds a character as it is. -/
def isFragmentChar (c : Char) : Bool :=
  isVisible c && !"\"<>\x60".toList.contains c

/-! ### Normal form -/

/-- The segments of a path without dot segments; two dots take the segment before them away. -/
def dropDots (segments : List String) : List String :=
  (segments.foldl
    (fun done segment =>
      if segment = "." then done
      else if segment = ".." then (if done = [""] then done else done.tail)
      else segment :: done)
    []).reverse

/-- A path without dot segments. -/
def withoutDots (path : String) : String :=
  "/".intercalate (dropDots (splitString '/' path))

/-- The number after the host that a scheme has by default. -/
def defaultPortNumber? (scheme : String) : Option Int :=
  match scheme with
  | "ftp" => some 21
  | "http" | "ws" => some 80
  | "https" | "wss" => some 443
  | _ => none

/-- What is wrong with a path. -/
def pathFault? (isSchemed isHosted : Bool) (path : String) : Option UrlFault :=
  let starts (lead : String) : Bool := lead.toList.isPrefixOf path.toList
  if isHosted then if path = "" || starts "/" then none else some .unrootedPath
  else if isSchemed then none
  else if starts "//" then some .doubleSlash
  else if starts ":" then some .leadingColon
  else none

/-- A URL of its parts. Which number after the host is the default one is told by the scheme as it is
written. -/
def build (scheme user host : String) (portNumber : Option Int) (path : String)
    (query fragment : Option String) : Except UrlFault Url :=
  let user := escape isUserChar user
  let portNumber := if portNumber = defaultPortNumber? scheme then none else portNumber
  let isHosted := user ≠ "" || host ≠ "" || portNumber.isSome
  match pathFault? (scheme ≠ "") isHosted path with
  | some fault => .error fault
  | none =>
    let path := if scheme ≠ "" || isHosted then withoutDots path else path
    .ok ⟨lowercase scheme, user, host, portNumber, escape isPathChar path,
      query.map (escape isQueryChar), fragment.map (escape isFragmentChar)⟩

/-! ### Reading -/

/-- The greatest number of characters of a URL. -/
def lengthLimit : Nat := 65536

/-- Whether a text is of a length and of characters that can be read. -/
def checkText (text : String) : Except UrlFault Unit :=
  let isControl (c : Char) : Bool := c.toNat < 0x20 || c.toNat == 0x7F
  if lengthLimit < text.length then .error .tooLong
  else
    match text.toList.find? isControl with
    | some c => .error (.unprintable c (text.toList.findIdx isControl))
    | none => .ok ()

/-- The user, the host, and what follows the host and its colon in an authority. The user ends at
the last at sign. -/
def cutAuthority (authority : List Char) : List Char × List Char × List Char :=
  let located := (authority.reverse.takeWhile (· != '@')).reverse
  let user := (authority.take (authority.length - located.length)).dropLast
  let afterColon (cs : List Char) : List Char := if cs.head? == some ':' then cs.drop 1 else cs
  if located.head? == some '[' && located.contains ']' then
    let after := (located.reverse.takeWhile (· != ']')).reverse
    (user, located.take (located.length - after.length), afterColon after)
  else (user, located.takeWhile (· != ':'), afterColon (located.dropWhile (· != ':')))

/-- The number after a host; an empty text is none. -/
def portNumberOf (text : String) : Except UrlFault (Option Int) :=
  if text = "" then .ok none
  else
    match integer? text with
    | some n => .ok (some n)
    | none => .error (.portNumber text)

/-- The URL of a text. -/
def ofText (text : String) : Except UrlFault Url := do
  checkText text
  let parts := Parts.ofText text
  let (user, host, number) := cutAuthority (parts.authority.getD "").toList
  let host ← (Host.ofText (String.ofList host)).mapError .host
  let number ← portNumberOf (String.ofList number)
  build (parts.scheme.getD "") (String.ofList user) host number parts.path parts.query
    parts.fragment

/-! ### Writing -/

/-- The authority of a URL. -/
def authority (u : Url) : String :=
  (if u.user = "" then "" else u.user ++ "@") ++ Host.written u.host ++
    (u.portNumber.map fun n => ":" ++ toString n).getD ""

/-- The text of a URL. -/
def text (u : Url) : String :=
  let part (lead : String) (s : Option String) : String := (s.map (lead ++ ·)).getD ""
  (if u.scheme = "" then "" else u.scheme ++ ":") ++
    (if u.authority = "" then "" else "//" ++ u.authority) ++ u.path ++ part "?" u.query ++
    part "#" u.fragment

/-! ### Requests -/

/-- Whether a URL says where to ask. -/
def isAbsolute (u : Url) : Bool :=
  u.scheme ≠ "" && u.host ≠ ""

/-- The URL that is asked for by a text. Without scheme and host it is a path from the root. -/
def ofRequest (request : String) : Except UrlFault Url := do
  let u ← ofText request
  if u.isAbsolute then return u
  else
    let path := "/" ++ String.ofList (u.path.toList.dropWhile (· == '/'))
    build "" "" "" none path u.query none

/-- Whether the text of a URL, before its last hash sign, begins with a kind of address and a
colon. -/
def hasKind (u : Url) : Bool :=
  let all := u.text.toList
  let cs := if all.contains '#' then (all.reverse.dropWhile (· != '#')).reverse else all
  let kind := cs.takeWhile fun c => c != '/' && c != ':'
  kind ≠ [] && cs[kind.length]? == some ':'

/-! ### Redirects -/

/-- Why a redirect leads nowhere: the location is no URL, or it makes none at its place. -/
inductive RedirectFault
  | location (fault : UrlFault)
  | result (fault : UrlFault)
  deriving DecidableEq, Repr

/-- A URL with a host, which is brought into normal form anew. -/
def withHost (u : Url) (host : String) : Except UrlFault Url := do
  let host ← (Host.ofText (Host.written host)).mapError .host
  build u.scheme u.user host u.portNumber u.path u.query u.fragment

/-- A URL with a fragment. -/
def withFragment (u : Url) (fragment : String) : Except UrlFault Url := do
  checkText fragment
  { u with fragment := some fragment }.withHost u.host

/-- The fragment of a URL with its escapes read; none is an empty one. -/
def fragmentText (u : Url) : String :=
  unescapeUtf8 (u.fragment.getD "")

/-- Where a location leads from a URL. A location with a scheme alone keeps the host, any other one
without a host is a reference, and one without a fragment keeps the fragment. -/
def follow (u : Url) (location : Url) : Except UrlFault Url := do
  let named ← if location.scheme ≠ "" && location.host = "" then location.withHost u.host
    else pure location
  let next ← if named.isAbsolute then pure named else ofText (Parts.resolve u.text named.text)
  if u.fragmentText ≠ "" && next.fragmentText = "" then next.withFragment u.fragmentText
  else pure next

/-- The URL that a redirect leads to. -/
def redirected (u : Url) (location : String) : Except RedirectFault Url := do
  let location ← (ofText location).mapError .location
  (u.follow location).mapError .result

end Url

end Restyle
