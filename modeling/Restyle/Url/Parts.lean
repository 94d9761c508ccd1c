import Restyle.Text.Lines
import Restyle.Text.Lowercase

/-!
# Parts of a URL

A URL as it is written: a scheme before a colon, an authority after two slashes, a path, a query
after a question mark and a fragment after a hash sign. `Parts.resolve` puts together the URL that a
reference means where another URL is the base.
-/

namespace Restyle

open Text

/-- The parts of a URL or of a reference to one, as they are written. -/
structure Parts where
  scheme : Option String
  authority : Option String
  path : String
  query : Option String
  fragment : Option String
  deriving DecidableEq, Repr

namespace Parts

/-! ### Reading -/

/-- A text split at the first character that passes a test: what is before it, and what follows
it. -/
def cutAt (isCut : Char → Bool) (cs : List Char) : List Char × Option (List Char) :=
  match cs.dropWhile fun c => !isCut c with
  | [] => (cs, none)
  | _ :: rest => (cs.takeWhile fun c => !isCut c, some rest)

/-- Whether a character can stand in a scheme. -/
def isSchemeChar (c : Char) : Bool :=
  c.isAlphanum || c == '+' || c == '-' || c == '.'

/-- The scheme at the start of a text, and what follows its colon. A colon at the very front is
dropped. -/
def scheme? (cs : List Char) : Option (List Char) × List Char :=
  match cutAt (· == ':') cs with
  | ([], some rest) => (none, rest)
  | (c :: name, some rest) =>
    if c.isAlpha && name.all isSchemeChar then (some (c :: name), rest) else (none, cs)
  | _ => (none, cs)

/-- The authority at the start of a text, and what follows it. -/
def authority? (cs : List Char) : Option (List Char) × List Char :=
  match cs with
  | '/' :: '/' :: rest => (some (rest.takeWhile (· != '/')), rest.dropWhile (· != '/'))
  | _ => (none, cs)

/-- The parts of a text. -/
def ofText (text : String) : Parts :=
  let (beforeFragment, fragment) := cutAt (· == '#') text.toList
  let (beforeQuery, query) := cutAt (· == '?') beforeFragment
  let (scheme, rest) := scheme? beforeQuery
  let (authority, path) := authority? rest
  ⟨scheme.map String.ofList, authority.map String.ofList, String.ofList path,
    query.map String.ofList, fragment.map String.ofList⟩

/-! ### References -/

/-- The schemes whose URLs have relative references. -/
def relativeSchemes : List String :=
  ["", "ftp", "http", "gopher", "nntp", "imap", "wais", "file", "https", "shttp", "mms",
    "prospero", "rtsp", "rtsps", "rtspu", "sftp", "svn", "svn+ssh", "ws", "wss"]

/-- Those among them whose last path segment has no parameters after a semicolon. -/
def plainSchemes : List String :=
  ["gopher", "nntp", "wais", "file", "svn", "svn+ssh", "ws", "wss"]

/-- A path without the parameters of its last segment, and these. -/
def cutParameters (scheme path : String) : String × String :=
  let cs := path.toList
  let last := (cs.reverse.takeWhile (· != '/')).reverse
  if plainSchemes.contains scheme then (path, "")
  else
    let (name, parameters) := cutAt (· == ';') last
    (String.ofList (cs.take (cs.length - last.length) ++ name),
      String.ofList (parameters.getD []))

/-- The path of a reference that is seen from a base path. Two dots that climb above the root stay
at the root. -/
def mergePaths (base reference : String) : String :=
  let own := splitString '/' reference
  let segments :=
    if reference.toList.head? == some '/' then own
    else
      let above := if base = "" then [""] else (splitString '/' base).dropLast
      match above ++ own with
      | [] => []
      | first :: rest => first :: rest.dropLast.filter (· ≠ "") ++ rest.getLast?.toList
  let resolved := (segments.foldl
    (fun done s => if s = "." then done else if s = ".." then done.tail else s :: done) []).reverse
  let closed :=
    match segments.getLast? with
    | some "." | some ".." => resolved ++ [""]
    | _ => resolved
  let path := "/".intercalate closed
  if path = "" then "/" else path

/-- The text of parts that come before others: empty parts are left out. -/
def assemble (scheme authority path parameters query fragment : String) : String :=
  let after (mark part : String) : String := if part = "" then "" else mark ++ part
  let path := path ++ after ";" parameters
  let isHosted := authority ≠ "" || scheme ≠ "" || "//".toList.isPrefixOf path.toList
  let isRooted := path = "" || path.toList.head? == some '/'
  (if scheme = "" then "" else scheme ++ ":") ++ (if isHosted then "//" ++ authority else "") ++
    (if isHosted && !isRooted then "/" else "") ++ path ++ after "?" query ++ after "#" fragment

/-- The URL that a reference means where `base` is the base. An empty query or fragment counts as
none. -/
def resolve (base reference : String) : String :=
  let b := ofText base
  let r := ofText reference
  let schemeOf (p : Parts) : String := lowercase (p.scheme.getD "")
  let scheme := if r.scheme.isNone then schemeOf b else schemeOf r
  let authority := r.authority.getD ""
  let query := r.query.getD ""
  let fragment := r.fragment.getD ""
  let (path, parameters) := cutParameters scheme r.path
  if base = "" then reference
  else if reference = "" then base
  else if scheme ≠ schemeOf b || !relativeSchemes.contains scheme then reference
  else if authority ≠ "" then assemble scheme authority path parameters query fragment
  else
    let host := b.authority.getD ""
    let (basePath, baseParameters) := cutParameters scheme b.path
    if path = "" && parameters = "" then
      let query := if query = "" then b.query.getD "" else query
      assemble scheme host basePath baseParameters query fragment
    else assemble scheme host (mergePaths basePath path) parameters query fragment

end Parts

end Restyle
