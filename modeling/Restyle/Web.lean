import Restyle.Text.ContentType
import Restyle.Url

/-!
# The web

What the servers of the world reply to each URL. `fetch` asks for a URL and lists the requests that
it sends. A client that follows redirects sends at most one request more than `redirectLimit`; any
answer other than a redirect that is followed is the result.
-/

namespace Restyle

open Text

/-- An answer of a server. -/
structure Response where
  status : Int
  body : Octets
  contentType : Option String
  location : Option String
  deriving DecidableEq, Repr

/-- What comes of a request: an answer, or a failure on the way, by its kind and its message. -/
inductive Reply
  | answer (r : Response)
  | failure (kind message : String)
  deriving DecidableEq, Repr

/-- The reply to each URL, and the characters that a text may hold by their names. -/
structure Web where
  reply : String → Reply
  names : Charset.Names

/-- Why a fetch gives no text. -/
inductive FetchFault
  | status (code : Int)
  | transport (kind message : String)
  deriving DecidableEq, Repr

/-- Why a fetch ends without a text: the user is told of a fault, a text is no URL, or an answer
came for a URL without a kind. -/
inductive FetchError
  | refused (fault : FetchFault)
  | malformedUrl
  | schemeless
  deriving DecidableEq, Repr

/-- What a message says of a fault. -/
def FetchFault.message : FetchFault → String
  | .status code => "HTTP " ++ toString code
  | .transport kind message => if message = "" then kind else message

/-- The status of an answer that was refused. -/
def FetchFault.statusCode? : FetchFault → Option Int
  | .status code => some code
  | .transport _ _ => none

/-- Why an answer has no text. -/
inductive TextFault
  | contentType (fault : ContentType.Fault)
  | charset (fault : CharsetFault)
  deriving DecidableEq, Repr

namespace Response

/-- Whether an answer holds what was asked for. -/
def isSuccess (r : Response) : Bool :=
  200 ≤ r.status && r.status ≤ 299

/-- Where an answer redirects to. -/
def redirect? (r : Response) : Option String :=
  if [301, 302, 303, 307, 308].contains r.status then r.location else none

/-- The text of an answer, in its charset. An empty one is a text in any charset. -/
def text (names : Charset.Names) (r : Response) : Except TextFault (List Glyph) :=
  if r.body = [] then .ok []
  else
    match ContentType.charset names r.contentType with
    | .error fault => .error (.contentType fault)
    | .ok charset => (charset.decode names r.body).mapError .charset

end Response

namespace Web

/-- The answer for a URL that no server knows. -/
def notFound : Reply :=
  .answer ⟨404, [], none, none⟩

/-- The web of a table of replies, where no server knows any other URL and no character has a name. -/
def ofTable (replies : List (String × Reply)) : Web where
  reply url := ((replies.find? fun e => e.1 = url).map Prod.snd).getD notFound
  names _ := none

/-- The web that cannot be reached. -/
def unreachable : Web where
  reply _ := .failure "ConnectError" "All connection attempts failed"
  names _ := none

/-- The number of redirects that are followed. -/
def redirectLimit : Nat := 20

/-- The failure of a client that is redirected too often. -/
def tooManyRedirects : FetchFault :=
  .transport "TooManyRedirects" "Exceeded maximum allowed redirects."

/-- Why a redirect leads nowhere. -/
def misdirected : Url.RedirectFault → FetchError
  | .location fault =>
    .refused (.transport "RemoteProtocolError"
      ("Invalid URL in location header: " ++ fault.message ++ "."))
  | .result _ => .malformedUrl

/-- One request: the answer, and where it redirects to. An answer is taken only if the URL has a
kind. -/
def ask (web : Web) (url : Url) : Except FetchError (Response × Option Url) :=
  match web.reply url.text with
  | .failure kind message => .error (.refused (.transport kind message))
  | .answer r =>
    if url.hasKind then
      match r.redirect? with
      | none => .ok (r, none)
      | some location => ((url.redirected location).mapError misdirected).map fun u => (r, some u)
    else .error .schemeless

/-- The requests that lead to an answer, with so many redirects left to follow. -/
def follow (web : Web) (left : Nat) (url : Url) : List String × Except FetchError Response :=
  match ask web url with
  | .error e => ([url.text], .error e)
  | .ok (r, none) => ([url.text], .ok r)
  | .ok (_, some next) =>
    match left with
    | 0 => ([url.text], .error (.refused tooManyRedirects))
    | left + 1 =>
      let (requests, result) := follow web left next
      (url.text :: requests, result)

/-- A successful answer; any other is a fault. -/
def accept (r : Response) : Except FetchError Response :=
  if r.isSuccess then .ok r else .error (.refused (.status r.status))

/-- The requests for a URL, and a successful answer. A client that does not follow redirects takes
the first answer. -/
def fetch (web : Web) (followRedirects : Bool) (request : String) :
    List String × Except FetchError Response :=
  match Url.ofRequest request with
  | .error _ => ([], .error .malformedUrl)
  | .ok url =>
    let (requests, result) :=
      if followRedirects then follow web redirectLimit url
      else ([url.text], (ask web url).map Prod.fst)
    (requests, result.bind accept)

end Web

end Restyle
