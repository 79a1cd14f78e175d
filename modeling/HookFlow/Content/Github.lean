import HookFlow.Content.Source
import HookFlow.Http.Basic
import HookFlow.Json.Parser
import HookFlow.Text.Base64
/-!
Content through the interface of a code host.

A directory is answered with a list of its entries. A file is answered with its bytes in base 64, wrapped
into lines, or, if it is large, with a link to be followed.
-/

namespace HookFlow.Content

open Text (Bytes)

/-- what the code host answers about a file -/
structure FileAnswer where
  content : String := ""
  encoding : String := ""
  downloadUrl : Option String := none
  deriving DecidableEq, Repr

/-- the answer that a JSON value holds -/
def FileAnswer.ofJson? (v : Json) : Option FileAnswer := do
  match ← v.record? ["content", "encoding", "download_url"] with
  | [content, encoding, url] =>
    let content ← Json.withDefault "" Json.text? content
    let encoding ← Json.withDefault "" Json.text? encoding
    let downloadUrl ← Json.withDefault none (Json.nullable? Json.text?) url
    return { content, encoding, downloadUrl }
  | _ => none

/-- a blank that may stand between the characters of a wrapped text -/
def isWrap (c : Char) : Bool :=
  c == ' ' || c == '\t' || c == '\n' || c == '\x0c' || c == '\r'

/-- the bytes that wrapped base 64 stands for -/
def unwrap? (content : String) : Option Bytes :=
  Text.decode64? (content.toList.filter (!isWrap ·))

/-- a code host that is asked over HTTP -/
structure Github (m : Type → Type) where
  transport : Http.Transport m
  supervisor : Supervisor m
  /-- the address of the interface, without slashes at its end -/
  apiUrl : String
  token : Option String := none

namespace Github

variable {m : Type → Type} [Monad m]

/-- what requests say they come from -/
def userAgent : String := "fsb/0.2.0"

/-- a text without slashes at its end -/
def withoutTrailingSlashes (s : String) : String :=
  String.ofList (s.toList.reverse.dropWhile (· == '/')).reverse

/-- a text without slashes at its start -/
def withoutLeadingSlashes (s : String) : String :=
  String.ofList (s.toList.dropWhile (· == '/'))

/-- the value of the header that shows a token -/
def bearer (token : String) : String := "Bearer " ++ token

/-- a code host; the token must fit into a header -/
def create (transport : Http.Transport m) (supervisor : Supervisor m) (apiUrl : String)
    (token : Option String) : Except Failure (Github m) :=
  if token.all fun t => Http.isHeaderValue (bearer t) then
    .ok { transport, supervisor, apiUrl := withoutTrailingSlashes apiUrl, token }
  else
    .error (.validation "github token is not a valid header value: failed to parse header value")

variable (g : Github m)

/-- the headers of every request -/
def headers : List (String × String) :=
  [("accept", "application/vnd.github.v3+json"), ("user-agent", userAgent)]
    ++ (g.token.map fun t => ("authorization", bearer t)).toList

/-- the address of a path in a repository -/
def contentsUrl (repo : Repository) (path : String) : String :=
  g.apiUrl ++ "/repos/" ++ repo.owner ++ "/" ++ repo.name ++ "/contents/"
    ++ withoutLeadingSlashes path

/-- the body of a successful answer -/
def get (url : String) (pairs : List (String × String)) : m (Except Fault Bytes) := do
  g.supervisor.log { level := .debug, origin := .content, message := "GET",
                     fields := [("url", .quoted url)] }
  match ← g.transport.carry (Http.Request.build .get url pairs g.headers) with
  | .error f => return .error (.network f.message)
  | .ok r =>
    if Http.isSuccess r.status then return .ok r.body
    else return .error (.status r.status url)

/-- the entries that the body of an answer lists -/
def entriesOf (body : Bytes) : Except Fault (List Entry) :=
  match (Json.parseBytes? body).bind Entry.listOfJson? with
  | some es => .ok es
  | none => .error (.malformed "error decoding response body")

/-- the entries of a directory -/
def list (repo : Repository) (path : String) : m (Except Fault (List Entry)) := do
  return (← g.get (g.contentsUrl repo path) []).bind entriesOf

/-- what is to be done about an answer about a file: take its bytes, or follow a link -/
def bytesOrLink (path : String) (body : Bytes) : Except Fault (Bytes ⊕ String) :=
  match (Json.parseBytes? body).bind FileAnswer.ofJson? with
  | none => .error (.malformed "error decoding response body")
  | some a =>
    if a.encoding == "base64" then
      match unwrap? a.content with
      | some bytes => .ok (.inl bytes)
      | none => .error (.malformed "malformed content")
    else
      match a.downloadUrl with
      | some url => .ok (.inr url)
      | none =>
        .error (.malformed s!"unsupported content encoding '{a.encoding}' for {path}")

/-- the bytes of a file -/
def file (repo : Repository) (path : String) (gitRef : Option String) :
    m (Except Fault Bytes) := do
  let pairs := (gitRef.map fun r => ("ref", r)).toList
  match (← g.get (g.contentsUrl repo path) pairs).bind (bytesOrLink path) with
  | .error f => return .error f
  | .ok (.inl bytes) => return .ok bytes
  | .ok (.inr url) => g.get url []

/-- the code host as a source of content -/
def source : Source m where
  list repo path := do return .answered (← g.list repo path)
  file repo path gitRef := do return .answered (← g.file repo path gitRef)

end Github

end HookFlow.Content
