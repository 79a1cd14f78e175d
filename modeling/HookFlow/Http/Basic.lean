import HookFlow.Http.Status
import HookFlow.Url.Basic
/-!
Requests and answers.

A request is built from texts before anything is sent: its URL must be one of the web and its header
values must be free of control characters. What carries it is a `Transport`.
-/

namespace HookFlow.Http

open Text (Bytes encode percentEncode)

/-- what is asked of the other side -/
inductive Method where
  | get
  | post
  | put
  deriving DecidableEq, Repr

/-- the word for a method -/
def Method.name : Method → String
  | .get => "GET"
  | .post => "POST"
  | .put => "PUT"

/-- a request -/
structure Request where
  method : Method
  url : Url
  /-- header names in small letters, with values -/
  headers : List (String × String) := []
  body : Bytes := []
  deriving DecidableEq, Repr

/-- an answer -/
structure Response where
  status : Nat
  body : Bytes := []
  deriving DecidableEq, Repr

/-- why a request has no answer -/
inductive Fault where
  /-- it could not be built -/
  | unsendable
  /-- nobody answered -/
  | unanswered (detail : String)
  deriving DecidableEq, Repr

/-- the wording of a fault -/
def Fault.message : Fault → String
  | .unsendable => "builder error"
  | .unanswered detail => "error sending request: " ++ detail

/-- what carries requests -/
structure Transport (m : Type → Type) where
  send (r : Request) : m (Except Fault Response)

/-- whether a text may be the value of a header -/
def isHeaderValue (s : String) : Bool :=
  s.toList.all fun c => (' ' ≤ c && c ≠ '\x7f') || c == '\t'

/-- what stays as it is in a pair of a query -/
def keepsInPair (c : Char) : Bool := c.isAlphanum || "*-._".toList.contains c

/-- a text in a pair of a query, with pluses for spaces -/
def pairText (s : String) : String :=
  String.ofList ((percentEncode (fun c => c == ' ' || keepsInPair c) s.toList).map
    fun c => if c == ' ' then '+' else c)

/-- the URL with pairs behind its query -/
def withPairs (u : Url) (pairs : List (String × String)) : Url :=
  let given := (u.query.getD "")
  let added := pairs.map fun p => pairText p.1 ++ "=" ++ pairText p.2
  let parts := (if given.isEmpty then [] else [given]) ++ added
  { u with query := if parts.isEmpty then none else some ("&".intercalate parts) }

/-- what a request asks its host for -/
def target (u : Url) : String :=
  u.path ++ (match u.query with
    | some q => "?" ++ q
    | none => "")

namespace Request

/-- the request that some texts amount to; proofs about what is asked do not look inside -/
@[irreducible] def build (method : Method) (url : String) (pairs : List (String × String) := [])
    (headers : List (String × String) := []) (body : Bytes := []) : Except Fault Request :=
  match Url.parse? url with
  | none => .error .unsendable
  | some u =>
    if (u.scheme == "http" || u.scheme == "https") && headers.all fun h => isHeaderValue h.2 then
      .ok { method, url := withPairs u pairs, headers, body }
    else .error .unsendable

end Request

namespace Transport

variable {m : Type → Type} [Monad m]

/-- a request that may not have come about -/
def carry (t : Transport m) (r : Except Fault Request) : m (Except Fault Response) :=
  match r with
  | .ok r => t.send r
  | .error f => return .error f

end Transport

end HookFlow.Http
