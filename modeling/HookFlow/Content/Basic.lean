import HookFlow.Failure
import HookFlow.Json.Basic
/-!
Repository content: directory entries, and what can go wrong in reading them.
-/

namespace HookFlow.Content

/-- one entry of a directory listing -/
structure Entry where
  name : String
  path : String
  kind : String := "file"
  /-- where the bytes of a file can be had directly -/
  downloadUrl : Option String := none
  deriving DecidableEq, Repr

namespace Entry

/-- whether an entry is a file -/
def isFile (e : Entry) : Bool := e.kind == "file"

/-- the entry that a JSON value describes -/
def ofJson? (v : Json) : Option Entry := do
  match ← v.record? ["name", "path", "type", "download_url"] with
  | [name, path, kind, url] =>
    let name ← Json.required Json.text? name
    let path ← Json.required Json.text? path
    let kind ← Json.withDefault "file" Json.text? kind
    let downloadUrl ← Json.withDefault none (Json.nullable? Json.text?) url
    return { name, path, kind, downloadUrl }
  | _ => none

/-- the entries that a JSON list describes -/
def listOfJson? (v : Json) : Option (List Entry) := do
  (← v.list?).mapM ofJson?

end Entry

/-- why content could not be had -/
inductive Fault where
  /-- the source was not reached, or the connection broke -/
  | network (text : String)
  /-- the source answered with a status that is no success -/
  | status (code : Nat) (url : String)
  /-- the answer is not of the expected form -/
  | malformed (text : String)
  deriving DecidableEq, Repr

namespace Fault

/-- the wording of a fault -/
def message : Fault → String
  | .network text => s!"Network error: {text}"
  | .status code url => s!"Server returned status {code} for {url}"
  | .malformed text => s!"Deserialization error: {text}"

/-- the category that a fault belongs to -/
def category : Fault → Category
  | .network _ => .fetch
  | .status _ _ => .fetch
  | .malformed _ => .decode

/-- the failure that a fault amounts to -/
def toFailure (f : Fault) : Failure :=
  { category := f.category, message := f.message, cause := some f.message }

end Fault

end HookFlow.Content
