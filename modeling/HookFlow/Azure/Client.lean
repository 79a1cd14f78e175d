import HookFlow.Http.Basic
import HookFlow.Json.Parser
import HookFlow.Json.Printer
import HookFlow.Supervisor
import HookFlow.Text.Capital
/-!
The management interface: storage keys and deployments.

A deployment is put up once and then asked for until it has settled. One answer is judged at a time: it
tells success, a final failure, or that the deployment is still under way, in which case the next answer
counts.
-/

namespace HookFlow.Azure

open Http (Method Request)

/-- the version of the interface for deployments -/
def deploymentsVersion : String := "2020-06-01"

/-- the version of the interface for storage accounts -/
def storageVersion : String := "2019-06-01"

/-- a client of the management interface -/
structure Client (m : Type → Type) where
  transport : Http.Transport m
  supervisor : Supervisor m
  /-- waits until it is time to ask again -/
  pause : m Unit
  /-- the address of the interface, without slashes at its end -/
  managementUrl : String
  subscription : String
  resourceGroup : String
  accessToken : String

/-- what an answer says about a deployment -/
inductive Verdict where
  | succeeded (id : String)
  | failed (f : Failure)
  | pending (state : String)
  deriving DecidableEq, Repr

/-- a deployment as it is answered -/
structure Resource where
  id : String := ""
  state : String := ""
  /-- what went wrong -/
  error : Option Json := none

namespace Resource

/-- the properties of a deployment: its state and what went wrong -/
def propertiesOfJson? (v : Json) : Option (String × Option Json) := do
  match ← v.record? ["provisioningState", "error"] with
  | [state, error] =>
    let state ← Json.withDefault "" Json.text? state
    let error ← Json.withDefault none (Json.nullable? some) error
    return (state, error)
  | _ => none

/-- the deployment that a JSON value describes -/
def ofJson? (v : Json) : Option Resource := do
  match ← v.record? ["id", "properties"] with
  | [id, properties] =>
    let id ← Json.withDefault "" Json.text? id
    let (state, error) ← Json.withDefault ("", none) propertiesOfJson? properties
    return { id, state, error }
  | _ => none

/-- what a deployment under a name says about itself -/
def verdict (name : String) (r : Resource) : Verdict :=
  if r.state == "Succeeded" then .succeeded r.id
  else if r.state == "Failed" || r.state == "Canceled" then
    let detail := (r.error.map Json.compact).getD ""
    .failed (.deployment s!"deployment {name} {Text.toLowerAscii r.state}: {detail}")
  else .pending r.state

end Resource

/-- what an answer about the deployment under a name says -/
def judge (name : String) (answer : Json) : Verdict :=
  match Resource.ofJson? answer with
  | some r => r.verdict name
  | none => .failed (.deployment "getting result: unexpected answer")

/-- the values of the keys that a JSON value lists -/
def keysOfJson? (v : Json) : Option (List String) := do
  match ← v.record? ["keys"] with
  | [keys] =>
    Json.withDefault [] (fun ks => do
      (← ks.list?).mapM fun k => do
        match ← k.record? ["value"] with
        | [value] => Json.required Json.text? value
        | _ => none) keys
  | _ => none

namespace Client

variable {m : Type → Type} [Monad m] (c : Client m)

/-- reports an event that matters to few -/
def note (message : String) (fields : List (String × Log.Value)) : m Unit :=
  c.supervisor.log { level := .debug, origin := .azure, message, fields }

/-- the address of the resource group -/
def groupUrl : String :=
  c.managementUrl ++ "/subscriptions/" ++ c.subscription ++ "/resourcegroups/" ++ c.resourceGroup

/-- the address of a deployment -/
def deploymentUrl (name : String) : String :=
  c.groupUrl ++ "/providers/Microsoft.Resources/deployments/" ++ name

/-- the address of the keys of a storage account -/
def keysUrl (account : String) : String :=
  c.groupUrl ++ "/providers/Microsoft.Storage/storageAccounts/" ++ account ++ "/listKeys"

/-- The value that an answer holds, if it tells success. A blank body holds `null`. -/
def valueOf (what : String) (r : Http.Response) : Except Failure Json :=
  let body := Text.decodeMarked r.body
  if !Http.isSuccess r.status then
    .error (.deployment s!"{what}: status {Http.statusText r.status}: {body}")
  else if Text.allBlank body then .ok .null
  else
    match (Json.parse? body).bind Json.generic? with
    | some v => .ok v
    | none => .error (.deployment s!"{what}: invalid response: malformed text")

/-- the value that a request is answered with -/
def ask (what : String) (method : Method) (url version : String) (body : Option Json := none) :
    m (Except Failure Json) := do
  let kind := (body.map fun _ => ("content-type", "application/json")).toList
  let headers := [("authorization", "Bearer " ++ c.accessToken), ("accept", "*/*")] ++ kind
  let bytes := (body.map fun v => Text.encode v.compact).getD []
  match ← c.transport.carry (Request.build method url [("api-version", version)] headers bytes) with
  | .error f => return .error (.deployment s!"{what}: {f.message}")
  | .ok r => return valueOf what r

/-- the first of some keys of a storage account -/
def firstKey (account : String) (answer : Json) : Except Failure String :=
  match keysOfJson? answer with
  | none => .error (.deployment "listing storage keys: invalid response: unexpected answer")
  | some [] => .error (.deployment s!"storage account {account} has no keys")
  | some (k :: _) => .ok k

/-- the first key of a storage account -/
def storageKey (account : String) : m (Except Failure String) := do
  return (← c.ask "listing storage keys" .post (c.keysUrl account) storageVersion).bind
    (firstKey account)

/-- the request body of a deployment -/
def deploymentBody (template parameters : Json) : Json :=
  .object [("properties", .object [("mode", .text "Incremental"), ("parameters", parameters),
    ("template", template)])]

/-- what one answer about a deployment leads to: the next answer while it is under way, or the outcome -/
def advance (name : String) (answer : Json) : m (Json ⊕ Except Failure String) := do
  match judge name answer with
  | .succeeded id => return .inr (.ok id)
  | .failed f => return .inr (.error f)
  | .pending state =>
    c.note "waiting for deployment" [("deployment", .quoted name), ("state", .quoted state)]
    c.pause
    match ← c.ask "waiting for deployment" .get (c.deploymentUrl name) deploymentsVersion with
    | .error f => return .inr (.error f)
    | .ok answer => return .inl answer

/-- the outcome of a deployment that has been answered once; it is asked for until it has settled -/
def settle (name : String) (answer : Json) : m (Except Failure String) :=
  have : Nonempty (Except Failure String) := ⟨.ok ""⟩
  repeatM (c.advance name) answer

/-- puts a deployment up and waits until it has settled; the answer is its identifier -/
def deploy (name : String) (template parameters : Json) : m (Except Failure String) := do
  match ← c.ask "updating deployment" .put (c.deploymentUrl name) deploymentsVersion
      (some (deploymentBody template parameters)) with
  | .error f => return .error f
  | .ok answer => c.settle name answer

end Client

end HookFlow.Azure
