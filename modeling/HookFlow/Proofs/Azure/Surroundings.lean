import HookFlow.Azure.BlobStore
import HookFlow.Proofs.Wire
/-!
A client of the cloud in open surroundings: what each of its questions asks the transport, and what it makes of the
answer.

Results:
- `runs_ask`: what one question to the management interface amounts to.
- `runs_storageKey`: the same for the keys of a storage account.
-/

namespace HookFlow.Azure

/-- what a client knows: where the interface is, what it works on, and the token that it shows -/
structure Client.Site where
  managementUrl : String
  subscription : String
  resourceGroup : String
  accessToken : String

/-- a client in open surroundings -/
def Client.asking (site : Client.Site) : Client Wire where
  transport := Wire.transport
  supervisor := Wire.supervisor
  pause := Wire.ask .pause
  managementUrl := site.managementUrl
  subscription := site.subscription
  resourceGroup := site.resourceGroup
  accessToken := site.accessToken

/-- a store of blobs in open surroundings -/
def BlobStore.asking (site : Client.Site) (lifetime : Int) (endpoint : String) : BlobStore Wire where
  client := .asking site
  now := Wire.ask .now
  lifetime
  endpoint

/-! ## The management interface -/

namespace Client

variable {h : Wire.History} {site : Site}

@[simp] theorem runs_note {message : String} {fields : List (String × Log.Value)} {u : Unit} :
    ((asking site).note message fields).Runs h u ↔
      h = [⟨.log { level := .debug, origin := .azure, message, fields }, ()⟩] :=
  runs_inquiry

/-- what the answer to a question says -/
def answered (what : String) : Except Http.Fault Http.Response → Except Failure Json
  | .error f => .error (.deployment s!"{what}: {f.message}")
  | .ok r => valueOf what r

/-- the request for a question -/
def question (site : Site) (method : Http.Method) (url version : String) (body : Option Json) :
    Except Http.Fault Http.Request :=
  Http.Request.build method url [("api-version", version)]
    ([("authorization", "Bearer " ++ site.accessToken), ("accept", "*/*")] ++
      (body.map fun _ => ("content-type", "application/json")).toList)
    ((body.map fun v => Text.encode v.compact).getD [])

theorem ask_eq (what : String) (method : Http.Method) (url version : String) (body : Option Json) :
    (asking site).ask what method url version body =
      answered what <$> Wire.transport.carry (question site method url version body) := by
  refine congrArg (Wire.transport.carry (question site method url version body) >>= ·) (funext fun answer => ?_)
  cases answer <;> rfl

/-- **What one question to the management interface amounts to.** -/
theorem runs_ask {what : String} {method : Http.Method} {url version : String} {body : Option Json}
    {r : Except Failure Json} : ((asking site).ask what method url version body).Runs h r ↔
      ∃ answer, (Wire.transport.carry (question site method url version body)).Runs h answer ∧
        answered what answer = r := by
  rw [ask_eq, Dialogue.runs_map]

/-- the request for the keys of a storage account -/
def keysRequest (site : Site) (account : String) : Except Http.Fault Http.Request :=
  question site .post ((asking site).keysUrl account) storageVersion none

/-- the first key of a storage account as it is answered -/
def keyOf (account : String) (answer : Except Http.Fault Http.Response) : Except Failure String :=
  (answered "listing storage keys" answer).bind (firstKey account)

/-- **What the question for the key of a storage account amounts to.** -/
theorem runs_storageKey {account : String} {r : Except Failure String} :
    ((asking site).storageKey account).Runs h r ↔
      ∃ answer, (Wire.transport.carry (keysRequest site account)).Runs h answer ∧ keyOf account answer = r := by
  have whole : (asking site).storageKey account = (fun v => v.bind (firstKey account)) <$>
      (asking site).ask "listing storage keys" .post ((asking site).keysUrl account) storageVersion := rfl
  rw [whole, Dialogue.runs_map, keysRequest]
  simp only [runs_ask, keyOf]
  constructor
  · rintro ⟨v, ⟨answer, run, same⟩, last⟩
    exact ⟨answer, run, same ▸ last⟩
  · rintro ⟨answer, run, last⟩
    exact ⟨_, ⟨answer, run, rfl⟩, last⟩

end Client

end HookFlow.Azure
