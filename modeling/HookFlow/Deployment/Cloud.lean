import HookFlow.Azure.Sas
import HookFlow.Deployment.Name
import HookFlow.Deployment.Template
import HookFlow.Flow
import HookFlow.Package.Archive
import HookFlow.Supervisor
/-!
Deploying one flow.

The archive of a flow is stored as a blob, and then a deployment is pointed at the link to it. Whatever
goes wrong at either stage is a failure of this flow's deployment, unless the run was cancelled.
-/

namespace HookFlow

open Azure (Container)

/-- the services that a deployment needs -/
structure Cloud (m : Type → Type) where
  /-- stores an archive as a blob; the answer is a link to read it -/
  store (c : Container) (blob : String) (archive : Archive) (contentType : String) :
    m (Reply Failure String)
  /-- applies a template under a name; the answer is the identifier of the deployment -/
  deploy (name : String) (template parameters : Json) : m (Reply Failure String)
  /-- tells the time -/
  now : m Instant

/-- a flow that has been deployed -/
structure Deployed where
  flow : String
  deployment : String
  blobUrl : String
  id : String
  deriving DecidableEq, Repr

/-- how flows are deployed -/
structure Deployer (m : Type → Type) where
  cloud : Cloud m
  supervisor : Supervisor m
  /-- the container that archives are stored in -/
  container : String

namespace Deployment

/-- what archives are -/
def contentType : String := "application/zip"

/-- a collaborator's failure as one of this deployment; a cancellation stays one -/
def failureAt (stage name : String) (f : Failure) : Failure :=
  if f.category = .deployment ∨ f.category = .cancelled then f.within "deployment" name
  else
    { category := .deployment, code := .fixed "FSB-DEPLOY-002",
      message := s!"{stage}: {f.message}", context := [("deployment", name)],
      cause := some f.text }

/-- the name of the blob that is stored at a time -/
def blobName (t : Instant) : String := t.stamp ++ ".zip"

end Deployment

namespace Deployer

variable {m : Type → Type} [Monad m] (d : Deployer m)

/-- reports an event -/
def report (level : Log.Level) (message : String) (fields : List (String × Log.Value)) : m Unit :=
  d.supervisor.log { level, origin := .deploy, message, fields }

/-- stores the archive of a flow; the answer is the link to it -/
def store (name : String) (archive : Archive) : m (Except Failure String) := do
  let blob := Deployment.blobName (← d.cloud.now)
  d.report .debug "uploading zip package" [("deployment", .bare name), ("blob", .bare blob)]
  let r ← d.supervisor.attempt id
    (d.cloud.store ⟨name, d.container⟩ blob archive Deployment.contentType)
  return r.mapError (Deployment.failureAt "uploading code" name)

/-- points a deployment at the archive of a flow; the answer is the identifier of the deployment -/
def point (flow name blobUrl : String) : m (Except Failure String) := do
  d.report .debug "Updating function deployment..." [("deployment", .bare name)]
  let r ← d.supervisor.attempt id
    (d.cloud.deploy name Deployment.template (Deployment.parameters flow name blobUrl))
  return r.mapError (Deployment.failureAt "deploying function" name)

/-- deploys a flow with its archive -/
def deploy (flow : String) (archive : Archive) : m (Except Failure Deployed) := do
  let name := Deployment.name flow
  match ← d.store name archive with
  | .error f => return .error f
  | .ok blobUrl =>
    match ← d.point flow name blobUrl with
    | .error f => return .error f
    | .ok id =>
      d.report .info "Check it out now" [("deployment", .bare name), ("deploy_id", .bare id)]
      return .ok { flow, deployment := name, blobUrl, id }

end Deployer

end HookFlow
