import HookFlow.Converter
import HookFlow.Deployment.Cloud
/-!
Deploying a batch of flows.

Flows are deployed in order. A deployment that fails is reported and the next flow follows; a flow whose
deployment name an earlier flow of the batch has taken is reported as failed without any call. A flow
that cannot be packaged and a cancellation end the batch.
-/

namespace HookFlow

/-- what became of one flow of a batch -/
structure Report where
  flow : String
  outcome : Except Failure Deployed

/-- whether a flow was deployed -/
def Report.succeeded (r : Report) : Bool := r.outcome.toBool

namespace Deployment

/-- a deployment name that an earlier flow of the batch has taken -/
def collision (name owner : String) : Failure :=
  ((Failure.deployment s!"deployment name {name} is already used by {owner}").withCode
    "FSB-DEPLOY-003").within "deployment" name

end Deployment

/-- how a batch of flows is deployed -/
structure Batch (m : Type → Type) where
  converter : Converter
  deployer : Deployer m

namespace Batch

variable {m : Type → Type} [Monad m] (b : Batch m)

/-- reports an event about a flow -/
def report (level : Log.Level) (message flow : String) (fields : List (String × Log.Value)) :
    m Unit :=
  b.deployer.supervisor.log
    { level, origin := .pipeline, message, fields := ("workflow", .bare flow) :: fields }

/-- the archive of a flow, and reports of how it came about -/
def archive (flow : Flow) : m (Except Failure Archive) := do
  match b.converter.archive flow with
  | .error f => return .error (f.within "workflow" flow.name)
  | .ok a =>
    (flow.packagingEvents a).forM b.deployer.supervisor.log
    return .ok a

/-- what becomes of a flow whose deployment name is free; a failure here ends the batch -/
def convert (flow : Flow) : m (Except Failure Report) := do
  match ← b.archive flow with
  | .error f => return .error f
  | .ok archive =>
    match ← b.deployer.deploy flow.name archive with
    | .ok d =>
      b.report .info "workflow deployed" flow.name [("deployment", .bare d.deployment)]
      return .ok ⟨flow.name, .ok d⟩
    | .error f =>
      if f.endsBatch then return .error (f.within "workflow" flow.name)
      b.report .error "deployment failed, continuing" flow.name [("error", .bare f.text)]
      return .ok ⟨flow.name, .error f⟩

/-- what becomes of one flow, given the deployment names taken so far with their flows -/
def next (claimed : List (String × String)) (flow : Flow) : m (Except Failure Report) := do
  if ← b.deployer.supervisor.cancelled then return .error .cancelled
  let name := Deployment.name flow.name
  match claimed.lookup name with
  | some owner =>
    let f := Deployment.collision name owner
    b.report .error "deployment name collision, continuing" flow.name [("error", .bare f.text)]
    return .ok ⟨flow.name, .error f⟩
  | none => b.convert flow

/-- the deployment names taken behind a flow; the first flow keeps a name -/
def claim (claimed : List (String × String)) (flow : Flow) : List (String × String) :=
  let name := Deployment.name flow.name
  if (claimed.lookup name).isSome then claimed else (name, flow.name) :: claimed

/-- what becomes of some flows, given the deployment names taken so far -/
def deployFrom (claimed : List (String × String)) : List Flow → m (Except Failure (List Report))
  | [] => return .ok []
  | flow :: rest => do
    match ← b.next claimed flow with
    | .error f => return .error f
    | .ok r =>
      match ← deployFrom (claim claimed flow) rest with
      | .error f => return .error f
      | .ok rs => return .ok (r :: rs)

/-- what becomes of every flow of a batch, in order -/
def deployAll (flows : List Flow) : m (Except Failure (List Report)) :=
  match b.converter.validate flows with
  | .error f => return .error f
  | .ok () => b.deployFrom [] flows

end Batch

end HookFlow
