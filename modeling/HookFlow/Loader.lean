import HookFlow.Action.Resolver
import HookFlow.Declaration
import HookFlow.Placeholder
/-!
Loading flows from a repository.

A workflow becomes a flow as a whole or not at all: the first job without steps, step whose action
cannot be hosted, or input with a foreign expression is an obstacle, and the workflow is passed over.
That is an expected outcome. A failure to list, fetch or decode, or a trigger declaration of an unknown
shape, ends the loading of all workflows.
-/

namespace HookFlow

open HookFlow.Action (Resolving)

/-- what stands in the way of converting a workflow -/
inductive Obstacle where
  | noJobs
  | noSteps (job : String)
  | unfitAction (job : String) (index : Nat) (uses : String)
  | expression (job : String) (index : Nat) (input : String)
  deriving DecidableEq, Repr

/-- the event that reports an obstacle -/
def Obstacle.event (workflow : String) : Obstacle → Log.Event
  | .noJobs =>
    { level := .info, origin := .loader, message := "Workflow has no jobs, skipping workflow",
      fields := [("workflow", .quoted workflow)] }
  | .noSteps job =>
    { level := .info, origin := .loader, message := "Job has no steps, skipping workflow",
      fields := [("workflow", .quoted workflow), ("job", .bare job)] }
  | .unfitAction job index uses =>
    { level := .info, origin := .loader, message := "Step is not compatible, skipping workflow",
      fields := [("workflow", .quoted workflow), ("job", .bare job), ("step", .count index),
        ("uses", .bare uses)] }
  | .expression job index input =>
    { level := .info, origin := .loader, message := "Step uses interpolation, skipping workflow",
      fields := [("workflow", .quoted workflow), ("job", .bare job), ("step", .count index),
        ("input", .bare input)] }

/-- which files are looked at, and which expression may stand in inputs -/
structure Loader.Settings where
  workflowsPath : String := ".github/workflows"
  metadataFile : String := "action.yml"
  placeholder : String := "$\x7b\x7b secrets.GITHUB_TOKEN \x7d\x7d"
  deriving DecidableEq, Repr

/-- how the flows of a repository are loaded -/
structure Loader (m : Type → Type) where
  source : Content.Source m
  supervisor : Supervisor m
  settings : Loader.Settings := {}

namespace Loader

variable {m : Type → Type} [Monad m] (l : Loader m)

/-- the resolver of the actions that steps name -/
def resolver : Action.Resolver m where
  source := l.source
  supervisor := l.supervisor
  metadataFile := l.settings.metadataFile

/-- reports an event -/
def log (e : Log.Event) : Resolving m Unit :=
  Resolving.of (do
    l.supervisor.log e
    return .ok ())

/-- reports an event that matters to few -/
def note (message : String) (fields : List (String × Log.Value)) : Resolving m Unit :=
  l.log { level := .debug, origin := .loader, message, fields }

/-- the name of a step of a flow -/
def stepName (job : String) (index : Nat) : String :=
  job ++ "-" ++ toString index

/-- the first input that holds an expression other than the placeholder -/
def foreignInput? (placeholder : String) (inputs : Inputs) : Option String :=
  (inputs.find? fun e => Placeholder.isUnsupported e.2 placeholder).map (·.1)

/-- one step of a job, unless it is an obstacle -/
def convertStep (workflow job : String) (index : Nat) (s : Workflow.Step) :
    Resolving m (Except Obstacle Step) := do
  let action ← l.resolver.resolve s.uses
  if !action.isHostable then return .error (.unfitAction job index s.uses)
  l.note "Compatible step detected"
    [("workflow", .quoted workflow), ("job", .bare job), ("step", .count index)]
  match foreignInput? l.settings.placeholder s.inputs with
  | some input => return .error (.expression job index input)
  | none =>
    return .ok { name := stepName job index, source := action.source, inputs := s.inputs }

/-- the steps of a job from number `index` on, up to the first obstacle -/
def convertSteps (workflow job : String) (index : Nat) :
    List Workflow.Step → Resolving m (Except Obstacle (List Step))
  | [] => return .ok []
  | s :: rest => do
    match ← l.convertStep workflow job index s with
    | .error o => return .error o
    | .ok step =>
      match ← convertSteps workflow job (index + 1) rest with
      | .error o => return .error o
      | .ok steps => return .ok (step :: steps)

/-- the steps of some jobs in one line, up to the first obstacle -/
def convertJobs (workflow : String) :
    List (String × Workflow.Job) → Resolving m (Except Obstacle (List Step))
  | [] => return .ok []
  | (name, job) :: rest => do
    if job.steps.isEmpty then return .error (.noSteps name)
    match ← l.convertSteps workflow name 0 job.steps with
    | .error o => return .error o
    | .ok steps =>
      l.log { level := .info, origin := .loader, message := "Node workflow detected, converting...",
              fields := [("workflow", .quoted workflow), ("job", .bare name)] }
      match ← convertJobs workflow rest with
      | .error o => return .error o
      | .ok more => return .ok (steps ++ more)

/-- the steps of a workflow, unless something stands in the way -/
def convert (name : String) (w : Workflow) : Resolving m (Except Obstacle (List Step)) :=
  if w.jobs.isEmpty then return .error .noJobs else l.convertJobs name w.jobs

/-- the flow that a workflow becomes, if it can be converted -/
def buildFlow (name : String) (w : Workflow) : Resolving m (Option Flow) := do
  match ← l.convert name w with
  | .error o =>
    l.log (o.event name)
    return none
  | .ok steps =>
    let triggers ← MonadExcept.ofExcept w.triggers
    return some { name, triggers, steps }

/-- whether a directory entry is a workflow file -/
def isWorkflowFile (e : Content.Entry) : Bool :=
  e.isFile && (".yml".toList.isSuffixOf e.name.toList || ".yaml".toList.isSuffixOf e.name.toList)

/-- the flow that a workflow file becomes, if it can be converted -/
def loadFile (repo : Repository) (e : Content.Entry) : Resolving m (Option Flow) := do
  l.note "Fetching workflow..." [("workflow", .bare e.name)]
  let raw ← Resolving.of (l.supervisor.attempt Content.Fault.toFailure
    (l.source.file repo e.path none))
  let workflow ← MonadExcept.ofExcept (Workflow.parse e.name raw)
  l.note "Fetched and parsed workflow" [("workflow", .bare e.name)]
  l.buildFlow e.name workflow

/-- the flows of some workflow files, in order -/
def loadFiles (repo : Repository) : List Content.Entry → Resolving m (List Flow)
  | [] => return []
  | e :: rest => do
    let flow? ← (l.loadFile repo e).within "workflow" e.path
    let flows ← loadFiles repo rest
    return flow?.toList ++ flows

/-- the entries of the workflows directory -/
def list (repo : Repository) : Resolving m (List Content.Entry) := do
  l.note "Listing workflows..."
    [("repo", .bare repo.render), ("path", .quoted l.settings.workflowsPath)]
  let entries ← (Resolving.of (l.supervisor.attempt Content.Fault.toFailure
    (l.source.list repo l.settings.workflowsPath))).within "repo" repo.render
  l.note "Listed workflows"
    [("repo", .bare repo.render), ("workflows", .count entries.length)]
  return entries

/-- all flows of a repository, in the order of the workflows directory -/
def load (repo : Repository) : Resolving m (List Flow) := do
  let entries ← l.list repo
  let flows ← l.loadFiles repo (entries.filter isWorkflowFile)
  l.log { level := .info, origin := .loader, message := "Loaded workflows",
          fields := [("repo", .bare repo.render), ("converted", .count flows.length)] }
  return flows

/-- whether the action that a `uses` text names can be hosted -/
def isEligible (uses : String) : Resolving m Bool := do
  l.note "Detecting node step..." [("uses", .quoted uses)]
  return (← l.resolver.resolve uses).isHostable

end Loader

end HookFlow
