import HookFlow.Trigger
import HookFlow.Hash.Sha256
import HookFlow.Json.Basic
/-!
Flows: workflows that can run as one HTTP function.

A flow has the triggers of its workflow and the steps of all jobs in one line. Each step carries the
source of its action and its own inputs. Steps with the same source share a module file, which is
named by the digest of the source.
-/

namespace HookFlow

/-- named texts in the order of the workflow; no name comes twice -/
abbrev Inputs := List (String × String)

/-- one step of a flow -/
structure Step where
  /-- the job's name, a hyphen and the step's number in the job -/
  name : String
  /-- the source of the action that the step runs -/
  source : String := ""
  inputs : Inputs := []
  deriving DecidableEq, Repr

namespace Step

/-- the digest of the source in hexadecimal, shared by steps with the same source -/
def digest (s : Step) : String :=
  Hash.hex (Hash.sha256 (Text.encode s.source))

/-- the name of the packaged module of a step -/
def filename (s : Step) : String :=
  s.digest ++ ".js"

end Step

/-- a workflow that can run as one HTTP function -/
structure Flow where
  /-- the name of the workflow file -/
  name : String
  triggers : List Trigger
  steps : List Step
  deriving DecidableEq, Repr

/-- whether any trigger of the flow takes a delivery -/
def Flow.accepts (f : Flow) (event : String) (action : Option String) : Bool :=
  f.triggers.any (·.accepts event action)

/-! ## The JSON form

A step with an empty source is written without one; on reading, a trigger may leave out its actions
and a step its source and its inputs. -/

def Trigger.toJson (t : Trigger) : Json :=
  .object [("event", .text t.event), ("actions", .list (t.actions.map .text))]

def Step.toJson (s : Step) : Json :=
  let source := if s.source.isEmpty then [] else [("source_code", Json.text s.source)]
  .object ([("name", .text s.name)] ++ source ++
    [("inputs", .object (s.inputs.map fun e => (e.1, .text e.2)))])

def Flow.toJson (f : Flow) : Json :=
  .object [("name", .text f.name), ("triggers", .list (f.triggers.map Trigger.toJson)),
    ("steps", .list (f.steps.map Step.toJson))]

def Trigger.ofJson? (v : Json) : Option Trigger := do
  match ← v.record? ["event", "actions"] with
  | [event, actions] =>
    let event ← Json.required Json.text? event
    let actions ← Json.withDefault [] (fun v => do (← v.list?).mapM Json.text?) actions
    return ⟨event, actions⟩
  | _ => none

/-- named texts from the members of an object -/
def Inputs.ofJson? : Json → Option Inputs
  | .object members => do
    let entries ← members.mapM fun m => do return (m.1, ← m.2.text?)
    return Ordered.ofEntries entries
  | _ => none

def Step.ofJson? (v : Json) : Option Step := do
  match ← v.record? ["name", "source_code", "inputs"] with
  | [name, source, inputs] =>
    let name ← Json.required Json.text? name
    let source ← Json.withDefault "" Json.text? source
    let inputs ← Json.withDefault [] Inputs.ofJson? inputs
    return ⟨name, source, inputs⟩
  | _ => none

def Flow.ofJson? (v : Json) : Option Flow := do
  match ← v.record? ["name", "triggers", "steps"] with
  | [name, triggers, steps] =>
    let name ← Json.required Json.text? name
    let triggers ← Json.required (fun v => do (← v.list?).mapM Trigger.ofJson?) triggers
    let steps ← Json.required (fun v => do (← v.list?).mapM Step.ofJson?) steps
    return ⟨name, triggers, steps⟩
  | _ => none

end HookFlow
