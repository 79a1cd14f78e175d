import HookFlow.Config.Basic
import HookFlow.Handler.Script
import HookFlow.Log
import HookFlow.Package.Zip
/-!
Turning flows into archives.

A converter knows the webhook secret, the token, how handlers are generated and how archives are made.
Before a batch is converted it is checked that its handlers could serve: the secret must not be blank,
and if some input stands for the token there must be one.
-/

namespace HookFlow

/-- the steps of a flow whose module an earlier step has brought into the archive -/
def Flow.repeatedSteps (f : Flow) : List Step :=
  go [] f.steps
where
  /-- the same, given the modules that are there already -/
  go (seen : List String) : List Step → List Step
    | [] => []
    | s :: rest =>
      if seen.contains s.filename then s :: go seen rest else go (s.filename :: seen) rest

/-- what is reported about the archive of a flow -/
def Flow.packagingEvents (f : Flow) (a : Archive) : List Log.Event :=
  let event (message : String) (fields : List (String × Log.Value)) : Log.Event :=
    { level := .debug, origin := .package, message, fields }
  (f.repeatedSteps.map fun s => event "step source already packaged"
      [("step", .bare s.name), ("file", .bare s.filename)])
    ++ [event "packaged function archive" [("flow", .bare f.name), ("bytes", .count a.zipSize)]]

/-- how flows are turned into archives -/
structure Converter where
  secret : String
  token : String
  options : Handler.Options := {}
  packager : Packager

namespace Converter

/-- a blank webhook secret -/
def missingSecret : Failure :=
  (Failure.validation
    "codegen.webhook_secret (or FSB_WEBHOOK_SECRET) is required to generate handlers").withCode
    "FSB-CONFIG-001"

/-- refuses a blank webhook secret -/
def checkSecret (c : Converter) : Except Failure Unit :=
  if Text.allBlank c.secret then .error missingSecret else .ok ()

/-- the converter of a configuration, with the runtime that is there -/
def ofConfig (config : Config) (runtime : Runtime) : Except Failure Converter :=
  let c : Converter := {
    secret := config.codegen.webhookSecret
    token := config.github.token.getD ""
    options := config.codegen.options
    packager := { runtime, functionName := config.package.functionName } }
  c.checkSecret.map fun _ => c

/-- an input that stands for a token that is not there -/
def missingToken (workflow step input : String) : Failure :=
  ((Failure.validation
    s!"input `{input}` of step {step} needs github.token (or GITHUB_TOKEN)").withCode
    "FSB-CONFIG-002").within "workflow" workflow

/-- the first step of a flow that needs the token, with its input -/
def tokenNeed? (placeholder : String) (f : Flow) : Option (String × String) :=
  f.steps.findSome? fun s =>
    (s.inputs.find? fun e => Placeholder.isToken e.2 placeholder).map fun e => (s.name, e.1)

/-- refuses flows that need a token that is not there -/
def checkToken (c : Converter) (flows : List Flow) : Except Failure Unit :=
  let need? := flows.findSome? fun f =>
    (tokenNeed? c.options.placeholder f).map fun n => missingToken f.name n.1 n.2
  match need? with
  | some f => .error f
  | none => .ok ()

/-- refuses a batch that the generated handlers could not serve -/
def validate (c : Converter) (flows : List Flow) : Except Failure Unit := do
  c.checkSecret
  if Text.allBlank c.token then c.checkToken flows

/-- the source of a flow's handler -/
def entrypoint (c : Converter) (f : Flow) : String :=
  (Handler.ofFlow c.secret c.token c.options f).source

/-- the archive of a flow -/
def archive (c : Converter) (f : Flow) : Except Failure Archive :=
  c.packager.package (c.entrypoint f) f

end Converter

end HookFlow
