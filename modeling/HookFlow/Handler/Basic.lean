import HookFlow.Flow
import HookFlow.Placeholder
import HookFlow.Text.Capital
/-!
Handlers: what a generated function does with a delivery.

A handler knows the webhook secret, the actors it ignores, the triggers that gate it, the file that
receives the payload, and the steps it runs. A step is invoked by setting one environment variable
per input and then loading the step's module anew. `Handler.ofFlow` fixes all of that; how a handler
is written as source text is the business of `HookFlow.Handler.Script`.
-/

namespace HookFlow

/-- what a handler needs besides the flow, the secret and the token -/
structure Handler.Options where
  /-- deliveries caused by these actors are acknowledged and ignored -/
  ignoredActors : List String := ["github-actions[bot]"]
  /-- where the payload is written for the steps to read -/
  eventPath : String := "/tmp/eventPayload.json"
  /-- the input value that stands for the token -/
  placeholder : String := "$\x7b\x7b secrets.GITHUB_TOKEN \x7d\x7d"
  deriving DecidableEq, Repr

/-- how a handler runs one step -/
structure Handler.Invocation where
  /-- the name of the step -/
  step : String
  /-- the environment variables that are set, in order, with their values -/
  exports : List (String × String)
  /-- the path of the step's module as the handler loads it -/
  modulePath : String
  deriving DecidableEq, Repr

/-- what a generated function does with a delivery -/
structure Handler where
  /-- the workflow file that the handler was made from -/
  origin : String
  secret : String
  ignoredActors : List String
  triggers : List Trigger
  eventPath : String
  invocations : List Handler.Invocation
  deriving DecidableEq, Repr

namespace Handler

/-- step modules lie at the root of the archive, one level above the handler -/
def moduleDirectory : String := ".."

/-- The environment variable that a step reads an input from: `my token` is found in
`INPUT_MY_TOKEN`. Blanks at the ends do not count, and inside only the space becomes `_`. -/
def inputVariable (input : String) : String :=
  let spaced := (Text.trimChars input.toList).map fun c => if c = ' ' then '_' else c
  "INPUT_" ++ Text.toUpper (String.ofList spaced)

/-- the value that a step gets for an input: the token in place of the placeholder -/
def inputValue (token placeholder value : String) : String :=
  if Placeholder.isToken value placeholder then token else value

/-- how a step of a flow is run -/
def invocation (token placeholder : String) (s : Step) : Invocation where
  step := s.name
  exports := s.inputs.map fun e => (inputVariable e.1, inputValue token placeholder e.2)
  modulePath := moduleDirectory ++ "/" ++ s.filename

/-- the handler of a flow -/
def ofFlow (secret token : String) (options : Options) (flow : Flow) : Handler where
  origin := flow.name
  secret := secret
  ignoredActors := options.ignoredActors
  triggers := flow.triggers
  eventPath := options.eventPath
  invocations := flow.steps.map (invocation token options.placeholder)

end Handler

end HookFlow
