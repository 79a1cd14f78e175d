import HookFlow.Trigger
import HookFlow.Text.Quoted
/-!
The gate of a handler as source text: a function that answers whether a delivery matches a trigger.

Each trigger becomes one `if` on the event header. With actions it holds a `switch` whose cases share
one `return true`; a delivery that meets no case falls out of the `switch` and goes on to the next
trigger. Triggers and actions appear in their own order, repeated ones included.
-/

namespace HookFlow.Handler

open HookFlow.Text

/-- lines as one text, each with its line end -/
def linesText (lines : List String) : String :=
  String.ofList (lines.flatMap fun l => l.toList ++ ['\n'])

/-- the name of the gate function -/
def filterName : String := "filterEvent"

/-- the lines inside a trigger's `if` -/
def actionLines : List String → List String
  | [] => ["    return true;"]
  | actions =>
    ["    switch (req.body.action) \x7b"] ++
    actions.map (fun a => "      case " ++ quote a ++ ":") ++
    ["        return true;", "    \x7d"]

/-- the lines of one trigger -/
def gateLines (t : Trigger) : List String :=
  ["  if (req.headers['x-github-event'] === " ++ quote t.event ++ ") \x7b"] ++
  actionLines t.actions ++
  ["  \x7d"]

/-- the lines of the gate function -/
def filterLines (triggers : List Trigger) : List String :=
  ["const " ++ filterName ++ " = (req) => \x7b"] ++
  triggers.flatMap gateLines ++
  ["  return false;", "\x7d;"]

/-- the source of the gate function -/
def filterSource (triggers : List Trigger) : String :=
  linesText (filterLines triggers)

end HookFlow.Handler
