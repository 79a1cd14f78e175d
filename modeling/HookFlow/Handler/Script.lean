import HookFlow.Handler.Basic
import HookFlow.Handler.Filter
/-!
Handlers as source text for the function runtime.

The text is a list of lines. All checks and all steps stand inside one `try` block in a fixed order:
the signature, the gate, the ignored actors, the payload file, the steps, the final answer. A step
that throws turns into a response with status 500. Texts that come from outside are written as
string literals, but for the workflow's name and the steps' names, which also stand in comments.
-/

namespace HookFlow.Handler

open HookFlow.Text

/-- the lines in front of the handler function -/
def headLines (h : Handler) : List String := [
  "const fs = require('fs');",
  "const verify = require('@octokit/webhooks/verify');",
  "",
  "// Generated from " ++ h.origin,
  "const secret = " ++ quote h.secret ++ ";",
  "const ignoredActors = [" ++ ", ".intercalate (h.ignoredActors.map quote) ++ "];",
  ""]

/-- the assignment of a response -/
def responseLine (indent : String) (status : Nat) (body : String) : String :=
  indent ++ "context.res = \x7b status: " ++ toString status ++ ", body: " ++ quote body ++ " \x7d;"

/-- an answer that ends the handler -/
def refusalLines (status : Nat) (body : String) : List String :=
  [responseLine "      " status body, "      return;", "    \x7d", ""]

/-- the checks that a delivery has to pass, and the payload file -/
def checkLines (h : Handler) : List String :=
  ["    if (!verify(secret, req.body, req.headers['x-hub-signature'])) \x7b"] ++
  refusalLines 401 "Signature failed" ++
  ["    if (!" ++ filterName ++ "(req)) \x7b"] ++
  refusalLines 200 "ignored event" ++
  ["    const actor = req.body && req.body.sender ? req.body.sender.login : undefined;",
   "    if (ignoredActors.includes(actor)) \x7b"] ++
  refusalLines 200 "ignored actor" ++
  ["    const eventFile = " ++ quote h.eventPath ++ ";",
   "    fs.writeFileSync(eventFile, JSON.stringify(req.body));",
   "    process.env.GITHUB_EVENT_PATH = eventFile;",
   "    context.log('wrote event JSON, invoking steps');"]

/-- a character that a plain property name may start with -/
def isPropertyStart (c : Char) : Bool := c.isUpper || c == '_'

/-- a character that a plain property name may go on with -/
def isPropertyChar (c : Char) : Bool := c.isUpper || c.isDigit || c == '_'

/-- whether a variable can be written behind a dot -/
def isPlainProperty (key : String) : Bool :=
  match key.toList with
  | [] => false
  | c :: cs => isPropertyStart c && cs.all isPropertyChar

/-- the place of an environment variable: behind a dot where its name allows, else in brackets -/
def environmentPlace (key : String) : String :=
  if isPlainProperty key then "process.env." ++ key
  else "process.env[" ++ quote key ++ "]"

/-- the lines that run one step -/
def invocationLines (i : Invocation) : List String :=
  ["", "    // " ++ i.step] ++
  i.exports.map (fun e => "    " ++ environmentPlace e.1 ++ " = " ++ quote e.2 ++ ";") ++
  ["    delete require.cache[require.resolve(" ++ quote i.modulePath ++ ")];",
   "    await require(" ++ quote i.modulePath ++ ");",
   "    context.log(" ++ quote ("step " ++ i.step ++ " complete") ++ ");"]

/-- the final answer, and what happens to a step that throws -/
def tailLines : List String :=
  ["", responseLine "    " 200 "workflow complete",
   "  \x7d catch (e) \x7b",
   "    context.log(e);",
   "    context.log(e.stack);",
   "    context.res = \x7b",
   "      status: 500,",
   "      body: e.message,",
   "    \x7d;",
   "  \x7d",
   "\x7d;"]

/-- the lines of a handler -/
def lines (h : Handler) : List String :=
  h.headLines ++
  filterLines h.triggers ++
  ["", "module.exports = async function (context, req) \x7b", "  try \x7b"] ++
  h.checkLines ++
  h.invocations.flatMap invocationLines ++
  tailLines

/-- the source text of a handler -/
def source (h : Handler) : String :=
  linesText h.lines

end HookFlow.Handler
