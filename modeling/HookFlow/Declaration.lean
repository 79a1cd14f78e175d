import HookFlow.Workflow
/-!
Trigger declarations: which shapes the `on` of a workflow may have.

A declaration is the name of one event, or a mapping from events to details. Only the `types` of the
details count; without them an event is taken whatever its action. Every other shape is a fault, and of
several faults the first in the order of the document is reported.
-/

namespace HookFlow

open Yaml (Value)

/-- a trigger declaration -/
inductive Declaration where
  | event (name : String)
  /-- events with the actions that count, in the order of the document -/
  | events (entries : List (String × List String))
  deriving DecidableEq, Repr

/-- why a value declares no triggers; each fault tells the kind of value that stands in the way -/
inductive Declaration.Fault where
  | declaration (kind : String)
  | eventKey (kind : String)
  | types (event kind : String)
  | typesEntry (event kind : String)
  deriving DecidableEq, Repr

namespace Declaration

/-- the wording of a fault -/
def Fault.message : Fault → String
  | .declaration kind => s!"unexpected `on` type: {kind}"
  | .eventKey kind => s!"unexpected `on` event key: {kind}"
  | .types name kind => s!"unexpected `{name}.types` type: {kind}"
  | .typesEntry name kind => s!"unexpected `{name}.types` entry: {kind}"

/-- one action of an event -/
def action (name : String) (v : Value) : Except Fault String :=
  match v.text? with
  | some a => .ok a
  | none => .error (.typesEntry name v.kind)

/-- the actions that the details of an event name -/
def actions (name : String) (details : Value) : Except Fault (List String) :=
  match (details.entries?.getD []).find? (·.1.isText "types") with
  | none => .ok []
  | some (_, .text a) => .ok [a]
  | some (_, .sequence items) => items.mapM (action name)
  | some (_, v) => .error (.types name v.kind)

/-- one event with its actions -/
def entry (e : Value × Value) : Except Fault (String × List String) :=
  match e.1.text? with
  | some name => (actions name e.2).map fun as => (name, as)
  | none => .error (.eventKey e.1.kind)

/-- the declaration that a value makes -/
def ofValue : Value → Except Fault Declaration
  | .text name => .ok (.event name)
  | .mapping entries => (entries.mapM entry).map .events
  | v => .error (.declaration v.kind)

/-- the triggers of a declaration, in the order of the document -/
def triggers : Declaration → List Trigger
  | .event name => [⟨name, []⟩]
  | .events entries => entries.map fun e => ⟨e.1, e.2⟩

end Declaration

namespace Workflow

/-- the trigger declaration of a workflow -/
def declaration (w : Workflow) : Except Failure Declaration :=
  (Declaration.ofValue w.declared).mapError fun f => .unrecognizedShape f.message

/-- the triggers of a workflow -/
def triggers (w : Workflow) : Except Failure (List Trigger) :=
  w.declaration.map Declaration.triggers

end Workflow

end HookFlow
