import HookFlow.Failure
import HookFlow.Flow
import HookFlow.Yaml.Read
/-!
Workflow files, as far as conversion looks at them.

A workflow declares its triggers and has named jobs; a job has steps; a step may name the action that
it uses and give it inputs. Inputs are texts to an action, so a number, a truth value and a null in
their place are read as texts; anything else is a fault of its own.
-/

namespace HookFlow

/-- a step as the workflow writes it -/
structure Workflow.Step where
  /-- the action of the step; empty if the step runs a command -/
  uses : String := ""
  inputs : Inputs := []
  deriving DecidableEq, Repr

/-- a job: steps that run one after another -/
structure Workflow.Job where
  steps : List Workflow.Step := []
  deriving DecidableEq, Repr

/-- a workflow file -/
structure Workflow where
  /-- what the file declares as its triggers, still untyped -/
  declared : Yaml.Value := .null
  /-- the jobs with their names, in the order of the file; no name comes twice -/
  jobs : List (String × Workflow.Job) := []

namespace Workflow

open Yaml (Node Document Reader Value)

/-- the text of an input, if the input is a scalar -/
def inputText? : Value → Option String
  | .text s => some s
  | .number n => some n.render
  | .bool b => some (toString b)
  | .null => some ""
  | _ => none

/-- inputs from untyped values; the first one that is no scalar is a fault -/
def inputsOf (raw : List (String × Value)) : Except Yaml.Fault Inputs :=
  raw.mapM fun e =>
    match inputText? e.2 with
    | some s => .ok (e.1, s)
    | none => .error (.notScalar e.1)

/-- how deep an untyped part of the document may nest that lies in `n` collections -/
def depthBelow (n : Nat) : Nat := Yaml.depthLimit - n

/-- the reader of inputs, which lie six collections deep -/
def readInputs (d : Document) (n : Node) : Reader Inputs := do
  let raw ← d.optionalDictionary (depthBelow 6) n
  match inputsOf raw with
  | .ok inputs => return inputs
  | .error f => throw f

/-- the reader of a step -/
def readStep (d : Document) : Node → Reader Step :=
  d.record {} [
    ("uses", fun s n => do return { s with uses := ← d.text n }),
    ("with", fun s n => do return { s with inputs := ← readInputs d n })]

/-- the reader of a job -/
def readJob (d : Document) : Node → Reader Job :=
  d.record {} [("steps", fun j n => do return { j with steps := ← d.sequence (readStep d) n })]

/-- the reader of a workflow -/
def reader (d : Document) : Node → Reader Workflow :=
  d.record {} [
    ("on", fun w n => do return { w with declared := ← d.value (depthBelow 1) n }),
    ("jobs", fun w n => do return { w with jobs := ← d.dictionary (readJob d) n })]

/-- the wording of a fault -/
def faultText : Yaml.Fault → String
  | .malformed => "malformed document"
  | .notScalar input => s!"input `{input}` must be a scalar"

/-- the workflow that the bytes of the file `name` hold -/
def parse (name : String) (bytes : Text.Bytes) : Except Failure Workflow :=
  let d := Document.ofBytes bytes
  match d.read (reader d) with
  | .ok w => .ok w
  | .error fault =>
    let text := faultText fault
    .error { category := .decode, code := .fixed "FSB-DECODE-002",
             message := s!"decoding workflow {name}: {text}", cause := some text }

end Workflow

end HookFlow
