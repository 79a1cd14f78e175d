import HookFlow.Failure
import HookFlow.Yaml.Read
/-!
Actions: what an action says about itself, as far as conversion looks at it.

Only actions for one runtime can be hosted, and only if their entry point is bundled into a single
file; bundles lie in a directory of their own.
-/

namespace HookFlow

/-- what an action says about how it runs, with the source of its entry point -/
structure Action where
  /-- the runtime that the action asks for -/
  runtime : String := ""
  /-- the path of the entry point -/
  main : String := ""
  /-- the source of the entry point; empty unless the action can be hosted -/
  source : String := ""
  deriving DecidableEq, Repr

namespace Action

open Yaml (Node Document Reader)

/-- the runtime that can host an action unmodified -/
def hostedRuntime : String := "node12"

/-- bundled entry points have paths that start like this -/
def bundleRoot : String := "dist/"

/-- whether an action can be hosted -/
def isHostable (a : Action) : Bool :=
  a.runtime == hostedRuntime && bundleRoot.toList.isPrefixOf a.main.toList

/-- the reader of the `runs` part -/
def readRuns (d : Document) : Node → Reader Action :=
  d.record {} [
    ("using", fun a n => do return { a with runtime := ← d.text n }),
    ("main", fun a n => do return { a with main := ← d.text n })]

/-- the reader of action metadata -/
def reader (d : Document) : Node → Reader Action :=
  d.record {} [("runs", fun _ n => readRuns d n)]

/-- the action that a metadata file describes, without its source -/
def ofMetadata? (bytes : Text.Bytes) : Option Action :=
  let d := Document.ofBytes bytes
  (d.read (reader d)).toOption

/-- the metadata of the action `uses` is malformed -/
def malformed (uses : String) : Failure :=
  .decode s!"decoding action metadata for {uses}: malformed document"

/-- the entry point of the action `uses` is no text -/
def notText (uses main : String) (fault : Text.Utf8Fault) : Failure :=
  .decode s!"action entry point {main} for {uses} is not UTF-8: {fault.message}"

end Action

end HookFlow
