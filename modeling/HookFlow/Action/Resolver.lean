import HookFlow.Action.Metadata
import HookFlow.Content.Source
import HookFlow.Reference
/-!
Resolving the actions that steps name.

Every `uses` text is looked up once. What is found is remembered under that very text for as long as
the cache lives, and a failure is not remembered. A text that is no reference to a published action
stands for an action that cannot be hosted, and that is remembered as well.
-/

namespace HookFlow.Action

/-- the actions found so far, by the `uses` text that named them; no text comes twice -/
abbrev Cache := List (String × Action)

/-- a computation that may fail and that keeps what it has found even then -/
abbrev Resolving (m : Type → Type) := ExceptT Failure (StateT Cache m)

variable {m : Type → Type} [Monad m]

/-- a computation without a cache -/
def Resolving.of {α : Type} (x : m (Except Failure α)) : Resolving m α :=
  ExceptT.mk (StateT.lift x)

/-- a computation whose failures get one more fact about where they happened -/
def Resolving.within {α : Type} (name value : String) (x : Resolving m α) : Resolving m α :=
  ExceptT.adapt (·.within name value) x

/-- how actions are looked up -/
structure Resolver (m : Type → Type) where
  source : Content.Source m
  supervisor : Supervisor m
  /-- the name of the file that describes an action -/
  metadataFile : String := "action.yml"

namespace Resolver

variable (r : Resolver m)

/-- reports an event -/
def note (message : String) (fields : List (String × Log.Value)) : Resolving m Unit :=
  Resolving.of (do
    r.supervisor.log { level := .debug, origin := .actions, message, fields }
    return .ok ())

/-- the bytes of a file of a published action -/
def fetch (reference : ActionReference) (path : String) : Resolving m Text.Bytes :=
  Resolving.of (r.supervisor.attempt Content.Fault.toFailure
    (r.source.file ⟨reference.owner, reference.repo⟩ path (some reference.gitRef)))

/-- the action with the source of its entry point, given the bytes of that file -/
def withSource (uses : String) (a : Action) (bytes : Text.Bytes) : Except Failure Action :=
  match Text.decode bytes with
  | .ok source => .ok { a with source }
  | .error fault => .error (notText uses a.main fault)

/-- a published action as its source describes it now -/
def look (uses : String) (reference : ActionReference) : Resolving m Action := do
  r.note "fetching action metadata" [("uses", .quoted uses), ("file", .bare r.metadataFile)]
  let raw ← (r.fetch reference r.metadataFile).within "uses" uses
  match ofMetadata? raw with
  | none => throw (malformed uses)
  | some a =>
    if a.isHostable then
      let bytes ← (r.fetch reference a.main).within "uses" uses
      MonadExcept.ofExcept (withSource uses a bytes)
    else return a

/-- the action that a `uses` text names -/
def resolve (uses : String) : Resolving m Action := do
  match (← get).lookup uses with
  | some a =>
    r.note "action metadata cache hit" [("uses", .quoted uses)]
    return a
  | none =>
    let a ← match ActionReference.parse? uses with
      | some reference => r.look uses reference
      | none => do
        r.note "unsupported action reference" [("uses", .quoted uses)]
        pure {}
    modify ((uses, a) :: ·)
    return a

end Resolver

end HookFlow.Action
