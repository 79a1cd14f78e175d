import HookFlow.Failure
import HookFlow.Log
/-!
Supervised calls.

A run calls collaborators: a source of content, a store for archives, a service that deploys. A
supervisor hears what happens and may cancel the run at any time. `Supervisor.attempt` is the only way
in which a run calls a collaborator: no call begins once the run is cancelled, and a call that is still
open when the cancellation comes is given up. A call that has its answer by then counts.
-/

namespace HookFlow

/-- what becomes of a call: it is answered, or it is still open when the run is cancelled -/
inductive Reply (ε α : Type) where
  | answered (result : Except ε α)
  | abandoned
  deriving Repr

/-- who may cancel a run, and who hears what happens in it -/
structure Supervisor (m : Type → Type) where
  /-- whether the run is cancelled -/
  cancelled : m Bool
  /-- reports an event -/
  log : Log.Event → m Unit

namespace Supervisor

/-- what a reply amounts to, with the collaborator's faults as failures -/
def settle {ε α : Type} (toFailure : ε → Failure) : Reply ε α → Except Failure α
  | .answered (.ok a) => .ok a
  | .answered (.error e) => .error (toFailure e)
  | .abandoned => .error .cancelled

/-- a call, unless the run is cancelled -/
def attempt {m : Type → Type} [Monad m] {ε α : Type} (s : Supervisor m) (toFailure : ε → Failure)
    (call : m (Reply ε α)) : m (Except Failure α) := do
  if ← s.cancelled then return .error .cancelled
  return settle toFailure (← call)

end Supervisor

end HookFlow
