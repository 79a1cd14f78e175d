import HookFlow.Proofs.Converter
import HookFlow.Proofs.Deployment.Turns
import HookFlow.Proofs.Except
import HookFlow.Proofs.Ordered
/-!
Which failures end a batch, and how a failed deployment is reported.

Every way to fail has a category. A refused batch fails with `validation`, a flow that cannot be packed with
`packaging`, and what a service answers becomes a `deployment` failure, whatever it was before. Only a
cancellation stays what it is, so nothing else that a service answers ends a batch.

Results:
- `failureAt_tells`: a failure of a deployment tells of the failure underneath and names the deployment.
- `deployAll_failed`: a batch as a whole fails only by `validation`, `packaging` and `cancelled`.
- `deployAll_goesOn`: behind a failure of a deployment that a store answers, the batch goes on.
-/

namespace HookFlow

open History (calls)

/-! ## Flows that cannot be packed -/

theorem Archive.add_failed {a : Archive} {name : String} {bytes : Text.Bytes} {f : Failure}
    (failed : a.add name bytes = .error f) : f.category = .packaging := by
  simp only [Archive.add] at failed
  split at failed
  · cases failed
    rfl
  · cases failed

theorem Archive.addAll_failed {a : Archive} {entries : List (String × Text.Bytes)} {f : Failure}
    (failed : a.addAll entries = .error f) : f.category = .packaging := by
  induction entries generalizing a with
  | nil => cases failed
  | cons e rest ih =>
    rcases bind_eq_error.1 failed with here | ⟨a', -, later⟩
    · exact Archive.add_failed here
    · exact ih later

namespace Packager

variable {p : Packager} {f : Failure}

theorem addRuntimeFiles_failed {a : Archive} {names : List String}
    (failed : p.addRuntimeFiles a names = .error f) : f.category = .packaging := by
  induction names generalizing a with
  | nil => cases failed
  | cons name rest ih =>
    rcases bind_eq_error.1 failed with unread | ⟨bytes, -, more⟩
    · cases read : p.runtime.read name with
      | error fault =>
        rw [read] at unread
        cases unread
        rfl
      | ok bytes =>
        rw [read] at unread
        cases unread
    · rcases bind_eq_error.1 more with here | ⟨a', -, later⟩
      · exact Archive.add_failed here
      · exact ih later

theorem package_failed {handler : String} {flow : Flow} (failed : p.package handler flow = .error f) :
    f.category = .packaging := by
  rcases bind_eq_error.1 failed with lead | ⟨a₁, -, failed⟩
  · exact Archive.addAll_failed lead
  rcases bind_eq_error.1 failed with runtime | ⟨a₂, -, failed⟩
  · exact addRuntimeFiles_failed runtime
  rcases bind_eq_error.1 failed with modules | ⟨a₃, -, failed⟩
  · exact Archive.addAll_failed modules
  rcases bind_eq_error.1 failed with steps | ⟨a₄, -, proxies⟩
  · exact Archive.addAll_failed steps
  · exact Archive.add_failed proxies

end Packager

/-! ## Deployments that fail -/

/-- the failure `e` of the deployment `name` tells of the failure `g` at one of its stages -/
structure Failure.TellsOf (e : Failure) (stage name : String) (g : Failure) : Prop where
  category : e.category = .deployment
  names : e.context.lookup "deployment" = some name
  kept : g.category = .deployment → e = g.within "deployment" name
  wrapped : g.category ≠ .deployment →
    e.code = .fixed "FSB-DEPLOY-002" ∧ e.message = s!"{stage}: {g.message}" ∧ e.cause = some g.text

/-- **Whatever fails in a deployment is reported as its failure**, unless it is a cancellation. -/
theorem failureAt_tells (stage name : String) {g : Failure} (calm : g.category ≠ .cancelled) :
    (Deployment.failureAt stage name g).TellsOf stage name g := by
  by_cases own : g.category = .deployment
  · rw [failureAt_kept stage name (.inl own)]
    exact ⟨own, Ordered.lookup_putSorted _ _ _, fun _ => rfl, fun other => absurd own other⟩
  · have same : Deployment.failureAt stage name g = {
        category := .deployment, code := .fixed "FSB-DEPLOY-002", message := s!"{stage}: {g.message}"
        context := [("deployment", name)], cause := some g.text } := by
      simp [Deployment.failureAt, own, calm]
    rw [same]
    exact ⟨rfl, by simp, fun mine => absurd mine own, fun _ => ⟨rfl, rfl, rfl⟩⟩

/-- A failure of a deployment ends its batch only as a cancellation. -/
theorem failureAt_endsBatch {stage name : String} {g : Failure}
    (ends : (Deployment.failureAt stage name g).endsBatch = true) :
    (Deployment.failureAt stage name g).category = .cancelled := by
  by_cases cancelled : g.category = .cancelled
  · rw [failureAt_kept stage name (.inr cancelled)]
    exact cancelled
  · have own := (failureAt_tells stage name cancelled).category
    simp [Failure.endsBatch, own] at ends

/-! ## Batches that fail -/

section Batch

variable {converter : Converter} {container : String} {past flows : List Flow} {h : History} {f : Failure}

theorem Turn.failed {flow : Flow} (turn : Turn converter container past flow h (.error f)) :
    f.category = .packaging ∨ f.category = .cancelled := by
  cases turn with
  | cancelled => exact .inr rfl
  | @unpacked g _ unpacked _ =>
    have packaging : g.category = .packaging := Packager.package_failed unpacked
    exact .inl packaging
  | ended _ _ deploys ends =>
    right
    cases deploys with
    | unstored => exact failureAt_endsBatch ends
    | unkept => exact failureAt_endsBatch ends
    | unpointed => exact failureAt_endsBatch ends
    | refused => exact failureAt_endsBatch ends

theorem Turns.failed {r : Except Failure (List Report)} (turns : Turns converter container past flows h r)
    (failed : r = .error f) : f.category = .packaging ∨ f.category = .cancelled := by
  induction turns with
  | nil => cases failed
  | ended turn =>
    cases failed
    exact turn.failed
  | @cons _ _ _ _ _ _ rs _ _ ih =>
    cases rs with
    | ok reports => cases failed
    | error g => exact ih failed

/-- **How a batch fails as a whole**: it is refused before any call, a flow cannot be packed, or it is
cancelled. -/
theorem deployAll_failed (run : ((Batch.asking converter container).deployAll flows).Runs h (.error f)) :
    f.category = .validation ∧ calls h = [] ∨ f.category = .packaging ∨ f.category = .cancelled := by
  rcases deployAll_turns run with ⟨g, refused, same, rfl⟩ | ⟨-, turns⟩
  · cases same
    exact .inl ⟨Converter.validate_failed refused, rfl⟩
  · exact .inr (turns.failed rfl)

/-! ## Stores that fail -/

variable {c : Azure.Container} {blob contentType : String} {stored : Archive}

/-- A store that fails decides its deployment. -/
theorem Deploys.store_failed {flow : String} {archive : Archive} {o : Except Failure Deployed}
    (deploys : Deploys container flow archive h o) (met : ⟨.store c blob stored contentType, .answered (.error f)⟩ ∈ h) :
    o = .error (Deployment.failureAt "uploading code" (Deployment.name flow) f) := by
  have called : ⟨.store c blob stored contentType, .answered (.error f)⟩ ∈ calls h := List.mem_filter.2 ⟨met, rfl⟩
  cases deploys with
  | unstored _ none =>
    rw [none] at called
    cases called
  | unkept one failed =>
    rw [one, List.mem_singleton] at called
    cases called
    cases failed
    rfl
  | unpointed _ one =>
    rw [one, List.mem_singleton] at called
    cases called
  | refused two _ =>
    rw [two, List.mem_pair] at called
    rcases called with first | second
    · cases first
    · cases second
  | deployed two =>
    rw [two, List.mem_pair] at called
    rcases called with first | second
    · cases first
    · cases second

/-- A failure of a deployment that a store answers is the report of a turn. -/
theorem Turn.store_failed {flow : Flow} {r : Except Failure Report} (turn : Turn converter container past flow h r)
    (own : f.category = .deployment) (met : ⟨.store c blob stored contentType, .answered (.error f)⟩ ∈ h) :
    r = .ok ⟨flow.name, .error (f.within "deployment" flow.deploymentName)⟩ := by
  have uncalled (none : calls h = []) : False := by
    have called : ⟨.store c blob stored contentType, .answered (.error f)⟩ ∈ calls h := List.mem_filter.2 ⟨met, rfl⟩
    rw [none] at called
    cases called
  have kept : Deployment.failureAt "uploading code" (Deployment.name flow.name) f =
      f.within "deployment" flow.deploymentName := failureAt_kept _ _ (.inl own)
  cases turn with
  | cancelled _ none => exact (uncalled none).elim
  | collided _ none => exact (uncalled none).elim
  | unpacked _ _ none => exact (uncalled none).elim
  | told _ _ deploys stays =>
    rw [deploys.store_failed met, kept]
  | ended _ _ deploys ends =>
    obtain rfl := Except.error.inj (deploys.store_failed met)
    rw [kept] at ends
    exact absurd own (bne_iff_ne.1 ends)

/-- a batch that reports a failure of one of its flows and goes on with the flows behind it -/
def GoesOn (converter : Converter) (container : String) (past flows : List Flow) (h : History)
    (r : Except Failure (List Report)) (f : Failure) : Prop :=
  ∃ before flow after reports h₁ h₂ rest, flows = before ++ flow :: after ∧ h = h₁ ++ h₂ ∧
    reports.length = before.length ∧ Turns converter container (past ++ before ++ [flow]) after h₂ rest ∧
    r = rest.map (reports ++ ⟨flow.name, .error (f.within "deployment" flow.deploymentName)⟩ :: ·)

theorem Turns.goesOn {r : Except Failure (List Report)} (turns : Turns converter container past flows h r)
    (own : f.category = .deployment) (met : ⟨.store c blob stored contentType, .answered (.error f)⟩ ∈ h) :
    GoesOn converter container past flows h r f := by
  induction turns with
  | nil => cases met
  | ended turn => cases turn.store_failed own met
  | @cons past after flow part h report rs turn others ih =>
    rcases List.mem_append.1 met with here | later
    · cases turn.store_failed own here
      exact ⟨[], flow, after, [], part, h, rs, rfl, rfl, rfl, by simpa using others, rfl⟩
    · obtain ⟨before, flow', after', reports, h₁, h₂, rest, rfl, rfl, length, behind, rfl⟩ := ih later
      refine ⟨flow :: before, flow', after', report :: reports, part ++ h₁, h₂, rest, rfl, ?_, ?_, ?_, ?_⟩
      · rw [List.append_assoc]
      · rw [List.length_cons, List.length_cons, length]
      · simpa using behind
      · cases rest with
        | error g => rfl
        | ok reports' => rfl

/-- **Behind a failure of a deployment that a store answers, the batch goes on.** -/
theorem deployAll_goesOn {r : Except Failure (List Report)}
    (run : ((Batch.asking converter container).deployAll flows).Runs h r) (own : f.category = .deployment)
    (met : ⟨.store c blob stored contentType, .answered (.error f)⟩ ∈ h) :
    GoesOn converter container [] flows h r f := by
  rcases deployAll_turns run with ⟨_, _, _, rfl⟩ | ⟨-, turns⟩
  · cases met
  · exact turns.goesOn own met

end Batch

end HookFlow
