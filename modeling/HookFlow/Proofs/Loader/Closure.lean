import HookFlow.Loader
/-!
Properties of everything that a loader does.

A loader is put together from few parts: reports, supervised calls of the source, resolutions, and results that
need nobody. A property that these parts have, and that is kept in sequence, is one of every loading. The walk
over workflows, jobs and steps is made here once for all such properties.

Results:
- `Closed.load`, `Closed.buildFlow`, `Closed.isEligible`: the calls of a loader have every closed property.
-/

namespace HookFlow

open HookFlow.Action (Resolving)

namespace Loader

variable {m : Type → Type} [Monad m]

/-- the parts of a loader have a property, and it is kept in sequence -/
structure Closed (l : Loader m) (P : {α : Type} → Resolving m α → Prop) : Prop where
  ofExcept {α : Type} (v : Except Failure α) : P (MonadExcept.ofExcept v : Resolving m α)
  bind {α β : Type} {x : Resolving m α} {f : α → Resolving m β} : P x → (∀ a, P (f a)) → P (x >>= f)
  within {α : Type} {x : Resolving m α} (name value : String) : P x → P (x.within name value)
  report {e : Log.Event} (own : e.origin = .loader) : P (l.log e)
  list (repo : Repository) (path : String) :
    P (Resolving.of (l.supervisor.attempt Content.Fault.toFailure (l.source.list repo path)))
  file (repo : Repository) (path : String) (gitRef : Option String) :
    P (Resolving.of (l.supervisor.attempt Content.Fault.toFailure (l.source.file repo path gitRef)))
  resolve (uses : String) : P (l.resolver.resolve uses)

namespace Closed

variable {l : Loader m} {P : {α : Type} → Resolving m α → Prop} (closed : Closed l P)
include closed

theorem pure {α : Type} (a : α) : P (Pure.pure a : Resolving m α) := closed.ofExcept (.ok a)

theorem after_report {β : Type} {e : Log.Event} {g : Unit → Resolving m β} (own : e.origin = .loader)
    (rest : P (g ())) : P (l.log e >>= g) :=
  closed.bind (closed.report own) fun _ => rest

theorem convertStep (workflow job : String) (index : Nat) (s : Workflow.Step) :
    P (l.convertStep workflow job index s) := by
  refine closed.bind (closed.resolve s.uses) fun action => ?_
  split
  · exact closed.pure _
  · refine closed.after_report rfl ?_
    split <;> exact closed.pure _

theorem convertSteps (workflow job : String) (index : Nat) (steps : List Workflow.Step) :
    P (l.convertSteps workflow job index steps) := by
  induction steps generalizing index with
  | nil => exact closed.pure _
  | cons s rest ih =>
    refine closed.bind (closed.convertStep workflow job index s) fun first => ?_
    cases first with
    | error o => exact closed.pure _
    | ok step =>
      refine closed.bind (ih (index + 1)) fun others => ?_
      cases others <;> exact closed.pure _

theorem convertJobs (workflow : String) (jobs : List (String × Workflow.Job)) :
    P (l.convertJobs workflow jobs) := by
  induction jobs with
  | nil => exact closed.pure _
  | cons j rest ih =>
    obtain ⟨name, job⟩ := j
    simp only [Loader.convertJobs]
    split
    · exact closed.pure _
    · refine closed.bind (closed.convertSteps workflow name 0 job.steps) fun first => ?_
      cases first with
      | error o => exact closed.pure _
      | ok steps =>
        refine closed.after_report rfl (closed.bind ih fun others => ?_)
        cases others <;> exact closed.pure _

theorem convert (name : String) (w : Workflow) : P (l.convert name w) := by
  simp only [Loader.convert]
  split
  · exact closed.pure _
  · exact closed.convertJobs name w.jobs

theorem buildFlow (name : String) (w : Workflow) : P (l.buildFlow name w) := by
  refine closed.bind (closed.convert name w) fun result => ?_
  cases result with
  | error o =>
    have own : (o.event name).origin = .loader := by cases o <;> rfl
    exact closed.after_report own (closed.pure _)
  | ok steps => exact closed.bind (closed.ofExcept w.triggers) fun triggers => closed.pure _

theorem loadFile (repo : Repository) (e : Content.Entry) : P (l.loadFile repo e) := by
  refine closed.after_report rfl (closed.bind (closed.file _ _ _) fun raw => ?_)
  refine closed.bind (closed.ofExcept _) fun workflow => closed.after_report rfl ?_
  exact closed.buildFlow e.name workflow

theorem loadFiles (repo : Repository) (entries : List Content.Entry) :
    P (l.loadFiles repo entries) := by
  induction entries with
  | nil => exact closed.pure _
  | cons e rest ih =>
    refine closed.bind (closed.within _ _ (closed.loadFile repo e)) fun flow? => ?_
    exact closed.bind ih fun flows => closed.pure _

theorem list_entries (repo : Repository) : P (l.list repo) := by
  refine closed.after_report rfl (closed.bind (closed.within _ _ (closed.list _ _)) fun entries => ?_)
  exact closed.after_report rfl (closed.pure entries)

theorem load (repo : Repository) : P (l.load repo) := by
  refine closed.bind (closed.list_entries repo) fun entries => ?_
  refine closed.bind (closed.loadFiles repo _) fun flows => ?_
  exact closed.after_report rfl (closed.pure flows)

theorem isEligible (uses : String) : P (l.isEligible uses) :=
  closed.after_report rfl (closed.bind (closed.resolve uses) fun a => closed.pure a.isHostable)

end Closed

end Loader

end HookFlow
