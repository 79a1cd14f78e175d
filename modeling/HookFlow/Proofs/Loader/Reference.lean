import HookFlow.Proofs.Action.Cache
import HookFlow.Proofs.Loader.Closure
/-!
Loading a repository, with a cache and without one.

The reference lists the workflows directory once and converts each listed workflow file with a resolver that
has seen nothing. A loader shares one cache among the steps of a file, the files of a repository and all the
calls of its life. Over content that does not change every state of that cache is tied to the content, whatever
calls came before and however they were cancelled or failed, so the two agree.

Results:
- `reached_tied`: every cache that calls of a loader lead to is tied to the content.
- `load_eq_reference`: loading from such a cache comes to the result of the reference.
-/

namespace HookFlow

open HookFlow.Action (Cache Resolving)

/-! ## The reference -/

namespace Content.Fixed

variable (f : Content.Fixed) (settings : Loader.Settings) (repo : Repository)

/-- the flow that a workflow file becomes when it is converted on its own -/
def convertAlone (e : Content.Entry) : Except Failure (Option Flow) :=
  Except.mapError (·.within "workflow" e.path) do
    let raw ← (f.file repo e.path none).mapError Content.Fault.toFailure
    let workflow ← Workflow.parse e.name raw
    f.alone ((Loader.asking settings).buildFlow e.name workflow)

/-- the flows of a repository, each file converted on its own, up to the first failure -/
def reference : Except Failure (List Flow) := do
  let entries ← ((f.list repo settings.workflowsPath).mapError Content.Fault.toFailure).mapError
    (·.within "repo" repo.render)
  let converted := (entries.filter Loader.isWorkflowFile).mapM (f.convertAlone settings repo)
  converted.map List.reduceOption

end Content.Fixed

/-- the caches that a loader of fixed content can have after some calls, each one cancelled at any time or
not at all -/
inductive Reached (f : Content.Fixed) (settings : Loader.Settings) : Cache → Prop where
  | fresh : Reached f settings []
  | load {c c' : Cache} {h : History} {r : Except Failure (List Flow)} (repo : Repository) :
      Reached f settings c → f.Admits h → Resolves ((Loader.asking settings).load repo) c h r c' →
      Reached f settings c'
  | build {c c' : Cache} {h : History} {r : Except Failure (Option Flow)} (name : String) (w : Workflow) :
      Reached f settings c → f.Admits h → Resolves ((Loader.asking settings).buildFlow name w) c h r c' →
      Reached f settings c'
  | eligible {c c' : Cache} {h : History} {r : Except Failure Bool} (uses : String) :
      Reached f settings c → f.Admits h → Resolves ((Loader.asking settings).isEligible uses) c h r c' →
      Reached f settings c'
  | resolve {c c' : Cache} {h : History} {r : Except Failure Action} (uses : String) :
      Reached f settings c → f.Admits h → Resolves ((Loader.asking settings).resolver.resolve uses) c h r c' →
      Reached f settings c'

/-! ## What the parts of a loader yield -/

section

variable {f : Content.Fixed} {settings : Loader.Settings}

/-- whether a computation comes to one result from every tied cache -/
def Steady {α : Type} (f : Content.Fixed) (settings : Loader.Settings) (x : Resolving Scene α) : Prop :=
  ∃ v, Yields f settings.metadataFile x v

theorem Yields.steady {α : Type} {x : Resolving Scene α} {v : Except Failure α}
    (hx : Yields f settings.metadataFile x v) : Steady f settings x := ⟨v, hx⟩

theorem Steady.bind {α β : Type} {x : Resolving Scene α} {g : α → Resolving Scene β}
    (hx : Steady f settings x) (hg : ∀ a, Steady f settings (g a)) : Steady f settings (x >>= g) := by
  obtain ⟨v, hv⟩ := hx
  exact ⟨v >>= fun a => (hg a).choose, yields_bind hv fun a => (hg a).choose_spec⟩

theorem Steady.yields {α : Type} {x : Resolving Scene α} (hx : Steady f settings x) :
    Yields f settings.metadataFile x (f.alone x) := by
  obtain ⟨v, hv⟩ := hx
  rw [hv.alone_eq]
  exact hv

theorem steady_closed : Loader.Closed (.asking settings) (Steady f settings) where
  ofExcept v := (yields_ofExcept v).steady
  bind := Steady.bind
  within name value := fun ⟨_, hv⟩ => (yields_within hv name value).steady
  report {e} _ := (yields_report e).steady
  list repo path := (yields_list repo path).steady
  file repo path gitRef := (yields_file repo path gitRef).steady
  resolve uses := (resolve_yields uses).steady

theorem loadFile_yields (repo : Repository) (e : Content.Entry) :
    Yields f settings.metadataFile (((Loader.asking settings).loadFile repo e).within "workflow" e.path)
      (f.convertAlone settings repo e) := by
  refine yields_within (yields_after_report (yields_bind (yields_file _ _ _) fun raw => ?_)) _ _
  refine yields_bind (yields_ofExcept _) fun workflow => yields_after_report ?_
  exact (steady_closed.buildFlow e.name workflow).yields

theorem list_yields (repo : Repository) :
    Yields f settings.metadataFile ((Loader.asking settings).list repo)
      (((f.list repo settings.workflowsPath).mapError Content.Fault.toFailure).mapError
        (·.within "repo" repo.render)) := by
  rw [← bind_pure (Except.mapError _ _)]
  refine yields_after_report (yields_bind (yields_within (yields_list _ _) _ _) fun entries => ?_)
  exact yields_after_report (yields_pure entries)

/-- The flow of the first file stands in front of the flows of the others. -/
theorem map_reduceOption_mapM_cons {α β : Type} (g : α → Except Failure (Option β)) (a : α) (rest : List α) :
    ((a :: rest).mapM g).map List.reduceOption =
      g a >>= fun b? => (rest.mapM g).map List.reduceOption >>= fun bs => .ok (b?.toList ++ bs) := by
  rw [List.mapM_cons]
  cases g a with
  | error _ => rfl
  | ok b? => cases rest.mapM g <;> cases b? <;> rfl

theorem loadFiles_yields (repo : Repository) (entries : List Content.Entry) :
    Yields f settings.metadataFile ((Loader.asking settings).loadFiles repo entries)
      ((entries.mapM (f.convertAlone settings repo)).map List.reduceOption) := by
  induction entries with
  | nil => exact yields_pure []
  | cons e rest ih =>
    rw [map_reduceOption_mapM_cons]
    exact yields_bind (loadFile_yields repo e)
      fun flow? => yields_bind ih fun flows => yields_pure (flow?.toList ++ flows)

theorem load_yields (repo : Repository) :
    Yields f settings.metadataFile ((Loader.asking settings).load repo) (f.reference settings repo) := by
  refine yields_bind (list_yields repo) fun entries => ?_
  rw [← bind_pure (Except.map _ _)]
  refine yields_bind (loadFiles_yields repo _) fun flows => ?_
  exact yields_after_report (yields_pure flows)

/-! ## Any cache that a loader can have -/

theorem reached_tied {c : Cache} (reached : Reached f settings c) : Tied f settings.metadataFile c := by
  induction reached with
  | fresh => exact tied_nil f settings.metadataFile
  | load repo _ admits run tied => exact (load_yields repo _ _ _ _ tied admits run).1
  | build name w _ admits run tied => exact ((steady_closed.buildFlow name w).yields _ _ _ _ tied admits run).1
  | eligible uses _ admits run tied => exact ((steady_closed.isEligible uses).yields _ _ _ _ tied admits run).1
  | resolve uses _ admits run tied => exact (resolve_yields uses _ _ _ _ tied admits run).1

end

/-- **The cache never shows.** Over content that does not change, and whatever calls of the loader came before,
loading a repository without a cancellation comes to the result of converting each of its workflow files on its
own. -/
theorem load_eq_reference (f : Content.Fixed) (settings : Loader.Settings) {c : Cache}
    (reached : Reached f settings c) (repo : Repository) :
    ((((Loader.asking settings).load repo).run.run c).reply f.answer).1 = f.reference settings repo :=
  (load_yields repo).reply_eq (reached_tied reached)

/-! A repository with one workflow, and a loader that has resolved its action before. -/

def sampleContent : Content.Fixed where
  list _ _ := .ok [⟨"ci.yml", ".github/workflows/ci.yml", "file", none⟩]
  file _ path _ :=
    if path = "action.yml" then .ok (Text.encode "runs: \x7busing: node12, main: dist/a.js\x7d")
    else if path = "dist/a.js" then .ok (Text.encode "run()")
    else .ok (Text.encode "on: push\njobs: \x7ba: \x7bsteps: [\x7buses: a/b@v1\x7d]\x7d\x7d")

def sampleRepository : Repository := ⟨"octo", "cat"⟩

/-- the cache of a loader that has resolved the action of the workflow -/
def warmCache : Cache :=
  ((((Loader.asking {}).resolver.resolve "a/b@v1").run.run []).reply sampleContent.answer).2

/-- The action comes from the cache, and the flow is the one of the reference. -/
theorem load_eq_reference_warm :
    warmCache.length = 1 ∧ Reached sampleContent {} warmCache ∧
      ((((Loader.asking {}).load sampleRepository).run.run warmCache).reply sampleContent.answer).1 =
        sampleContent.reference {} sampleRepository ∧
      (sampleContent.reference {} sampleRepository).toOption.map List.length = some 1 := by
  have reached : Reached sampleContent {} warmCache :=
    .resolve "a/b@v1" .fresh (admits_replies _ _) (resolves_reply _ _ _)
  exact ⟨by decide +kernel, reached, load_eq_reference sampleContent {} reached sampleRepository,
    by decide +kernel⟩

end HookFlow
