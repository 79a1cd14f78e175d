import HookFlow.Proofs.Action.Failures
import HookFlow.Proofs.Loader.Decision
/-!
How the build of a flow fails.

A walk over the items of a workflow fails at a step whose action cannot be found; every step before it was resolved
with success. Only a walk without any ending comes to the triggers, so a trigger declaration of an unknown shape is a
failure of workflows that can be converted otherwise.

Results:
- `reached_failed`, `reached_all`: which steps a walk has reached when it fails, and when nothing stands in its way.
- `buildFlow_failed`: a build fails at the resolution of a step, or at the triggers behind all steps.
-/

namespace HookFlow

open HookFlow.Action (Cache)

/-- the actions that the steps of a workflow use, in the order of the document -/
def Workflow.uses (w : Workflow) : List String := w.jobs.flatMap fun j => j.2.steps.map (·.uses)

/-- every job has steps, their actions can be hosted, and no input holds a foreign expression -/
structure Workflow.IsConvertible (w : Workflow) (found : String → Action) (placeholder : String) : Prop where
  jobs : w.jobs ≠ []
  steps : ∀ j ∈ w.jobs, j.2.steps ≠ []
  hostable : ∀ uses ∈ w.uses, (found uses).isHostable = true
  plain : ∀ j ∈ w.jobs, ∀ s ∈ j.2.steps, Loader.foreignInput? placeholder s.inputs = none

section

open Workflow (Item reached stepItems jobItems)

variable {outcome : String → Except Failure Action} {placeholder : String} {w : Workflow}

theorem isPrefix_upTo {α β : Type} (f : α → Option β) (as : List α) : upTo f as <+: as := by
  induction as with
  | nil => exact List.prefix_rfl
  | cons a rest ih =>
    rw [upTo]
    split
    · exact ⟨rest, rfl⟩
    · exact List.prefix_cons_inj a |>.2 ih

theorem stepItems_uses (job : String) (index : Nat) (steps : List Workflow.Step) :
    (stepItems job index steps).filterMap Item.uses? = steps.map (·.uses) := by
  have named : Item.uses? ∘ (fun e : Workflow.Step × Nat => Item.step job e.2 e.1) = some ∘ ((·.uses) ∘ Prod.fst) := rfl
  rw [stepItems, List.filterMap_map, named, List.filterMap_eq_map, ← List.map_map, List.zipIdx_map_fst]

theorem items_uses (w : Workflow) : w.items.filterMap Item.uses? = w.uses := by
  have walk (jobs : List (String × Workflow.Job)) :
      (jobItems jobs).filterMap Item.uses? = jobs.flatMap fun j => j.2.steps.map (·.uses) := by
    simp only [jobItems, List.filterMap_flatMap]
    congr 1
    funext j
    split
    next empty =>
      rw [List.isEmpty_iff.1 empty]
      rfl
    · exact stepItems_uses _ _ _
  rw [Workflow.items]
  split
  next empty =>
    rw [Workflow.uses, List.isEmpty_iff.1 empty]
    rfl
  · exact walk w.jobs

theorem upTo_eq_self {α β : Type} {f : α → Option β} {as : List α} (passed : ∀ a ∈ as, f a = none) :
    upTo f as = as := by
  induction as with
  | nil => rfl
  | cons a rest ih =>
    obtain ⟨first, later⟩ := List.forall_mem_cons.1 passed
    simp [upTo, first, ih later]

/-- A walk goes on only behind a step that can be converted. -/
theorem passed_step {i : Item} (passed : i.ending? outcome placeholder = none) :
    ∃ job index s a, i = .step job index s ∧ outcome s.uses = .ok a ∧ a.isHostable = true ∧
      Loader.foreignInput? placeholder s.inputs = none := by
  cases i with
  | noJobs => cases passed
  | emptyJob job => cases passed
  | step job index s =>
    simp only [Item.ending?] at passed
    split at passed
    · cases passed
    next a found =>
      split at passed
      next fit => exact ⟨job, index, s, a, rfl, found, fit, Option.map_eq_none_iff.1 passed⟩
      · cases passed

/-- A walk fails only at a step whose resolution failed. -/
theorem failed_step {i : Item} {f : Failure} (last : i.ending? outcome placeholder = some (.failure f)) :
    ∃ uses, i.uses? = some uses ∧ outcome uses = .error f := by
  cases i with
  | noJobs => cases last
  | emptyJob job => cases last
  | step job index s =>
    refine ⟨s.uses, rfl, ?_⟩
    simp only [Item.ending?] at last
    split at last
    next failed =>
      cases last
      exact failed
    · split at last
      · obtain ⟨input, -, other⟩ := Option.map_eq_some_iff.1 last
        cases other
      · cases last

/-- What a walk that fails has reached ends with the step whose resolution failed. -/
theorem reached_failed {items : List Item} {f : Failure}
    (ending : items.findSome? (Item.ending? outcome placeholder) = some (.failure f)) :
    ∃ earlier uses, reached outcome placeholder items = earlier ++ [uses] ∧ outcome uses = .error f ∧
      ∀ other ∈ earlier, ∃ a, outcome other = .ok a := by
  obtain ⟨before, i, after, rfl, last, passed⟩ := List.findSome?_eq_some_iff.1 ending
  obtain ⟨uses, named, failed⟩ := failed_step last
  -- the items in front of the last one are steps that can be converted, so each of their actions was found
  have undecided : before.findSome? (Item.ending? outcome placeholder) = none := List.findSome?_eq_none_iff.2 passed
  refine ⟨before.filterMap Item.uses?, uses, ?_, failed, fun other ho => ?_⟩
  · rw [reached, upTo_append, upTo_eq_self passed, undecided]
    simp [upTo, last, named]
  · obtain ⟨i, hi, names⟩ := List.mem_filterMap.1 ho
    obtain ⟨job, index, s, a, rfl, found, -⟩ := passed_step (passed i hi)
    exact ⟨a, Option.some.inj names ▸ found⟩

/-- What a walk comes by: a workflow without jobs, jobs without steps, and the steps of the others. -/
theorem mem_items {i : Item} : i ∈ w.items ↔ (w.jobs = [] ∧ i = .noJobs) ∨ ∃ j ∈ w.jobs,
    (j.2.steps = [] ∧ i = .emptyJob j.1) ∨ ∃ e ∈ j.2.steps.zipIdx, i = .step j.1 e.2 e.1 := by
  have job (j : String × Workflow.Job) :
      i ∈ (if j.2.steps.isEmpty then [Item.emptyJob j.1] else stepItems j.1 0 j.2.steps) ↔
        (j.2.steps = [] ∧ i = .emptyJob j.1) ∨ ∃ e ∈ j.2.steps.zipIdx, i = .step j.1 e.2 e.1 := by
    split
    next empty => simp [List.isEmpty_iff.1 empty]
    next steps => simp [stepItems, mt List.isEmpty_iff.2 steps, eq_comm]
  rw [Workflow.items]
  split
  next empty => simp [List.isEmpty_iff.1 empty]
  next jobs =>
    rw [jobItems, List.mem_flatMap, or_iff_right fun none => jobs (List.isEmpty_iff.2 none.1)]
    simp only [job]

/-- A workflow that nothing stands in the way of can be converted, and all of its steps are reached. -/
theorem reached_all (unhindered : w.ending? outcome placeholder = none) :
    reached outcome placeholder w.items = w.uses ∧ ∃ found : String → Action,
      (∀ uses ∈ w.uses, outcome uses = .ok (found uses)) ∧ w.IsConvertible found placeholder := by
  have passed : ∀ i ∈ w.items, i.ending? outcome placeholder = none := List.findSome?_eq_none_iff.1 unhindered
  have jobs : w.jobs ≠ [] := fun empty => nomatch passed _ (mem_items.2 (.inl ⟨empty, rfl⟩))
  have steps : ∀ j ∈ w.jobs, j.2.steps ≠ [] := fun j hj empty =>
    nomatch passed _ (mem_items.2 (.inr ⟨j, hj, .inl ⟨empty, rfl⟩⟩))
  -- every step of every job is an item, and the walk has passed all items
  have each : ∀ j ∈ w.jobs, ∀ s ∈ j.2.steps, ∃ a, outcome s.uses = .ok a ∧ a.isHostable = true ∧
      Loader.foreignInput? placeholder s.inputs = none := by
    intro j hj s hs
    rw [← List.zipIdx_map_fst 0 j.2.steps] at hs
    obtain ⟨⟨s, index⟩, there, rfl⟩ := List.mem_map.1 hs
    have here : Item.step j.1 index s ∈ w.items := mem_items.2 (.inr ⟨j, hj, .inr ⟨_, there, rfl⟩⟩)
    obtain ⟨_, _, _, a, same, fits⟩ := passed_step (passed _ here)
    cases same
    exact ⟨a, fits⟩
  have named : ∀ uses ∈ w.uses, ∃ a, outcome uses = .ok a ∧ a.isHostable = true := by
    intro uses hu
    obtain ⟨j, hj, hu⟩ := List.mem_flatMap.1 hu
    obtain ⟨s, hs, rfl⟩ := List.mem_map.1 hu
    obtain ⟨a, found, fit, -⟩ := each j hj s hs
    exact ⟨a, found, fit⟩
  have : Nonempty Action := ⟨{}⟩
  choose! found told fit using named
  refine ⟨?_, found, told, jobs, steps, fit, fun j hj s hs => ?_⟩
  · rw [reached, upTo_eq_self passed, items_uses]
  · obtain ⟨a, -, -, plain⟩ := each j hj s hs
    exact plain

end

/-! ## Builds that fail -/

/-- **How a build fails.** The steps before one that is not resolved were resolved with success, in the order of the
document; or all steps were, the workflow can be converted, and its triggers have an unknown shape. -/
theorem buildFlow_failed {settings : Loader.Settings} {name : String} {w : Workflow} {c c' : Cache} {h : History}
    {f : Failure} (failed : Resolves ((Loader.asking settings).buildFlow name w) c h (.error f) c') :
    (∃ (found : String → Action) (earlier : List String) (uses : String) (t u : History) (c₁ : Cache), h = t ++ u ∧
      earlier ++ [uses] <+: w.uses ∧
      Resolutions settings.metadataFile c t (earlier.map fun uses => (uses, .ok (found uses))) c₁ ∧
      Resolves ((Action.Resolver.asking settings.metadataFile).resolve uses) c₁ u (.error f) c') ∨
    ∃ found : String → Action,
      Resolutions settings.metadataFile c h (w.uses.map fun uses => (uses, .ok (found uses))) c' ∧
      w.IsConvertible found settings.placeholder ∧ w.triggers = .error f := by
  obtain ⟨outcome, t, walk, rfl, result⟩ := buildFlow_verdict settings name w failed
  rw [Workflow.verdict] at result
  split at result
  · cases result
  next g ending =>
    cases result
    obtain ⟨earlier, uses, cut, unfound, sound⟩ := reached_failed ending
    have : Nonempty Action := ⟨{}⟩
    choose! found told using sound
    have outcomes : ((earlier ++ [uses]).map fun uses => (uses, outcome uses)) =
        (earlier.map fun uses => (uses, .ok (found uses))) ++ [(uses, .error f)] := by
      rw [List.map_append, List.map_congr_left fun other ho => by rw [told other ho]]
      simp [unfound]
    rw [cut] at walk
    obtain ⟨t, u, c₁, rfl, before, last⟩ := walk.fails_last outcomes
    have next : earlier ++ [uses] <+: w.uses := by
      rw [← cut, ← items_uses w]
      exact (isPrefix_upTo _ _).filterMap _
    refine .inl ⟨found, earlier, uses, t, u, c₁, ?_, next, before, last⟩
    simp [ending, Ending.reports]
  next unhindered =>
    obtain ⟨all, found, told, convertible⟩ := reached_all unhindered
    rw [all, List.map_congr_left fun uses hu => by rw [told uses hu]] at walk
    exact .inr ⟨found, by simpa [unhindered, Ending.reports] using walk, convertible, map_eq_error.1 result.symm⟩

end HookFlow
