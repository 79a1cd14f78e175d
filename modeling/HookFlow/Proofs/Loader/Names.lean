import HookFlow.Proofs.Loader.Decision
import HookFlow.Proofs.Text.Split
import HookFlow.Proofs.Workflow
import Mathlib.Data.List.Nodup
/-!
The names of steps.

A step is named for its job and its number in the job, with a hyphen between them. A number holds no hyphen, so the last
hyphen of the name is that one, whatever the name of the job is: the place of a step can be read from its name. A job named
`a-1` does not get in the way of a job named `a`: their steps are `a-1-0` and `a-1`.

Results:
- `place?_stepName`: the name of a step tells its place.
- `names_of_build`: a flow has a step for every place of its workflow, in the order of the document.
- `buildFlow_names`: the names of a flow's steps are distinct, and each tells where the step comes from.
-/

namespace HookFlow

open HookFlow.Action (Cache)

namespace Loader

/-! ## One name -/

/-- the place that the name of a step tells: the job before its last hyphen, and the number behind it -/
def place? (name : String) : Option (String × Nat) :=
  let backwards := name.toList.reverse
  match backwards.dropWhile (· != '-') with
  | [] => none
  | _ :: job =>
    some (String.ofList job.reverse, Nat.ofDigitChars 10 (backwards.takeWhile (· != '-')).reverse 0)

theorem toList_stepName (job : String) (index : Nat) :
    (stepName job index).toList = job.toList ++ '-' :: Nat.toDigits 10 index := by
  simp [stepName, String.toList_append]

/-- A number holds no hyphen. -/
theorem hyphen_not_mem (n : Nat) : '-' ∉ Nat.toDigits 10 n := by
  intro held
  have digit : ('-').isDigit = true := Nat.isDigit_of_mem_toDigits (by decide) (by decide) held
  revert digit
  decide

/-- **The name of a step tells its place**, whatever the name of the job is. -/
theorem place?_stepName (job : String) (index : Nat) : place? (stepName job index) = some (job, index) := by
  have free : '-' ∉ (Nat.toDigits 10 index).reverse := mt List.mem_reverse.1 (hyphen_not_mem index)
  have backwards : (stepName job index).toList.reverse =
      (Nat.toDigits 10 index).reverse ++ '-' :: job.toList.reverse := by
    simp [toList_stepName]
  simp only [place?, backwards, Text.dropWhile_cut free, Text.takeWhile_cut free, List.reverse_reverse,
    String.ofList_toList, Nat.ofDigitChars_ten_toDigits]

end Loader

/-! ## All names of a flow -/

open Loader (place? stepName place?_stepName)
open Workflow (flowSteps)

/-- the places of a workflow in the order of the document: each job with the numbers of its steps -/
def Workflow.places (w : Workflow) : List (String × Nat) :=
  w.jobs.flatMap fun j => (List.range j.2.steps.length).map fun index => (j.1, index)

/-- If no two jobs have one name, no place comes twice. -/
theorem Workflow.nodup_places {w : Workflow} (distinct : w.DistinctJobs) : w.places.Nodup := by
  refine List.nodup_flatMap.2 ⟨fun j _ => ?_, ?_⟩
  · exact List.nodup_range.map fun m n same => (Prod.mk.inj same).2
  · refine (List.pairwise_map.1 distinct).imp fun {j j'} other => ?_
    intro p here there
    obtain ⟨m, -, rfl⟩ := List.mem_map.1 here
    obtain ⟨n, -, same⟩ := List.mem_map.1 there
    exact other (Prod.mk.inj same).1.symm

theorem names_of_flowSteps (outcome : String → Except Failure Action) (job : String) (index : Nat)
    (steps : List Workflow.Step) :
    (flowSteps outcome job index steps).map Step.name = (List.range' index steps.length).map (stepName job) := by
  rw [flowSteps, List.map_map, ← List.zipIdx_map_snd index steps, List.map_map]
  rfl

/-- **A flow has a step for every place of its workflow**, in the order of the document. -/
theorem names_of_build {settings : Loader.Settings} {name : String} {w : Workflow} {c c' : Cache} {h : History}
    {flow : Flow} (run : Resolves ((Loader.asking settings).buildFlow name w) c h (.ok (some flow)) c') :
    flow.steps.map Step.name = w.places.map fun p => stepName p.1 p.2 := by
  obtain ⟨outcome, t, -, -, result⟩ := buildFlow_verdict settings name w run
  rw [Workflow.verdict_eq_some result.symm, Workflow.places, List.map_flatMap, List.map_flatMap]
  refine List.flatMap_congr fun j _ => ?_
  rw [names_of_flowSteps, List.map_map, List.range_eq_range']
  rfl

/-- **The names of a flow's steps are distinct, and each tells where its step comes from.** The jobs of a workflow have
distinct names, as they do in every file that is read (`distinctJobs_of_parse`); otherwise the names of the jobs do not
matter, nor how many steps they have. -/
theorem buildFlow_names {settings : Loader.Settings} {name : String} {w : Workflow} {c c' : Cache} {h : History}
    {flow : Flow} (distinct : w.DistinctJobs)
    (run : Resolves ((Loader.asking settings).buildFlow name w) c h (.ok (some flow)) c') :
    flow.steps.map Step.name = (w.places.map fun p => p.1 ++ "-" ++ toString p.2) ∧
      (flow.steps.map Step.name).Nodup ∧ flow.steps.map (fun s => place? s.name) = w.places.map some := by
  have names := names_of_build run
  have told : ∀ p : String × Nat, place? (stepName p.1 p.2) = some p := fun p => place?_stepName p.1 p.2
  refine ⟨names, ?_, ?_⟩
  · rw [names]
    refine (Workflow.nodup_places distinct).map fun p q same => ?_
    have tells : some p = some q := by rw [← told p, ← told q, same]
    exact Option.some.inj tells
  · calc flow.steps.map (fun s => place? s.name)
      _ = (flow.steps.map Step.name).map place? := by rw [List.map_map]; rfl
      _ = w.places.map fun p => place? (stepName p.1 p.2) := by rw [names, List.map_map]; rfl
      _ = w.places.map some := List.map_congr_left fun p _ => told p

/-- a workflow with a job that is named as a step of the other one -/
def numberedWorkflow : Workflow where
  declared := .text "push"
  jobs := [("a", { steps := [{ uses := "a/b@v1" }, { uses := "a/b@v1" }] }), ("a-1", { steps := [{ uses := "a/b@v1" }] })]

/-- The second step of `a` is `a-1`, and the step of `a-1` is `a-1-0`. -/
theorem buildFlow_names_numbered :
    numberedWorkflow.DistinctJobs ∧
      ∃ flow, ((((Loader.asking {}).buildFlow "ci.yml" numberedWorkflow).run.run []).reply sampleActions.answer).1 =
        .ok (some flow) ∧ flow.steps.map Step.name = ["a-0", "a-1", "a-1-0"] ∧
        flow.steps.map (fun s => place? s.name) = [some ("a", 0), some ("a", 1), some ("a-1", 0)] := by
  have distinct : numberedWorkflow.DistinctJobs := by decide
  have run := resolves_reply sampleActions.answer ((Loader.asking {}).buildFlow "ci.yml" numberedWorkflow) []
  have built : ((((Loader.asking {}).buildFlow "ci.yml" numberedWorkflow).run.run []).reply sampleActions.answer).1 =
      .ok (some ⟨"ci.yml", [⟨"push", []⟩], [⟨"a-0", "run()", []⟩, ⟨"a-1", "run()", []⟩, ⟨"a-1-0", "run()", []⟩]⟩) :=
    eq_ok_of_toOption (by decide +kernel)
  rw [built] at run
  obtain ⟨named, -, told⟩ := buildFlow_names distinct run
  exact ⟨distinct, _, built, named.trans (by decide), told.trans (by decide)⟩

end HookFlow
