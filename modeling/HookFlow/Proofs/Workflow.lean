import HookFlow.Proofs.Except
import HookFlow.Proofs.Flow
import HookFlow.Proofs.Yaml.Collection
import HookFlow.Workflow
/-!
Workflow files that are read: no two jobs have one name, and no step has two inputs of one name.

Results:
- `distinct_of_parse`: the inputs of the steps of a workflow, whatever its bytes are.
- `distinctJobs_of_parse`: its jobs.
-/

namespace HookFlow

open Yaml (Document Node)
open Yaml.Reader (Gives gives_any gives_pure gives_throw)
open Yaml.Document (gives_record gives_sequence gives_dictionary gives_optionalDictionary gives_read)

namespace Workflow

theorem names_of_inputsOf {raw : List (String × Yaml.Value)} {inputs : Inputs} (converted : inputsOf raw = .ok inputs) :
    inputs.map Prod.fst = raw.map Prod.fst := by
  induction raw generalizing inputs with
  | nil =>
    cases converted
    rfl
  | cons e rest ih =>
    rw [inputsOf, List.mapM_cons] at converted
    obtain ⟨first, one, later⟩ := bind_eq_ok.1 converted
    obtain ⟨others, many, same⟩ := bind_eq_ok.1 later
    cases same
    have name : first.1 = e.1 := by
      split at one
      · cases one
        rfl
      · cases one
    rw [List.map_cons, List.map_cons, name, ih many]

variable (d : Document)

theorem gives_readInputs (n : Node) : Gives Inputs.Distinct (readInputs d n) := by
  refine (gives_optionalDictionary _ n).bind fun raw distinct => ?_
  split
  next inputs converted =>
    refine gives_pure ?_
    rw [Inputs.Distinct, names_of_inputsOf converted]
    exact distinct
  · exact gives_throw _

theorem gives_readStep (n : Node) : Gives (fun s : Step => s.inputs.Distinct) (readStep d n) := by
  have none : Inputs.Distinct ({} : Step).inputs := List.nodup_nil
  refine gives_record (P := fun s : Step => s.inputs.Distinct) (fun name read found s v distinct => ?_) none n
  simp only [List.lookup_cons] at found
  split at found
  · cases found
    exact (gives_any _).bind fun uses _ => gives_pure distinct
  split at found
  · cases found
    exact (gives_readInputs d v).bind fun inputs given => gives_pure given
  · cases found

theorem gives_readJob (n : Node) : Gives (fun j : Job => ∀ s ∈ j.steps, s.inputs.Distinct) (readJob d n) := by
  have none : ∀ s ∈ ({} : Job).steps, s.inputs.Distinct := List.forall_mem_nil _
  refine gives_record (P := fun j : Job => ∀ s ∈ j.steps, s.inputs.Distinct) (fun name read found j v _ => ?_) none n
  simp only [List.lookup_cons] at found
  split at found
  · cases found
    exact (gives_sequence (gives_readStep d) v).bind fun steps given => gives_pure given
  · cases found

/-- whether the inputs of all steps of a workflow have distinct names -/
def Distinct (w : Workflow) : Prop := ∀ j ∈ w.jobs, ∀ s ∈ j.2.steps, s.inputs.Distinct

/-- whether the jobs of a workflow have distinct names -/
def DistinctJobs (w : Workflow) : Prop := (w.jobs.map Prod.fst).Nodup

instance (w : Workflow) : Decidable w.DistinctJobs := inferInstanceAs (Decidable (List.Nodup _))

theorem gives_reader (n : Node) : Gives (fun w : Workflow => w.DistinctJobs ∧ w.Distinct) (reader d n) := by
  have none : DistinctJobs {} ∧ Distinct {} := ⟨List.nodup_nil, List.forall_mem_nil _⟩
  refine gives_record (P := fun w : Workflow => w.DistinctJobs ∧ w.Distinct) (fun name read found w v distinct => ?_) none n
  simp only [List.lookup_cons] at found
  split at found
  · cases found
    exact (gives_any _).bind fun declared _ => gives_pure distinct
  split at found
  · cases found
    exact (gives_dictionary (gives_readJob d) v).bind fun jobs given => gives_pure given
  · cases found

theorem sound_of_parse {name : String} {bytes : Text.Bytes} {w : Workflow} (parsed : parse name bytes = .ok w) :
    w.DistinctJobs ∧ w.Distinct := by
  rw [parse] at parsed
  split at parsed
  next w' done =>
    cases parsed
    exact gives_read (gives_reader _) done
  · cases parsed

/-- **No step of a workflow file has two inputs of one name.** -/
theorem distinct_of_parse {name : String} {bytes : Text.Bytes} {w : Workflow} (parsed : parse name bytes = .ok w) :
    w.Distinct := (sound_of_parse parsed).2

/-- **No two jobs of a workflow file have one name.** -/
theorem distinctJobs_of_parse {name : String} {bytes : Text.Bytes} {w : Workflow} (parsed : parse name bytes = .ok w) :
    w.DistinctJobs := (sound_of_parse parsed).1

end Workflow

end HookFlow
