import HookFlow.Proofs.Action.Resolving
import HookFlow.Proofs.Workflow
/-!
What the inputs of loaded flows hold.

A step has its inputs from a workflow file, so no name comes twice. It is converted only if none of its inputs holds an
expression other than the placeholder, and nothing touches the inputs afterwards. That is true of every run, whatever
the content source answers and however the run is cancelled, so it is stated of the results of a computation and carried
through the loops by a rule for sequence.

Results:
- `gives_bind`: what the second of two computations gives for what the first one gives is given by both in sequence.
- `load_gives`: a loaded flow has no input with an expression other than the placeholder, and no two inputs of one name.
-/

namespace HookFlow

open HookFlow.Action (Resolving)
open HookFlow.Action.Resolving (Leads leads_pure leads_bind leads_ofExcept leads_within)

variable {K : Type} {A : K → Type}

/-- whether all results of a computation have a property -/
def Gives {α : Type} (P : α → Prop) (x : Resolving (Dialogue A) α) : Prop :=
  ∀ c h a c', Leads x c h (.ok a) c' → P a

section

variable {α β : Type} {P : α → Prop} {Q : β → Prop}

theorem gives_pure {a : α} (ha : P a) : Gives P (pure a : Resolving (Dialogue A) α) := by
  intro c h b c' run
  obtain ⟨-, same, -⟩ := leads_pure.1 run
  cases same
  exact ha

theorem gives_ofExcept {v : Except Failure α} (held : ∀ a, v = .ok a → P a) :
    Gives P (MonadExcept.ofExcept v : Resolving (Dialogue A) α) := by
  intro c h a c' run
  obtain ⟨-, same, -⟩ := leads_ofExcept.1 run
  exact held a same.symm

theorem gives_any (x : Resolving (Dialogue A) α) : Gives (fun _ => True) x := fun _ _ _ _ _ => trivial

theorem gives_bind {x : Resolving (Dialogue A) α} {g : α → Resolving (Dialogue A) β} (hx : Gives P x)
    (hg : ∀ a, P a → Gives Q (g a)) : Gives Q (x >>= g) := by
  intro c h b c' run
  rcases leads_bind.1 run with ⟨e, failed, -⟩ | ⟨a, h₁, h₂, c₁, -, first, rest⟩
  · cases failed
  · exact hg a (hx c h₁ a c₁ first) c₁ h₂ b c' rest

theorem gives_within {x : Resolving (Dialogue A) α} (hx : Gives P x) (name value : String) :
    Gives P (x.within name value) := by
  intro c h a c' run
  obtain ⟨v, inner, same⟩ := leads_within.1 run
  cases v with
  | error e => cases same
  | ok b =>
    cases same
    exact hx c h a c' inner

/-! A conversion may meet an obstacle instead of coming to a value. -/

/-- whether what is converted has a property, if nothing stands in the way -/
def Unhindered (P : α → Prop) (r : Except Obstacle α) : Prop := ∀ a, r = .ok a → P a

theorem gives_obstacle (o : Obstacle) : Gives (Unhindered P) (pure (.error o) : Resolving (Dialogue A) _) :=
  gives_pure nofun

theorem gives_converted {a : α} (ha : P a) : Gives (Unhindered P) (pure (.ok a) : Resolving (Dialogue A) _) :=
  gives_pure fun _ same => Except.ok.inj same ▸ ha

theorem gives_conversion {x : Resolving (Dialogue A) (Except Obstacle α)}
    {g : Except Obstacle α → Resolving (Dialogue A) (Except Obstacle β)} (hx : Gives (Unhindered P) x)
    (skipped : ∀ o, g (.error o) = pure (.error o)) (hg : ∀ a, P a → Gives (Unhindered Q) (g (.ok a))) :
    Gives (Unhindered Q) (x >>= g) := by
  refine gives_bind hx fun r held => ?_
  cases r with
  | error o =>
    rw [skipped]
    exact gives_obstacle o
  | ok a => exact hg a (held a rfl)

end

/-! ## The loops of the loader -/

/-- what is true of the inputs of a step: no expression but the placeholder, and no name twice -/
structure Step.IsSettled (placeholder : String) (s : Step) : Prop where
  plain : ∀ e ∈ s.inputs, Placeholder.isUnsupported e.2 placeholder = false
  distinct : s.inputs.Distinct

variable (l : Loader (Dialogue A))

theorem convertStep_gives (workflow job : String) (index : Nat) {s : Workflow.Step} (distinct : s.inputs.Distinct) :
    Gives (Unhindered (Step.IsSettled l.settings.placeholder)) (l.convertStep workflow job index s) := by
  refine gives_bind (gives_any _) fun action _ => ?_
  split
  · exact gives_obstacle _
  · refine gives_bind (gives_any _) fun _ _ => ?_
    split
    · exact gives_obstacle _
    next plain =>
      simp only [Loader.foreignInput?, Option.map_eq_none_iff, List.find?_eq_none, Bool.not_eq_true] at plain
      exact gives_converted ⟨plain, distinct⟩

theorem convertSteps_gives (workflow job : String) (index : Nat) {steps : List Workflow.Step}
    (distinct : ∀ s ∈ steps, s.inputs.Distinct) :
    Gives (Unhindered fun converted => ∀ s ∈ converted, s.IsSettled l.settings.placeholder)
      (l.convertSteps workflow job index steps) := by
  induction steps generalizing index with
  | nil => exact gives_converted nofun
  | cons s rest ih =>
    obtain ⟨own, later⟩ := List.forall_mem_cons.1 distinct
    refine gives_conversion (convertStep_gives l workflow job index own) (fun _ => rfl) fun first settled => ?_
    refine gives_conversion (ih (index + 1) later) (fun _ => rfl) fun others settled' => ?_
    exact gives_converted (List.forall_mem_cons.2 ⟨settled, settled'⟩)

theorem convertJobs_gives (workflow : String) {jobs : List (String × Workflow.Job)}
    (distinct : ∀ j ∈ jobs, ∀ s ∈ j.2.steps, s.inputs.Distinct) :
    Gives (Unhindered fun converted => ∀ s ∈ converted, s.IsSettled l.settings.placeholder)
      (l.convertJobs workflow jobs) := by
  induction jobs with
  | nil => exact gives_converted nofun
  | cons j rest ih =>
    obtain ⟨name, job⟩ := j
    obtain ⟨own, later⟩ := List.forall_mem_cons.1 distinct
    simp only [Loader.convertJobs]
    split
    · exact gives_obstacle _
    · refine gives_conversion (convertSteps_gives l workflow name 0 own) (fun _ => rfl) fun steps settled => ?_
      refine gives_bind (gives_any _) fun _ _ => gives_conversion (ih later) (fun _ => rfl) fun more settled' => ?_
      exact gives_converted (List.forall_mem_append.2 ⟨settled, settled'⟩)

theorem buildFlow_gives (name : String) {w : Workflow} (distinct : w.Distinct) :
    Gives (fun f? => ∀ f ∈ f?, ∀ s ∈ f.steps, s.IsSettled l.settings.placeholder) (l.buildFlow name w) := by
  have converted : Gives (Unhindered fun steps => ∀ s ∈ steps, s.IsSettled l.settings.placeholder)
      (l.convert name w) := by
    simp only [Loader.convert]
    split
    · exact gives_obstacle _
    · exact convertJobs_gives l name distinct
  refine gives_bind converted fun result settled => ?_
  cases result with
  | error o => exact gives_bind (gives_any _) fun _ _ => gives_pure nofun
  | ok steps =>
    refine gives_bind (gives_any _) fun triggers _ => gives_pure ?_
    rintro f ⟨⟩
    exact settled steps rfl

theorem loadFiles_gives (repo : Repository) (entries : List Content.Entry) :
    Gives (fun flows => ∀ f ∈ flows, ∀ s ∈ f.steps, s.IsSettled l.settings.placeholder) (l.loadFiles repo entries) := by
  induction entries with
  | nil => exact gives_pure nofun
  | cons e rest ih =>
    have file : Gives (fun f? => ∀ f ∈ f?, ∀ s ∈ f.steps, s.IsSettled l.settings.placeholder) (l.loadFile repo e) := by
      refine gives_bind (gives_any _) fun _ _ => gives_bind (gives_any _) fun raw _ => ?_
      refine gives_bind (gives_ofExcept fun w parsed => Workflow.distinct_of_parse parsed) fun workflow distinct => ?_
      exact gives_bind (gives_any _) fun _ _ => buildFlow_gives l e.name distinct
    refine gives_bind (gives_within file "workflow" e.path) fun flow? settled => gives_bind ih fun flows settled' => ?_
    exact gives_pure (List.forall_mem_append.2 ⟨fun f hf => settled f (Option.mem_toList.1 hf), settled'⟩)

/-- **No loaded flow holds a foreign expression, or two inputs of one name in a step.** -/
theorem load_gives (repo : Repository) :
    Gives (fun flows => ∀ f ∈ flows, ∀ s ∈ f.steps, s.IsSettled l.settings.placeholder) (l.load repo) := by
  refine gives_bind (gives_any _) fun entries _ => gives_bind (loadFiles_gives l repo _) fun flows settled => ?_
  exact gives_bind (gives_any _) fun _ _ => gives_pure settled

end HookFlow
