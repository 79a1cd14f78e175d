import HookFlow.Proofs.Action.Resolution
import HookFlow.Proofs.Except
/-!
Which item of a workflow decides what becomes of it.

Conversion walks over the jobs in order and over the steps of each job in order. The first item that cannot be
converted ends the walk: an obstacle makes the workflow one that is passed over, a failed resolution is the
result. `Decides` says of a part of the walk that it resolves the steps up to that item and no others, and that
the item fixes the result; it is closed under sequence, so the two loops need no invariants of their own.

Results:
- `decides_bind`: two parts in sequence walk over the items of both.
- `buildFlow_decided`: a workflow is converted as a whole or not at all, by its first decisive item.
-/

namespace HookFlow

open HookFlow.Action (Cache Resolving)

/-! ## Items and what they decide -/

/-- a part of a workflow at which conversion can end; that there are no jobs, or no steps, is a part as well -/
inductive Workflow.Item where
  | noJobs
  | emptyJob (job : String)
  | step (job : String) (index : Nat) (s : Workflow.Step)

/-- how conversion ends early -/
inductive Ending where
  | skip (o : Obstacle)
  | failure (f : Failure)

/-- what comes of a walk: the value, unless the walk ends early -/
def Ending.settle {α : Type} (a : α) : Option Ending → Except Failure (Except Obstacle α)
  | none => .ok (.ok a)
  | some (.skip o) => .ok (.error o)
  | some (.failure f) => .error f

/-- the elements up to the first one with a value, with that one -/
def upTo {α β : Type} (f : α → Option β) : List α → List α
  | [] => []
  | a :: rest => if (f a).isSome then [a] else a :: upTo f rest

theorem upTo_append {α β : Type} (f : α → Option β) (as bs : List α) :
    upTo f (as ++ bs) = upTo f as ++ if (as.findSome? f).isSome then [] else upTo f bs := by
  induction as with
  | nil => rfl
  | cons a rest ih =>
    cases decisive : f a with
    | none => simp [upTo, decisive, ih]
    | some b => simp [upTo, decisive]

namespace Workflow

section

variable (outcome : String → Except Failure Action) (placeholder : String)

/-- the action that an item names -/
def Item.uses? : Item → Option String
  | .noJobs => none
  | .emptyJob _ => none
  | .step _ _ s => some s.uses

/-- how conversion ends at an item, given the outcome of every resolution -/
def Item.ending? : Item → Option Ending
  | .noJobs => some (.skip .noJobs)
  | .emptyJob job => some (.skip (.noSteps job))
  | .step job index s =>
    match outcome s.uses with
    | .error f => some (.failure f)
    | .ok a =>
      if a.isHostable then
        (Loader.foreignInput? placeholder s.inputs).map fun input => .skip (.expression job index input)
      else some (.skip (.unfitAction job index s.uses))

/-- the actions that the items up to the first decisive one name, in order -/
def reached (items : List Item) : List String :=
  (upTo (Item.ending? outcome placeholder) items).filterMap Item.uses?

/-- the steps of a job from number `index` on -/
def stepItems (job : String) (index : Nat) (steps : List Step) : List Item :=
  (steps.zipIdx index).map fun e => .step job e.2 e.1

/-- the items of some jobs in the order of the document -/
def jobItems (jobs : List (String × Job)) : List Item :=
  jobs.flatMap fun j => if j.2.steps.isEmpty then [.emptyJob j.1] else stepItems j.1 0 j.2.steps

/-- what conversion of a workflow looks at, in the order of the document -/
def items (w : Workflow) : List Item :=
  if w.jobs.isEmpty then [.noJobs] else jobItems w.jobs

/-- how conversion of a workflow ends early, if it does -/
def ending? (w : Workflow) : Option Ending :=
  w.items.findSome? (Item.ending? outcome placeholder)

/-- the source that an outcome brings -/
def sourceOf : Except Failure Action → String
  | .ok a => a.source
  | .error _ => ""

/-- the steps of a flow for the steps of a job from number `index` on -/
def flowSteps (job : String) (index : Nat) (steps : List Step) : List HookFlow.Step :=
  (steps.zipIdx index).map fun e =>
    { name := job ++ "-" ++ toString e.2, source := sourceOf (outcome e.1.uses), inputs := e.1.inputs }

/-- what comes of a workflow, given the outcome of every resolution -/
def verdict (name : String) (w : Workflow) : Except Failure (Option Flow) :=
  match w.ending? outcome placeholder with
  | some (.skip _) => .ok none
  | some (.failure f) => .error f
  | none => w.triggers.map fun triggers =>
    some { name, triggers, steps := w.jobs.flatMap fun j => flowSteps outcome j.1 0 j.2.steps }

end

end Workflow

/-! ## Walks -/

open Workflow (Item reached stepItems jobItems flowSteps sourceOf)

/-- the exchanges `h` resolve the actions of `items` up to the first decisive item, which fixes the result `r`; if
there is none, the result is `value` of the outcomes -/
def Decided {α : Type} (settings : Loader.Settings) (items : List Item)
    (value : (String → Except Failure Action) → α) (c : Cache) (h : History)
    (r : Except Failure (Except Obstacle α)) (c' : Cache) : Prop :=
  ∃ rs, Resolutions settings.metadataFile c h rs c' ∧
    (∀ p ∈ rs, ∀ f, p.2 = .error f → r = .error f) ∧
    ∀ outcome : String → Except Failure Action, (∀ p ∈ rs, outcome p.1 = p.2) →
      rs = (reached outcome settings.placeholder items).map (fun uses => (uses, outcome uses)) ∧
      r = Ending.settle (value outcome) (items.findSome? (Item.ending? outcome settings.placeholder))

/-- every run of `x` is decided by `items` -/
def Decides {α : Type} (settings : Loader.Settings) (items : List Item)
    (x : Resolving Scene (Except Obstacle α)) (value : (String → Except Failure Action) → α) : Prop :=
  ∀ c h r c', Resolves x c h r c' → Decided settings items value c h r c'

section

variable {settings : Loader.Settings} {α β : Type}

theorem settle_eq_error {a : α} {e : Option Ending} {f : Failure} (same : .error f = Ending.settle a e) :
    e = some (.failure f) := by
  rcases e with _ | ⟨o | g⟩ <;> cases same
  rfl

theorem settle_eq_skip {a : α} {e : Option Ending} {o : Obstacle}
    (same : .ok (.error o) = Ending.settle a e) : e = some (.skip o) := by
  rcases e with _ | ⟨o | g⟩ <;> cases same
  rfl

theorem settle_eq_ok {a b : α} {e : Option Ending} (same : .ok (.ok b) = Ending.settle a e) :
    e = none ∧ a = b := by
  rcases e with _ | ⟨o | g⟩ <;> cases same
  exact ⟨rfl, rfl⟩

theorem reached_append (outcome : String → Except Failure Action) (placeholder : String)
    (as bs : List Item) :
    reached outcome placeholder (as ++ bs) = reached outcome placeholder as ++
      if (as.findSome? (Item.ending? outcome placeholder)).isSome then []
      else reached outcome placeholder bs := by
  simp only [reached, upTo_append, List.filterMap_append]
  split <;> rfl

theorem decides_pure (a : α) : Decides settings [] (pure (.ok a)) fun _ => a := by
  intro c h r c' run
  obtain ⟨rfl, rfl, rfl⟩ := resolves_pure.1 run
  exact ⟨[], .nil, nofun, fun _ _ => ⟨rfl, rfl⟩⟩

/-- A report that is no skip changes nothing. -/
theorem decides_after_report {items : List Item} {e : Log.Event} (calm : e.isSkip = false)
    {g : Unit → Resolving Scene (Except Obstacle α)} {value : (String → Except Failure Action) → α}
    (hg : Decides settings items (g ()) value) :
    Decides settings items (Resolving.of (do Scene.supervisor.log e; return .ok ()) >>= g) value := by
  intro c h r c' run
  obtain ⟨t, rfl, rest⟩ := resolves_after_report.1 run
  obtain ⟨rs, walk, decided⟩ := hg c t r c' rest
  exact ⟨rs, .report calm walk, decided⟩

/-- **Two parts in sequence walk over the items of both.** What the first one says without a value ends the
walk; otherwise the second one goes on from its value. -/
theorem decides_bind {items₁ items₂ : List Item} {x : Resolving Scene (Except Obstacle α)}
    {g : Except Obstacle α → Resolving Scene (Except Obstacle β)}
    {value : (String → Except Failure Action) → α} (hx : Decides settings items₁ x value)
    (value' : α → (String → Except Failure Action) → β) (skipped : ∀ o, g (.error o) = pure (.error o))
    (hg : ∀ a, Decides settings items₂ (g (.ok a)) (value' a)) :
    Decides settings (items₁ ++ items₂) (x >>= g) fun outcome => value' (value outcome) outcome := by
  intro c h r c' run
  rcases resolves_bind.1 run with ⟨f, rfl, failed⟩ | ⟨v, h₁, h₂, c₁, rfl, first, rest⟩
  · obtain ⟨rs, walk, fails, decided⟩ := hx c h _ c' failed
    refine ⟨rs, walk, fun p hp f' hf => ?_, fun outcome agrees => ?_⟩
    · rw [Except.error.inj (fails p hp f' hf)]
    · obtain ⟨same, settled⟩ := decided outcome agrees
      have ending := settle_eq_error settled
      rw [reached_append, List.findSome?_append, ending]
      exact ⟨by simpa using same, rfl⟩
  · obtain ⟨rs, walk, fails, decided⟩ := hx c h₁ _ c₁ first
    have sound : ∀ p ∈ rs, ∀ f, p.2 ≠ .error f := fun p hp f hf => nomatch fails p hp f hf
    cases v with
    | error o =>
      rw [skipped] at rest
      obtain ⟨rfl, rfl, rfl⟩ := resolves_pure.1 rest
      refine ⟨rs, by simpa using walk, fun p hp f hf => absurd hf (sound p hp f), fun outcome agrees => ?_⟩
      obtain ⟨same, settled⟩ := decided outcome agrees
      have ending := settle_eq_skip settled
      rw [reached_append, List.findSome?_append, ending]
      exact ⟨by simpa using same, rfl⟩
    | ok a =>
      obtain ⟨rs', walk', fails', decided'⟩ := hg a c₁ h₂ r c' rest
      refine ⟨rs ++ rs', walk.append sound walk', fun p hp f hf => ?_, fun outcome agrees => ?_⟩
      · rcases List.mem_append.1 hp with before | after
        · exact absurd hf (sound p before f)
        · exact fails' p after f hf
      · obtain ⟨same, settled⟩ := decided outcome fun p hp => agrees p (List.mem_append_left _ hp)
        obtain ⟨same', settled'⟩ := decided' outcome fun p hp => agrees p (List.mem_append_right _ hp)
        obtain ⟨ending, rfl⟩ := settle_eq_ok settled
        rw [reached_append, List.findSome?_append, ending, List.map_append, ← same]
        exact ⟨by simpa using same', settled'⟩

/-- The value of a walk may be put in a larger one. -/
theorem decides_map {items : List Item} {x : Resolving Scene (Except Obstacle α)}
    {g : Except Obstacle α → Resolving Scene (Except Obstacle β)}
    {value : (String → Except Failure Action) → α} (hx : Decides settings items x value) (k : α → β)
    (skipped : ∀ o, g (.error o) = pure (.error o)) (kept : ∀ a, g (.ok a) = pure (.ok (k a))) :
    Decides settings items (x >>= g) fun outcome => k (value outcome) := by
  rw [← List.append_nil items]
  refine decides_bind hx (fun a _ => k a) skipped fun a => ?_
  rw [kept]
  exact decides_pure (k a)

/-! ## The two loops -/

/-- A step whose resolution failed decides by that. -/
theorem decided_of_failed {job : String} {index : Nat} {s : Workflow.Step} {f : Failure} {c c' : Cache}
    {h : History} (value : (String → Except Failure Action) → α)
    (failed : Resolves ((Action.Resolver.asking settings.metadataFile).resolve s.uses) c h (.error f) c') :
    Decided settings [.step job index s] value c h (.error f) c' := by
  refine ⟨[(s.uses, .error f)], .failed failed, by simp, fun outcome agrees => ?_⟩
  have resolved : outcome s.uses = .error f := agrees _ (List.mem_singleton_self _)
  simp [reached, upTo, Item.ending?, Item.uses?, resolved, Ending.settle]

/-- A step whose action was found decides by that action and its own inputs. -/
theorem decided_of_found {job : String} {index : Nat} {s : Workflow.Step} {a : Action} {c c₁ c' : Cache}
    {h t : History} {r : Except Failure (Except Obstacle α)} {value : (String → Except Failure Action) → α}
    (found : Resolves ((Action.Resolver.asking settings.metadataFile).resolve s.uses) c h (.ok a) c₁)
    (rest : Resolutions settings.metadataFile c₁ t [] c')
    (ends : ∀ outcome, outcome s.uses = .ok a → r =
      Ending.settle (value outcome) ((Item.step job index s).ending? outcome settings.placeholder)) :
    Decided settings [.step job index s] value c (h ++ t) r c' := by
  refine ⟨[(s.uses, .ok a)], .found found rest, by simp, fun outcome agrees => ?_⟩
  have resolved : outcome s.uses = .ok a := agrees _ (List.mem_singleton_self _)
  constructor
  · simp only [reached, upTo]
    split <;> simp [Item.uses?, resolved]
  · rw [ends outcome resolved, List.findSome?_singleton]

theorem convertStep_decides (workflow job : String) (index : Nat) (s : Workflow.Step) :
    Decides settings [.step job index s] ((Loader.asking settings).convertStep workflow job index s)
      fun outcome => { name := job ++ "-" ++ toString index, source := sourceOf (outcome s.uses),
                       inputs := s.inputs } := by
  intro c h r c' run
  rcases resolves_bind.1 run with ⟨f, rfl, failed⟩ | ⟨a, h₁, h₂, c₁, rfl, found, rest⟩
  · exact decided_of_failed _ failed
  · by_cases hostable : a.isHostable
    · simp only [hostable, Bool.not_true, Bool.false_eq_true, if_false] at rest
      obtain ⟨t, rfl, last⟩ := resolves_after_report.1 rest
      have calm : Log.saysSkip "Compatible step detected" = false := by decide +kernel
      cases foreign : Loader.foreignInput? settings.placeholder s.inputs with
      | some input =>
        simp only [Loader.asking, foreign] at last
        obtain ⟨rfl, rfl, rfl⟩ := resolves_pure.1 last
        refine decided_of_found found (.report (Log.Event.isSkip_mk calm) .nil) fun outcome resolved => ?_
        simp [Item.ending?, resolved, hostable, foreign, Ending.settle]
      | none =>
        simp only [Loader.asking, foreign] at last
        obtain ⟨rfl, rfl, rfl⟩ := resolves_pure.1 last
        refine decided_of_found found (.report (Log.Event.isSkip_mk calm) .nil) fun outcome resolved => ?_
        simp [Item.ending?, resolved, hostable, foreign, Ending.settle, sourceOf, Loader.stepName]
    · simp only [hostable] at rest
      obtain ⟨rfl, rfl, rfl⟩ := resolves_pure.1 rest
      refine decided_of_found found .nil fun outcome resolved => ?_
      simp [Item.ending?, resolved, hostable, Ending.settle]

theorem convertSteps_decides (workflow job : String) (index : Nat) (steps : List Workflow.Step) :
    Decides settings (stepItems job index steps)
      ((Loader.asking settings).convertSteps workflow job index steps)
      fun outcome => flowSteps outcome job index steps := by
  induction steps generalizing index with
  | nil => exact decides_pure []
  | cons s rest ih =>
    exact decides_bind (convertStep_decides workflow job index s)
      (fun first outcome => first :: flowSteps outcome job (index + 1) rest) (fun _ => rfl)
      fun first => decides_map (ih (index + 1)) (first :: ·) (fun _ => rfl) fun _ => rfl

/-- An obstacle that no resolution can lift ends the walk. -/
theorem decides_obstacle {i : Item} {o : Obstacle} (named : i.uses? = none)
    (ending : ∀ outcome, i.ending? outcome settings.placeholder = some (.skip o)) (later : List Item)
    (value : (String → Except Failure Action) → α) :
    Decides settings (i :: later) (pure (.error o)) value := by
  intro c h r c' run
  obtain ⟨rfl, rfl, rfl⟩ := resolves_pure.1 run
  refine ⟨[], .nil, nofun, fun outcome _ => ?_⟩
  simp [reached, upTo, ending, named, Ending.settle]

theorem convertJobs_decides (workflow : String) (jobs : List (String × Workflow.Job)) :
    Decides settings (jobItems jobs) ((Loader.asking settings).convertJobs workflow jobs)
      fun outcome => jobs.flatMap fun j => flowSteps outcome j.1 0 j.2.steps := by
  induction jobs with
  | nil => exact decides_pure []
  | cons j rest ih =>
    obtain ⟨name, job⟩ := j
    simp only [Loader.convertJobs, jobItems, List.flatMap_cons]
    by_cases empty : job.steps.isEmpty
    · simp only [empty, if_true]
      exact decides_obstacle rfl (fun _ => rfl) _ _
    · simp only [empty]
      refine decides_bind (convertSteps_decides workflow name 0 job.steps)
        (fun steps outcome => steps ++ rest.flatMap fun j => flowSteps outcome j.1 0 j.2.steps) (fun _ => rfl)
        fun steps => decides_after_report (Log.Event.isSkip_mk (by decide +kernel)) ?_
      exact decides_map ih (steps ++ ·) (fun _ => rfl) fun _ => rfl

/-! ## The whole workflow -/

/-- The event that reports an obstacle is the report of a skipped workflow. -/
theorem event_isSkip (name : String) (o : Obstacle) : (o.event name).isSkip = true := by
  cases o
  all_goals
    simp only [Log.Event.isSkip, Obstacle.event]
    decide +kernel

theorem convert_decides (name : String) (w : Workflow) :
    Decides settings w.items ((Loader.asking settings).convert name w)
      fun outcome => w.jobs.flatMap fun j => flowSteps outcome j.1 0 j.2.steps := by
  simp only [Loader.convert, Workflow.items]
  by_cases empty : w.jobs.isEmpty
  · simp only [empty, if_true]
    exact decides_obstacle rfl (fun _ => rfl) [] _
  · simp only [empty]
    exact convertJobs_decides name w.jobs

end

/-- the reports of an ending, for the workflow file `name` -/
def Ending.reports (name : String) : Option Ending → History
  | some (.skip o) => [⟨.log (o.event name), ()⟩]
  | _ => []

/-- A build resolves the steps up to the first decisive item, each once and in the order of the document. That item, or
the lack of one, fixes the result and the report. -/
theorem buildFlow_verdict (settings : Loader.Settings) (name : String) (w : Workflow) {c c' : Cache}
    {h : History} {r : Except Failure (Option Flow)}
    (run : Resolves ((Loader.asking settings).buildFlow name w) c h r c') :
    ∃ (outcome : String → Except Failure Action) (t : History),
      Resolutions settings.metadataFile c t
        ((reached outcome settings.placeholder w.items).map fun uses => (uses, outcome uses)) c' ∧
      h = t ++ Ending.reports name (w.ending? outcome settings.placeholder) ∧
      r = w.verdict outcome settings.placeholder name := by
  rcases resolves_bind.1 run with ⟨f, rfl, failed⟩ | ⟨v, h₁, h₂, c₁, rfl, converted, rest⟩
  · obtain ⟨rs, walk, -, decided⟩ := convert_decides name w c h _ c' failed
    obtain ⟨outcome, agrees⟩ := walk.functional
    obtain ⟨rfl, settled⟩ := decided outcome agrees
    have ending : w.ending? outcome settings.placeholder = some (.failure f) := settle_eq_error settled
    refine ⟨outcome, h, walk, ?_, ?_⟩
    · simp [ending, Ending.reports]
    · simp [Workflow.verdict, ending]
  · obtain ⟨rs, walk, -, decided⟩ := convert_decides name w c h₁ _ c₁ converted
    obtain ⟨outcome, agrees⟩ := walk.functional
    obtain ⟨rfl, settled⟩ := decided outcome agrees
    cases v with
    | error o =>
      have ending : w.ending? outcome settings.placeholder = some (.skip o) := settle_eq_skip settled
      obtain ⟨t, rfl, last⟩ := resolves_after_report.1 rest
      obtain ⟨rfl, rfl, rfl⟩ := resolves_pure.1 last
      refine ⟨outcome, h₁, walk, ?_, ?_⟩
      · simp [ending, Ending.reports]
      · simp [Workflow.verdict, ending]
    | ok steps =>
      obtain ⟨unhindered, rfl⟩ := settle_eq_ok settled
      have ending : w.ending? outcome settings.placeholder = none := unhindered
      have built : h₂ = [] ∧ c' = c₁ ∧ r = w.verdict outcome settings.placeholder name := by
        rcases resolves_bind.1 rest with ⟨f, rfl, failed⟩ | ⟨triggers, h₃, h₄, c₂, rfl, declared, last⟩
        · obtain ⟨rfl, triggers, rfl⟩ := resolves_ofExcept.1 failed
          exact ⟨rfl, rfl, by simp [Workflow.verdict, ending, ← triggers, Except.map]⟩
        · obtain ⟨rfl, triggers, rfl⟩ := resolves_ofExcept.1 declared
          obtain ⟨rfl, rfl, rfl⟩ := resolves_pure.1 last
          exact ⟨rfl, rfl, by simp [Workflow.verdict, ending, ← triggers, Except.map]⟩
      obtain ⟨rfl, rfl, rfl⟩ := built
      refine ⟨outcome, h₁, walk, ?_, rfl⟩
      simp [ending, Ending.reports]

namespace Workflow

variable {outcome : String → Except Failure Action} {placeholder name : String} {w : Workflow}

/-- A workflow is passed over for an obstacle only. -/
theorem verdict_eq_none (passed : w.verdict outcome placeholder name = .ok none) :
    ∃ o, w.ending? outcome placeholder = some (.skip o) := by
  rw [verdict] at passed
  split at passed
  next o ending => exact ⟨o, ending⟩
  · cases passed
  · cases triggers : w.triggers <;> rw [triggers] at passed <;> cases passed

/-- A flow has a step for every step of the workflow. -/
theorem verdict_eq_some {flow : Flow} (built : w.verdict outcome placeholder name = .ok (some flow)) :
    flow.steps = w.jobs.flatMap fun j => flowSteps outcome j.1 0 j.2.steps := by
  rw [verdict] at built
  split at built
  · cases built
  · cases built
  · cases triggers : w.triggers <;> rw [triggers] at built <;> cases built
    rfl

end Workflow

/-- **The first decisive item decides.** Whatever each resolution comes to, a build resolves the steps up to the
first decisive item, each once and in the order of the document, and no step after it. That item, or the lack
of one, fixes the result. A workflow that is passed over is reported once, and no other result is reported so. -/
theorem buildFlow_decided (settings : Loader.Settings) (name : String) (w : Workflow) {c c' : Cache}
    {h : History} {r : Except Failure (Option Flow)}
    (run : Resolves ((Loader.asking settings).buildFlow name w) c h r c') :
    ∃ (outcome : String → Except Failure Action) (t : History),
      Resolutions settings.metadataFile c t
        ((reached outcome settings.placeholder w.items).map fun uses => (uses, outcome uses)) c' ∧
      h = t ++ Ending.reports name (w.ending? outcome settings.placeholder) ∧
      r = w.verdict outcome settings.placeholder name ∧
      (r = .ok none → ∃ o, w.ending? outcome settings.placeholder = some (.skip o) ∧
        h.skips = [o.event name]) ∧
      (r ≠ .ok none → h.skips = []) := by
  obtain ⟨outcome, t, walk, told, result⟩ := buildFlow_verdict settings name w run
  have calm : t.skips = [] := History.skips_eq_nil walk.quiet
  refine ⟨outcome, t, walk, told, result, fun passed => ?_, fun other => ?_⟩
  · obtain ⟨o, ending⟩ := Workflow.verdict_eq_none (result.symm.trans passed)
    refine ⟨o, ending, ?_⟩
    rw [told, ending, History.skips_append, calm]
    simp [Ending.reports, History.skips, History.events, event_isSkip]
  · have unreported : Ending.reports name (w.ending? outcome settings.placeholder) = [] := by
      cases ending : w.ending? outcome settings.placeholder with
      | none => rfl
      | some e =>
        cases e with
        | failure f => rfl
        | skip o => exact absurd (by rw [result, Workflow.verdict, ending]) other
    rw [told, unreported, List.append_nil, calm]

/-! A workflow whose second step has a foreign expression, before a step whose action does not exist. -/

def sampleWorkflow : Workflow where
  jobs := [("a", { steps := [
    { uses := "a/b@v1" },
    { uses := "a/b@v1", inputs := [("key", "$\x7b\x7b secrets.KEY \x7d\x7d")] },
    { uses := "c/d@v1" }] })]

def sampleActions : Content.Fixed where
  list _ _ := .ok []
  file repo path _ :=
    if repo ≠ ⟨"a", "b"⟩ then .error (.status 404 path)
    else if path = "action.yml" then .ok (Text.encode "runs: \x7busing: node12, main: dist/a.js\x7d")
    else .ok (Text.encode "run()")

/-- The workflow is passed over for the expression, though a later step would fail. -/
theorem buildFlow_decided_expression :
    ((((Loader.asking {}).buildFlow "ci.yml" sampleWorkflow).run.run []).reply sampleActions.answer).1 =
        .ok none ∧
      ∃ o : Obstacle, History.skips
        ((((Loader.asking {}).buildFlow "ci.yml" sampleWorkflow).run.run []).replies sampleActions.answer) =
          [o.event "ci.yml"] := by
  have passed :
      ((((Loader.asking {}).buildFlow "ci.yml" sampleWorkflow).run.run []).reply sampleActions.answer).1 =
        .ok none := eq_ok_of_toOption (by decide +kernel)
  have run := resolves_reply sampleActions.answer ((Loader.asking {}).buildFlow "ci.yml" sampleWorkflow) []
  obtain ⟨_, _, -, -, -, skipped, -⟩ := buildFlow_decided {} "ci.yml" sampleWorkflow run
  obtain ⟨o, -, told⟩ := skipped passed
  exact ⟨passed, o, told⟩

end HookFlow
