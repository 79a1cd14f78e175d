import HookFlow.Proofs.Action.Resolving
import HookFlow.Proofs.Loader.Closure
/-!
What the questions of a loader are about.

A loader asks its supervisor and its source, and nobody else. So what holds of every question of these holds of every
question of a loading, whatever it is answered.

Results:
- `Asks.bind` and the rules beside it.
- `Loader.asks_closed`: the rule for everything that a loader does.
-/

namespace HookFlow

variable {Q : Type} {A : Q → Type} {α β ε : Type} {K : Q → Prop}

/-! ## Dialogues -/

namespace Dialogue

/-- whether all questions that a dialogue can ask have a property -/
def Asks (K : Q → Prop) (x : Dialogue A α) : Prop := ∀ h r, x.Runs h r → ∀ e ∈ h, K e.1

namespace Asks

theorem pure (a : α) : Asks K (Pure.pure a : Dialogue A α) := by
  rintro h r ⟨rfl, -⟩ e he
  cases he

theorem question {q : Q} (holds : K q) : Asks K (Dialogue.question q : Dialogue A (A q)) := by
  intro h r run e he
  rw [runs_question.1 run, List.mem_singleton] at he
  rw [he]
  exact holds

theorem bind {x : Dialogue A α} {f : α → Dialogue A β} (hx : Asks K x) (hf : ∀ a, Asks K (f a)) :
    Asks K (x >>= f) := by
  intro h r run e he
  obtain ⟨a, h₁, h₂, rfl, first, later⟩ := runs_bind.1 run
  rcases List.mem_append.1 he with early | late
  · exact hx h₁ a first e early
  · exact hf a h₂ r later e late

theorem forM {xs : List α} {f : α → Dialogue A PUnit} (each : ∀ a ∈ xs, Asks K (f a)) : Asks K (xs.forM f) := by
  induction xs with
  | nil => exact .pure _
  | cons a rest ih =>
    obtain ⟨first, later⟩ := List.forall_mem_cons.1 each
    exact first.bind fun _ => ih later

/-- Nothing is left in a history of what a dialogue does not ask. -/
theorem filterMap_eq_nil {x : Dialogue A α} (hx : Asks K x) {h : List (Exchange A)} {r : α} (run : x.Runs h r)
    {read : Exchange A → Option β} (unread : ∀ e, K e.1 → read e = none) : h.filterMap read = [] :=
  List.filterMap_eq_nil_iff.2 fun e he => unread e (hx h r run e he)

end Asks

end Dialogue

open Dialogue (Asks)

/-! ## Computations that keep a cache -/

namespace Action.Resolving

/-- whether all questions that a computation can ask have a property, whatever is in the cache -/
def Asks (K : Q → Prop) (x : Resolving (Dialogue A) α) : Prop := ∀ c, Dialogue.Asks K (x.run.run c)

namespace Asks

theorem of_leads {x : Resolving (Dialogue A) α}
    (each : ∀ c h r c', Leads x c h r c' → ∀ e ∈ h, K e.1) : Asks K x := fun c h r run e he => each c h r.1 r.2 run e he

theorem ofExcept (v : Except Failure α) : Asks K (MonadExcept.ofExcept v : Resolving (Dialogue A) α) := by
  refine of_leads fun c h r c' run e he => ?_
  obtain ⟨rfl, -⟩ := leads_ofExcept.1 run
  cases he

theorem pure (a : α) : Asks K (Pure.pure a : Resolving (Dialogue A) α) := ofExcept (.ok a)

theorem getCache : Asks K (get : Resolving (Dialogue A) Cache) := by
  refine of_leads fun c h r c' run e he => ?_
  obtain ⟨rfl, -⟩ := leads_get.1 run
  cases he

theorem modifyCache (g : Cache → Cache) : Asks K (modify g : Resolving (Dialogue A) PUnit) := by
  refine of_leads fun c h r c' run e he => ?_
  obtain ⟨rfl, -⟩ := leads_modify.1 run
  cases he

theorem of {x : Dialogue A (Except Failure α)} (hx : Dialogue.Asks K x) : Asks K (Resolving.of x) := by
  refine of_leads fun c h r c' run e he => ?_
  exact hx h r (leads_of.1 run).1 e he

theorem bind {x : Resolving (Dialogue A) α} {f : α → Resolving (Dialogue A) β} (hx : Asks K x)
    (hf : ∀ a, Asks K (f a)) : Asks K (x >>= f) := by
  refine of_leads fun c h r c' run e he => ?_
  rcases leads_bind.1 run with ⟨e', -, failed⟩ | ⟨a, h₁, h₂, c₁, rfl, first, later⟩
  · exact hx c h _ failed e he
  · rcases List.mem_append.1 he with early | late
    · exact hx c h₁ _ first e early
    · exact hf a c₁ h₂ _ later e late

theorem within {x : Resolving (Dialogue A) α} (hx : Asks K x) (name value : String) : Asks K (x.within name value) := by
  refine of_leads fun c h r c' run e he => ?_
  obtain ⟨v, inner, -⟩ := leads_within.1 run
  exact hx c h _ inner e he

end Asks

end Action.Resolving

/-! ## Loaders -/

open HookFlow.Action (Resolving)

theorem Supervisor.asks_attempt {s : Supervisor (Dialogue A)} {toFailure : ε → Failure}
    {call : Dialogue A (Reply ε α)} (cancelled : Asks K s.cancelled) (called : Asks K call) :
    Asks K (s.attempt toFailure call) := by
  refine cancelled.bind fun stop => ?_
  cases stop with
  | true => exact .pure _
  | false => exact called.bind fun reply => .pure _

theorem Supervisor.asks_report {s : Supervisor (Dialogue A)} {e : Log.Event} (told : Asks K (s.log e)) :
    Resolving.Asks K (Resolving.of (do s.log e; return .ok ())) := .of (told.bind fun _ => .pure _)

theorem Action.Resolver.asks_resolve {r : Action.Resolver (Dialogue A)} (cancelled : Asks K r.supervisor.cancelled)
    (log : ∀ e, Asks K (r.supervisor.log e)) (file : ∀ repo path gitRef, Asks K (r.source.file repo path (some gitRef)))
    (uses : String) : Resolving.Asks K (r.resolve uses) := by
  have fetched (reference : ActionReference) (path : String) : Resolving.Asks K (r.fetch reference path) :=
    .of (Supervisor.asks_attempt cancelled (file _ _ _))
  have looked (reference : ActionReference) : Resolving.Asks K (r.look uses reference) := by
    refine (Supervisor.asks_report (log _)).bind fun _ => ((fetched reference _).within _ _).bind fun raw => ?_
    split
    · exact .ofExcept (.error _)
    · split
      · exact ((fetched reference _).within _ _).bind fun bytes => .ofExcept _
      · exact .pure _
  refine Resolving.Asks.getCache.bind fun seen => ?_
  split
  · exact (Supervisor.asks_report (log _)).bind fun _ => .pure _
  · have remembered (a : Action) : Resolving.Asks K (do modify ((uses, a) :: ·); return a : Resolving (Dialogue A) _) :=
      (Resolving.Asks.modifyCache _).bind fun _ => .pure a
    split
    · exact (looked _).bind remembered
    · exact (Supervisor.asks_report (log _)).bind fun _ => .bind (.pure ({} : Action)) remembered

/-- **What holds of every question to the supervisor and to the source holds of every question of a loader.** -/
theorem Loader.asks_closed {l : Loader (Dialogue A)} (cancelled : Asks K l.supervisor.cancelled)
    (log : ∀ e, Asks K (l.supervisor.log e)) (list : ∀ repo path, Asks K (l.source.list repo path))
    (file : ∀ repo path gitRef, Asks K (l.source.file repo path gitRef)) : l.Closed (Resolving.Asks K) where
  ofExcept := .ofExcept
  bind := .bind
  within name value hx := hx.within name value
  report _ := Supervisor.asks_report (log _)
  list _ _ := .of (Supervisor.asks_attempt cancelled (list _ _))
  file _ _ _ := .of (Supervisor.asks_attempt cancelled (file _ _ _))
  resolve uses := Action.Resolver.asks_resolve cancelled log (fun _ _ _ => file _ _ _) uses

end HookFlow
