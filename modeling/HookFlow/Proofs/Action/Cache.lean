import HookFlow.Proofs.Surroundings
/-!
The cache of a resolver, over content that does not change.

`Content.Fixed` is a source with one fixed result for each listing and each file. The invariant is `Tied`:
whatever the cache holds for a `uses` text is what the source would answer for it now. `Yields` says of a
computation that it keeps the cache tied and comes to one result from every tied cache, unless the run is
cancelled on the way; it is closed under sequence, so what is read off the cache never shows.

Results:
- `resolve_yields`: a resolution comes to what the source answers, whether it is found in the cache or fetched.
- `Yields.alone_eq`: such a computation comes to the result that it has with a resolver that has seen nothing.
-/

namespace HookFlow

open HookFlow.Action (Cache Resolving)
open Dialogue (runs_bind runs_attempt)

/-! ## Content that does not change -/

/-- what each listing and each file is answered with, whenever it is asked for -/
structure Content.Fixed where
  list (repo : Repository) (path : String) : Except Content.Fault (List Content.Entry)
  file (repo : Repository) (path : String) (gitRef : Option String) : Except Content.Fault Text.Bytes

namespace Content.Fixed

variable (f : Content.Fixed)

/-- surroundings with this content in which nobody cancels; a run that reads content needs no more -/
def answer : (q : Question) → Answer q
  | .cancelled => false
  | .log _ => ()
  | .now => ⟨0⟩
  | .list repo path => .answered (f.list repo path)
  | .file repo path gitRef => .answered (f.file repo path gitRef)
  | .store _ _ _ _ => .answered (.ok "")
  | .deploy _ _ _ => .answered (.ok "")

/-- whether an exchange agrees with this content; a call may also be given up -/
def Agrees : Exchange Answer → Prop
  | ⟨.list repo path, a⟩ => a = .answered (f.list repo path) ∨ a = .abandoned
  | ⟨.file repo path gitRef, a⟩ => a = .answered (f.file repo path gitRef) ∨ a = .abandoned
  | _ => True

/-- whether a history agrees with this content -/
def Admits (h : History) : Prop := ∀ e ∈ h, f.Agrees e

/-- the bytes of a file of the action `uses` -/
def fetch (uses : String) (reference : ActionReference) (path : String) : Except Failure Text.Bytes :=
  ((f.file ⟨reference.owner, reference.repo⟩ path (some reference.gitRef)).mapError
    Content.Fault.toFailure).mapError (·.within "uses" uses)

/-- a published action, as this content describes it -/
def look (metadataFile uses : String) (reference : ActionReference) : Except Failure Action := do
  let raw ← f.fetch uses reference metadataFile
  match Action.ofMetadata? raw with
  | none => throw (Action.malformed uses)
  | some a =>
    if a.isHostable then
      let bytes ← f.fetch uses reference a.main
      Action.Resolver.withSource uses a bytes
    else return a

/-- the action that a `uses` text names, as this content describes it -/
def action (metadataFile uses : String) : Except Failure Action :=
  match ActionReference.parse? uses with
  | some reference => f.look metadataFile uses reference
  | none => return {}

theorem admits_append {h t : History} : f.Admits (h ++ t) ↔ f.Admits h ∧ f.Admits t := by
  simp only [Admits, List.mem_append]
  constructor
  · intro all
    exact ⟨fun e he => all e (.inl he), fun e he => all e (.inr he)⟩
  · rintro ⟨first, second⟩ e (he | he)
    · exact first e he
    · exact second e he

end Content.Fixed

/-- whether an exchange tells of a cancellation -/
def Interrupts : Exchange Answer → Prop
  | ⟨.cancelled, stop⟩ => stop = true
  | ⟨.list _ _, a⟩ => a = .abandoned
  | ⟨.file _ _ _, a⟩ => a = .abandoned
  | ⟨.store _ _ _ _, a⟩ => a = .abandoned
  | ⟨.deploy _ _ _, a⟩ => a = .abandoned
  | _ => False

/-- whether a run was cancelled on the way -/
def History.Interrupted (h : History) : Prop := ∃ e ∈ h, Interrupts e

/-- whether a result is a cancellation -/
def IsCancellation {α : Type} (r : Except Failure α) : Prop := ∃ e, r = .error e ∧ e.category = .cancelled

/-! ## What a computation yields -/

/-- everything in the cache is what the content has for it -/
def Tied (f : Content.Fixed) (metadataFile : String) (c : Cache) : Prop :=
  ∀ uses a, c.lookup uses = some a → f.action metadataFile uses = .ok a

theorem tied_nil (f : Content.Fixed) (metadataFile : String) : Tied f metadataFile [] := nofun

/-- from every tied cache, and however it is cancelled, `x` leaves a tied cache and comes to `v` unless it is
cancelled -/
def Yields {α : Type} (f : Content.Fixed) (metadataFile : String) (x : Resolving Scene α)
    (v : Except Failure α) : Prop :=
  ∀ c h r c', Tied f metadataFile c → f.Admits h → Resolves x c h r c' →
    Tied f metadataFile c' ∧ (r = v ∨ h.Interrupted ∧ IsCancellation r)

section Yields

variable {f : Content.Fixed} {metadataFile : String} {α β : Type}

theorem yields_pure (a : α) : Yields f metadataFile (pure a) (.ok a) := by
  intro c h r c' tied _ run
  obtain ⟨rfl, rfl, rfl⟩ := resolves_pure.1 run
  exact ⟨tied, .inl rfl⟩

theorem yields_ofExcept (v : Except Failure α) : Yields f metadataFile (MonadExcept.ofExcept v) v := by
  intro c h r c' tied _ run
  obtain ⟨rfl, rfl, rfl⟩ := resolves_ofExcept.1 run
  exact ⟨tied, .inl rfl⟩

theorem yields_throw (e : Failure) : Yields f metadataFile (throw e : Resolving Scene α) (.error e) := by
  intro c h r c' tied _ run
  obtain ⟨rfl, rfl, rfl⟩ := resolves_throw.1 run
  exact ⟨tied, .inl rfl⟩

theorem yields_bind {x : Resolving Scene α} {g : α → Resolving Scene β} {v : Except Failure α}
    {w : α → Except Failure β} (hx : Yields f metadataFile x v)
    (hg : ∀ a, Yields f metadataFile (g a) (w a)) : Yields f metadataFile (x >>= g) (v >>= w) := by
  intro c h r c' tied admits run
  rcases resolves_bind.1 run with ⟨e, rfl, failed⟩ | ⟨a, h₁, h₂, c₁, rfl, run₁, run₂⟩
  · obtain ⟨tied', rfl | ⟨interrupted, _, ⟨⟩, cancelled⟩⟩ := hx c h _ c' tied admits failed
    · exact ⟨tied', .inl rfl⟩
    · exact ⟨tied', .inr ⟨interrupted, e, rfl, cancelled⟩⟩
  · obtain ⟨admits₁, admits₂⟩ := f.admits_append.1 admits
    obtain ⟨tied₁, rfl | ⟨_, _, ⟨⟩, _⟩⟩ := hx c h₁ _ c₁ tied admits₁ run₁
    obtain ⟨tied', same | ⟨⟨e, he, interrupts⟩, cancelled⟩⟩ := hg a c₁ h₂ r c' tied₁ admits₂ run₂
    · exact ⟨tied', .inl same⟩
    · exact ⟨tied', .inr ⟨⟨e, List.mem_append_right _ he, interrupts⟩, cancelled⟩⟩

theorem yields_within {x : Resolving Scene α} {v : Except Failure α} (hx : Yields f metadataFile x v)
    (name value : String) :
    Yields f metadataFile (x.within name value) (v.mapError (·.within name value)) := by
  intro c h r c' tied admits run
  obtain ⟨u, inner, rfl⟩ := resolves_within.1 run
  obtain ⟨tied', rfl | ⟨interrupted, e, rfl, cancelled⟩⟩ := hx c h u c' tied admits inner
  · exact ⟨tied', .inl rfl⟩
  · exact ⟨tied', .inr ⟨interrupted, _, rfl, cancelled⟩⟩

/-- A supervised call of the source comes to what the content has, or is cancelled. -/
theorem yields_attempt {call : Scene (Reply Content.Fault α)} {v : Except Content.Fault α}
    (answered : ∀ h r, f.Admits h → call.Runs h r →
      r = .answered v ∨ r = .abandoned ∧ h.Interrupted) :
    Yields f metadataFile (Resolving.of (Scene.supervisor.attempt Content.Fault.toFailure call))
      (v.mapError Content.Fault.toFailure) := by
  intro c h r c' tied admits run
  obtain ⟨inner, rfl⟩ := resolves_of.1 run
  refine ⟨tied, ?_⟩
  rcases runs_attempt.1 inner with ⟨rfl, rfl⟩ | ⟨t, reply, rfl, call, rfl⟩
  · exact .inr ⟨⟨_, List.mem_singleton_self _, rfl⟩, _, rfl, rfl⟩
  · have admits' : f.Admits t := fun e he => admits e (List.mem_cons_of_mem _ he)
    rcases answered t reply admits' call with rfl | ⟨rfl, e, he, interrupts⟩
    · left
      cases v <;> rfl
    · exact .inr ⟨⟨e, List.mem_cons_of_mem _ he, interrupts⟩, _, rfl, rfl⟩

theorem yields_list (repo : Repository) (path : String) :
    Yields f metadataFile
      (Resolving.of (Scene.supervisor.attempt Content.Fault.toFailure (Scene.source.list repo path)))
      ((f.list repo path).mapError Content.Fault.toFailure) := by
  refine yields_attempt fun h r admits run => ?_
  obtain rfl := Scene.runs_list.1 run
  rcases admits _ (List.mem_singleton_self _) with same | given_up
  · exact .inl same
  · exact .inr ⟨given_up, _, List.mem_singleton_self _, given_up⟩

theorem yields_file (repo : Repository) (path : String) (gitRef : Option String) :
    Yields f metadataFile
      (Resolving.of (Scene.supervisor.attempt Content.Fault.toFailure (Scene.source.file repo path gitRef)))
      ((f.file repo path gitRef).mapError Content.Fault.toFailure) := by
  refine yields_attempt fun h r admits run => ?_
  obtain rfl := Scene.runs_file.1 run
  rcases admits _ (List.mem_singleton_self _) with same | given_up
  · exact .inl same
  · exact .inr ⟨given_up, _, List.mem_singleton_self _, given_up⟩

theorem yields_report (e : Log.Event) :
    Yields f metadataFile (Resolving.of (do Scene.supervisor.log e; return .ok ())) (.ok ()) := by
  intro c h r c' tied _ run
  obtain ⟨rfl, rfl, rfl⟩ := resolves_report.1 run
  exact ⟨tied, .inl rfl⟩

/-- A report changes nothing. -/
theorem yields_after_report {e : Log.Event} {g : Unit → Resolving Scene β} {w : Except Failure β}
    (hg : Yields f metadataFile (g ()) w) :
    Yields f metadataFile (Resolving.of (do Scene.supervisor.log e; return .ok ()) >>= g) w :=
  yields_bind (yields_report e) fun _ => hg

end Yields

/-! ## Resolutions -/

section Resolver

variable {f : Content.Fixed} {metadataFile : String}

theorem look_yields (uses : String) (reference : ActionReference) :
    Yields f metadataFile ((Action.Resolver.asking metadataFile).look uses reference)
      (f.look metadataFile uses reference) := by
  refine yields_after_report ?_
  refine yields_bind (yields_within (yields_file _ _ _) "uses" uses) fun raw => ?_
  cases Action.ofMetadata? raw with
  | none => exact yields_throw _
  | some a =>
    by_cases hostable : a.isHostable
    · simp only [hostable, if_true]
      exact yields_bind (yields_within (yields_file _ _ _) "uses" uses) fun bytes => yields_ofExcept _
    · simp only [hostable]
      exact yields_pure a

/-- What is added to a tied cache for a text is what the content has for it. -/
theorem tied_cons {c : Cache} {uses : String} {a : Action} (tied : Tied f metadataFile c)
    (same : f.action metadataFile uses = .ok a) : Tied f metadataFile ((uses, a) :: c) := by
  intro other b found
  rw [List.lookup_cons] at found
  split at found
  · rename_i eq
    rw [eq_of_beq eq, same, Option.some.inj found]
  · exact tied other b found

/-- **A resolution does not depend on the cache.** -/
theorem resolve_yields (uses : String) :
    Yields f metadataFile ((Action.Resolver.asking metadataFile).resolve uses)
      (f.action metadataFile uses) := by
  intro c h r c' tied admits run
  have described : f.action metadataFile uses = match ActionReference.parse? uses with
    | some reference => f.look metadataFile uses reference
    | none => .ok {} := rfl
  rcases Action.Resolver.leads_resolve run with ⟨a, found, -, rfl, rfl⟩ |
    ⟨-, ⟨reference, c₁, parsed, looked, ends⟩ | ⟨foreign, -, rfl, rfl⟩⟩
  · exact ⟨tied, .inl (tied uses a found).symm⟩
  · rw [parsed] at described
    rcases ends with ⟨e, rfl, rfl⟩ | ⟨a, rfl, rfl⟩
    · rw [described]
      exact look_yields uses reference c h _ c' tied admits looked
    · obtain ⟨tied₁, same | ⟨-, _, ⟨⟩, -⟩⟩ := look_yields uses reference c h _ c₁ tied admits looked
      have known : f.action metadataFile uses = .ok a := described.trans same.symm
      exact ⟨tied_cons tied₁ known, .inl known.symm⟩
  · rw [foreign] at described
    exact ⟨tied_cons tied described, .inl described.symm⟩

end Resolver

/-! ## A resolver that has seen nothing -/

section Alone

variable {f : Content.Fixed} {metadataFile : String} {α : Type} {x : Resolving Scene α}
  {v : Except Failure α}

/-- what comes of a computation with a resolver that has seen nothing, when nobody cancels -/
def Content.Fixed.alone (f : Content.Fixed) (x : Resolving Scene α) : Except Failure α :=
  ((x.run.run []).reply f.answer).1

/-- Answers that are the content's own agree with it, and none of them is a cancellation. -/
theorem agrees_of_answer {e : Exchange Answer} (same : e.2 = f.answer e.1) :
    f.Agrees e ∧ ¬ Interrupts e := by
  obtain ⟨q, a⟩ := e
  obtain rfl : a = f.answer q := same
  cases q with
  | list repo path => exact ⟨.inl rfl, nofun⟩
  | file repo path gitRef => exact ⟨.inl rfl, nofun⟩
  | _ => exact ⟨trivial, nofun⟩

theorem admits_replies (f : Content.Fixed) {β : Type} (y : Scene β) : f.Admits (y.replies f.answer) :=
  fun _ he => (agrees_of_answer (Dialogue.answer_of_mem_replies he)).1

/-- When nobody cancels, the result from a tied cache is the one that the computation yields. -/
theorem Yields.reply_eq (hx : Yields f metadataFile x v) {c : Cache} (tied : Tied f metadataFile c) :
    ((x.run.run c).reply f.answer).1 = v := by
  obtain ⟨-, same | ⟨⟨e, he, interrupts⟩, -⟩⟩ :=
    hx c _ _ _ tied (admits_replies f _) (resolves_reply f.answer x c)
  · exact same
  · exact absurd interrupts (agrees_of_answer (Dialogue.answer_of_mem_replies he)).2

theorem Yields.alone_eq (hx : Yields f metadataFile x v) : f.alone x = v :=
  hx.reply_eq (tied_nil f metadataFile)

end Alone

end HookFlow
