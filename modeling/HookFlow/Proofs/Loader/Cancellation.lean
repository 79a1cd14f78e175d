import HookFlow.Proofs.Action.Memory
import HookFlow.Proofs.Cancellation
import HookFlow.Proofs.Loader.Closure
/-!
Loading that is cancelled.

A computation with a cache ends with a result and a cache. Where a cancellation stops it, the result is a
cancellation, and the cache is behind the one that the computation could have come to otherwise (`Outrun`): the
cache only grows, and a resolution that cannot be finished leaves nothing in it. With that relation everything
that a loader does heeds cancellations.

Results:
- `resolve_heeds`: a resolution heeds cancellations.
- `load_cancelled`: what a cancelled loading calls, comes to and leaves in the cache, beside the same loading
  without a cancellation.
-/

namespace HookFlow

open HookFlow.Action (Cache Resolving)
open History (calls)

/-- a cancellation, and a cache that is within the one that is reached otherwise -/
def Outrun {α : Type} (s s' : Except Failure α × Cache) : Prop := IsCancellation s.1 ∧ s.2.Within s'.2

/-- from every cache, the computation heeds cancellations and only lets the cache grow -/
structure Heedful {α : Type} (x : Resolving Scene α) : Prop where
  heeds (c : Cache) : Heeds Outrun false (x.run.run c)
  grows {c c' : Cache} {h : History} {r : Except Failure α} : Resolves x c h r c' → c.Within c'

section

variable {α β : Type} {settings : Loader.Settings}

theorem Aside.grows {P : Question → Prop} {x : Resolving Scene α} (aside : Aside P x) {c c' : Cache} {h : History}
    {r : Except Failure α} (run : Resolves x c h r c') : c.Within c' := by
  rw [(aside c h r c' run).1]
  exact .refl c

/-- Two computations in sequence heed cancellations from one cache, given what the first one can come to. -/
theorem heeds_sequence {x : Resolving Scene α} {f : α → Resolving Scene β} {c : Cache}
    (hx : Heeds Outrun false (x.run.run c))
    (hf : ∀ h a c₁, Resolves x c h (.ok a) c₁ → Heeds Outrun false ((f a).run.run c₁))
    (grows : ∀ h a c₁ t r c', Resolves x c h (.ok a) c₁ → Resolves (f a) c₁ t r c' → c₁.Within c') :
    Heeds Outrun false ((x >>= f).run.run c) := by
  change Heeds Outrun false ((x.run.run c) >>= fun s => (ExceptT.bindCont f s.1).run s.2)
  refine hx.bind (fun h s run => ?_) ?_
  · obtain ⟨v, c₁⟩ := s
    cases v with
    | error e => exact heeds_pure _ _
    | ok a => exact hf h a c₁ run
  · rintro ⟨_, c₁⟩ h' ⟨v', c₂⟩ ⟨⟨e, rfl, cancelled⟩, within⟩ run t b ⟨rfl, rfl⟩
    refine ⟨rfl, fun t' b' run' => ⟨⟨e, rfl, cancelled⟩, ?_⟩⟩
    cases v' with
    | error e' =>
      obtain ⟨-, rfl⟩ := run'
      exact within
    | ok a => exact within.trans (grows h' a c₂ t' b'.1 b'.2 run run')

namespace Heedful

theorem ofExcept (v : Except Failure α) : Heedful (MonadExcept.ofExcept v) where
  heeds c := by cases v <;> exact heeds_pure _ _
  grows run := (aside_ofExcept (P := fun _ => True) v).grows run

theorem pure (a : α) : Heedful (Pure.pure a : Resolving Scene α) := .ofExcept (.ok a)

theorem bind {x : Resolving Scene α} {f : α → Resolving Scene β} (hx : Heedful x) (hf : ∀ a, Heedful (f a)) :
    Heedful (x >>= f) where
  heeds c := heeds_sequence (hx.heeds c) (fun _ a c₁ _ => (hf a).heeds c₁) fun _ a _ _ _ _ _ run => (hf a).grows run
  grows run := by
    rcases resolves_bind.1 run with ⟨e, rfl, failed⟩ | ⟨a, h₁, h₂, c₁, rfl, run₁, run₂⟩
    · exact hx.grows failed
    · exact (hx.grows run₁).trans ((hf a).grows run₂)

theorem within {x : Resolving Scene α} (name value : String) (hx : Heedful x) : Heedful (x.within name value) where
  heeds c := by
    change Heeds Outrun false ((x.run.run c) >>= fun s => Pure.pure (s.1.mapError (·.within name value), s.2))
    refine (hx.heeds c).bind (fun _ _ _ => heeds_pure _ _) ?_
    rintro ⟨_, c₁⟩ h' ⟨v', c₂⟩ ⟨⟨e, rfl, cancelled⟩, within⟩ - t b ⟨rfl, rfl⟩
    refine ⟨rfl, ?_⟩
    rintro t' b' ⟨-, rfl⟩
    exact ⟨⟨e.within name value, rfl, cancelled⟩, within⟩
  grows run := by
    obtain ⟨v, inner, rfl⟩ := resolves_within.1 run
    exact hx.grows inner

theorem report {e : Log.Event} : Heedful (Resolving.of (do Scene.supervisor.log e; return .ok ())) where
  heeds c := by
    have logged : Heeds (fun _ _ => False) false
        (Scene.supervisor.log e >>= fun _ => (Pure.pure (.ok ()) : Scene (Except Failure Unit))) :=
      heeds_log.after fun _ _ _ => heeds_pure _ _
    exact logged.after (S := Outrun) fun _ a _ => heeds_pure (a, c) _
  grows run := (aside_report (P := fun _ => True) trivial).grows run

/-- A computation without a cache leaves it as it is. -/
theorem of {x : Scene (Except Failure α)} (hx : Heeds Cancelled false x) : Heedful (Resolving.of x) where
  heeds c := by
    change Heeds Outrun false (x >>= fun a => Pure.pure (a, c))
    refine hx.bind (fun _ _ _ => heeds_pure _ _) ?_
    rintro v h' v' cancelled - t b ⟨rfl, rfl⟩
    refine ⟨rfl, ?_⟩
    rintro t' b' ⟨-, rfl⟩
    exact ⟨cancelled, .refl c⟩
  grows run := by
    rw [(resolves_of.1 run).2]
    exact .refl _

theorem list (repo : Repository) (path : String) : Heedful (Resolving.of
    (Scene.supervisor.attempt Content.Fault.toFailure (Scene.source.list repo path))) :=
  .of (heeds_attempt heeds_list)

theorem file (repo : Repository) (path : String) (gitRef : Option String) : Heedful (Resolving.of
    (Scene.supervisor.attempt Content.Fault.toFailure (Scene.source.file repo path gitRef))) :=
  .of (heeds_attempt heeds_file)

end Heedful

/-! ## Resolutions -/

section Resolver

variable {metadataFile : String}

theorem look_heedful (uses : String) (reference : ActionReference) :
    Heedful ((Action.Resolver.asking metadataFile).look uses reference) := by
  refine Heedful.report.bind fun _ => ((Heedful.file _ _ _).within "uses" uses).bind fun raw => ?_
  cases Action.ofMetadata? raw with
  | none => exact .ofExcept (.error _)
  | some a =>
    by_cases hostable : a.isHostable
    · simp only [hostable, if_true]
      exact ((Heedful.file _ _ _).within "uses" uses).bind fun bytes => .ofExcept _
    · simp only [hostable]
      exact .pure a

/-- What was found aside, for a text that is not in the cache, may be added to the cache. -/
theorem remember_heeds {x : Resolving Scene Action} {P : Question → Prop} {uses : String} {c : Cache}
    (hx : Heedful x) (aside : Aside P x) (missing : c.lookup uses = none) :
    Heeds Outrun false ((x >>= fun a => do modify ((uses, a) :: ·); return a : Resolving Scene Action).run.run c) := by
  refine heeds_sequence (hx.heeds c) (fun _ _ _ _ => heeds_pure _ _) fun h a c₁ t r c' looked rest => ?_
  rw [(aside c h _ c₁ looked).1] at rest ⊢
  rcases resolves_bind.1 rest with ⟨e, rfl, failed⟩ | ⟨_, h₃, h₄, c₂, rfl, stored, last⟩
  · obtain ⟨-, ⟨⟩, -⟩ := resolves_modify.1 failed
  · obtain ⟨rfl, -, rfl⟩ := resolves_modify.1 stored
    obtain ⟨rfl, rfl, rfl⟩ := resolves_pure.1 last
    exact fun _ _ => lookup_cons_kept missing

/-- **A resolution heeds cancellations.** -/
theorem resolve_heeds (uses : String) (c : Cache) :
    Heeds Outrun false (((Action.Resolver.asking metadataFile).resolve uses).run.run c) := by
  refine heeds_sequence (heeds_pure _ _) ?_ ?_
  · rintro h seen c₁ asked
    obtain ⟨rfl, same, rfl⟩ := resolves_get.1 asked
    obtain rfl := Except.ok.inj same
    cases found : List.lookup uses seen with
    | some a => exact (Heedful.report.bind fun _ => Heedful.pure a).heeds seen
    | none =>
      cases parsed : ActionReference.parse? uses with
      | some reference => exact remember_heeds (look_heedful uses reference) (look_aside uses reference) found
      | none =>
        refine heeds_sequence (Heedful.report.heeds seen) (fun h _ c₁ told => ?_) fun h _ c₁ t r c' told run => ?_
        · obtain ⟨-, -, rfl⟩ := resolves_report.1 told
          exact remember_heeds (.pure ({} : Action)) (aside_pure (P := fun _ => True) ({} : Action)) found
        · obtain ⟨-, -, rfl⟩ := resolves_report.1 told
          rcases Action.Resolving.leads_remember.1 run with ⟨e, rfl, failed⟩ | ⟨a, c₂, rfl, nothing, rfl⟩
          · obtain ⟨-, ⟨⟩, -⟩ := resolves_pure.1 failed
          · obtain ⟨rfl, -, rfl⟩ := resolves_pure.1 nothing
            exact fun _ _ => lookup_cons_kept found
  · intro h seen c₁ t r c' asked run
    have whole := resolve_within (resolves_bind.2 (.inr ⟨seen, h, t, c₁, rfl, asked, run⟩))
    rwa [(resolves_get.1 asked).2.2]

end Resolver

/-- **Everything that a loader does heeds cancellations.** -/
theorem heedful_closed : Loader.Closed (.asking settings) Heedful where
  ofExcept := .ofExcept
  bind := .bind
  within := .within
  report _ := .report
  list := .list
  file := .file
  resolve uses := ⟨resolve_heeds uses, resolve_within⟩

end

/-- **A cancellation takes nothing but the end of a loading away.** Whatever the source answers, whatever the cache
holds and whenever the run is cancelled, no call begins once the run is cancelled, the calls are the first ones of
the run without a cancellation, and the result is that run's result or a cancellation. The cache keeps what was
there and holds nothing that the other run does not come to. A run that is cancelled before it starts calls nobody
and comes to a cancellation. -/
theorem load_cancelled (settings : Loader.Settings) (repo : Repository) (cache : Cache) (s : Collaborators)
    (c : Cancellation) :
    let load := ((Loader.asking settings).load repo).run.run cache
    let stopped := s.run c load
    let free := s.run .never load
    let early := s.run .atStart load
    c.IsRespected [] stopped.1 ∧
      (calls stopped.1).map (·.1) <+: (calls free.1).map (·.1) ∧
      (stopped.2.1 = free.2.1 ∨ IsCancellation stopped.2.1) ∧
      cache.Within stopped.2.2 ∧ stopped.2.2.Within free.2.2 ∧
      IsCancellation early.2.1 ∧ calls early.1 = [] := by
  intro load stopped free early
  have heedful : Heedful ((Loader.asking settings).load repo) := heedful_closed.load repo
  obtain ⟨respected, first_calls, result⟩ := (heedful.heeds cache).play (c := c) s nofun
  have run : Resolves ((Loader.asking settings).load repo) cache stopped.1 stopped.2.1 stopped.2.2 :=
    Dialogue.runs_play (s.answer c) [] load
  refine ⟨respected, first_calls, result.imp (congrArg Prod.fst) And.left, heedful.grows run, ?_,
    ⟨_, rfl, rfl⟩, rfl⟩
  rcases result with same | ⟨-, within⟩
  · rw [show stopped.2 = free.2 from same]
    exact .refl _
  · exact within

end HookFlow
