import HookFlow.Proofs.Action.Memory
import HookFlow.Proofs.Loader.Closure
import HookFlow.Proofs.Loader.Reference
/-!
The life of a loader, over a source that may change at any time.

A session is any sequence of calls of one loader. Nothing is asked of the answers: the source may change between
two calls and during one, it may fail, and the run may be cancelled at any time. Every call is `Recorded`: its
exchanges are those of the resolutions in it and of others that leave the cache alone. So a session as a whole is
a course of resolutions, and what holds of the cache of a course holds of the cache of the loader.

Results:
- `recorded_closed`: every call of a loader is recorded.
- `session_remembers`: the cache of a loader grows, it is never changed, and every entry is what one resolution
  was told.
-/

namespace HookFlow

open HookFlow.Action (Cache Resolving)
open History (calls)

/-! ## Calls are recorded -/

/-- the exchanges of every run are those of the resolutions in it and of others that leave the cache alone -/
def Recorded {α : Type} (metadataFile : String) (x : Resolving Scene α) : Prop :=
  ∀ c h r c', Resolves x c h r c' → ∃ xs, Course metadataFile c h xs c'

section

variable {settings : Loader.Settings} {metadataFile : String} {α : Type}

/-- Computations that leave the cache and the resolver alone are recorded without a resolution. -/
theorem Aside.recorded {x : Resolving Scene α} (aside : Aside Question.IsApart x) :
    Recorded metadataFile x := by
  intro c h r c' run
  obtain ⟨rfl, apart⟩ := aside c h r c' run
  exact ⟨[], Course.asides apart⟩

theorem recorded_bind {β : Type} {x : Resolving Scene α} {f : α → Resolving Scene β}
    (hx : Recorded metadataFile x) (hf : ∀ a, Recorded metadataFile (f a)) : Recorded metadataFile (x >>= f) := by
  intro c h r c' run
  rcases resolves_bind.1 run with ⟨e, rfl, failed⟩ | ⟨a, h₁, h₂, c₁, rfl, run₁, run₂⟩
  · exact hx c h _ c' failed
  · obtain ⟨xs, first⟩ := hx c h₁ _ c₁ run₁
    obtain ⟨ys, second⟩ := hf a c₁ h₂ r c' run₂
    exact ⟨xs ++ ys, first.append second⟩

theorem recorded_within {x : Resolving Scene α} (hx : Recorded metadataFile x) (name value : String) :
    Recorded metadataFile (x.within name value) := by
  intro c h r c' run
  obtain ⟨v, inner, rfl⟩ := resolves_within.1 run
  exact hx c h v c' inner

theorem recorded_resolve (uses : String) :
    Recorded metadataFile ((Action.Resolver.asking metadataFile).resolve uses) := by
  intro c h r c' run
  refine ⟨[⟨uses, c, h, r, c'⟩], ?_⟩
  simpa using Course.resolution (x := ⟨uses, c, h, r, c'⟩) run .nil

/-- **Every call of a loader is recorded.** -/
theorem recorded_closed : Loader.Closed (.asking settings) (Recorded settings.metadataFile) where
  ofExcept v := (aside_ofExcept v).recorded
  bind := recorded_bind
  within name value hx := recorded_within hx name value
  report own := (aside_report (by simp [Question.IsApart, own])).recorded
  list _ _ := (aside_list trivial trivial).recorded
  file _ _ _ := (aside_file trivial trivial).recorded
  resolve := recorded_resolve

end

/-! ## Sessions -/

/-- some calls of one loader, one after another: from the cache `c`, with the exchanges `h`, they lead to the cache
`c'` -/
inductive Loader.Session (settings : Loader.Settings) (c : Cache) : History → Cache → Prop where
  | idle : Loader.Session settings c [] c
  | load {c₁ c' : Cache} {h t : History} {r : Except Failure (List Flow)} (repo : Repository) :
      Loader.Session settings c h c₁ → Resolves ((Loader.asking settings).load repo) c₁ t r c' →
      Loader.Session settings c (h ++ t) c'
  | build {c₁ c' : Cache} {h t : History} {r : Except Failure (Option Flow)} (name : String) (w : Workflow) :
      Loader.Session settings c h c₁ → Resolves ((Loader.asking settings).buildFlow name w) c₁ t r c' →
      Loader.Session settings c (h ++ t) c'
  | eligible {c₁ c' : Cache} {h t : History} {r : Except Failure Bool} (uses : String) :
      Loader.Session settings c h c₁ → Resolves ((Loader.asking settings).isEligible uses) c₁ t r c' →
      Loader.Session settings c (h ++ t) c'
  | resolve {c₁ c' : Cache} {h t : History} {r : Except Failure Action} (uses : String) :
      Loader.Session settings c h c₁ → Resolves ((Loader.asking settings).resolver.resolve uses) c₁ t r c' →
      Loader.Session settings c (h ++ t) c'

theorem Loader.Session.course {settings : Loader.Settings} {c c' : Cache} {h : History}
    (session : Loader.Session settings c h c') : ∃ xs, Course settings.metadataFile c h xs c' := by
  have step {α : Type} {x : Resolving Scene α} {c₁ c' : Cache} {h t : History} {r : Except Failure α}
      (recorded : Recorded settings.metadataFile x) (past : ∃ xs, Course settings.metadataFile c h xs c₁)
      (run : Resolves x c₁ t r c') : ∃ xs, Course settings.metadataFile c (h ++ t) xs c' := by
    obtain ⟨xs, first⟩ := past
    obtain ⟨ys, second⟩ := recorded c₁ t r c' run
    exact ⟨xs ++ ys, first.append second⟩
  induction session with
  | idle => exact ⟨[], .nil⟩
  | load repo _ run ih => exact step (recorded_closed.load repo) ih run
  | build name w _ run ih => exact step (recorded_closed.buildFlow name w) ih run
  | eligible uses _ run ih => exact step (recorded_closed.isEligible uses) ih run
  | resolve uses _ run ih => exact step (recorded_closed.resolve uses) ih run

/-- **What a loader remembers.** Take any calls of a loader that starts with nothing, whatever the source answers
and however they are cancelled. The resolutions in them are one after another; each leaves in the cache what was
there, and a failed one leaves it as it was. A resolution of a text that an earlier one left in the cache, and any
later one, comes to the very action in the cache, calls nobody and does not change the cache. Every entry is what
the calls of one of the resolutions say of its text. -/
theorem session_remembers (settings : Loader.Settings) {h : History} {c : Cache}
    (session : Loader.Session settings [] h c) :
    ∃ xs, Course settings.metadataFile [] h xs c ∧
      (∀ x ∈ xs, x.before.Within x.after ∧ x.after.Within c ∧ ∀ f, x.outcome = .error f → x.after = x.before) ∧
      xs.Pairwise Course.Recalls ∧
      (∀ uses a, c.lookup uses = some a → ∃ x ∈ xs, x.uses = uses ∧ x.outcome = .ok a ∧ x.part <:+: h ∧
        Described settings.metadataFile uses x.part a) ∧
      ∀ t d, Loader.Session settings c t d → c.Within d ∧ ∀ uses a, c.lookup uses = some a →
        ∀ u r e, Resolves ((Loader.asking settings).resolver.resolve uses) d u r e →
          r = .ok a ∧ calls u = [] ∧ e = d := by
  obtain ⟨xs, course⟩ := session.course
  refine ⟨xs, course, fun x hx => ?_, course.recalls, fun uses a cached => ?_, fun t d later => ?_⟩
  · exact (course.each x hx).2
  · exact (course.explained cached).resolve_left nofun
  · obtain ⟨_, course'⟩ := later.course
    exact ⟨course'.grows, fun uses a cached u r e run => resolve_recalled (course'.grows _ _ cached) run⟩

/-! A loader that has loaded a repository, and that resolves its action again when no file is there any more and the
run is cancelled. -/

/-- surroundings in which the run is cancelled and the source is not reached -/
def cancelledAnswer : (q : Question) → Answer q
  | .cancelled => true
  | .log _ => ()
  | .now => ⟨0⟩
  | .list _ _ => .answered (.error (.network "no route"))
  | .file _ _ _ => .answered (.error (.network "no route"))
  | .store _ _ _ _ => .abandoned
  | .deploy _ _ _ => .abandoned

def sampleAction : Action := { runtime := "node12", main := "dist/a.js", source := "run()" }

/-- The action is in the cache as one resolution was told, and is found there. -/
theorem session_remembers_cancelled :
    ∃ h c, Loader.Session {} [] h c ∧ c.lookup "a/b@v1" = some sampleAction ∧
      (∃ part, part <:+: h ∧ Described "action.yml" "a/b@v1" part sampleAction) ∧
      ((((Loader.asking {}).resolver.resolve "a/b@v1").run.run c).reply cancelledAnswer).1 = .ok sampleAction := by
  have loaded := resolves_reply sampleContent.answer ((Loader.asking {}).load sampleRepository) []
  generalize ended : ((((Loader.asking {}).load sampleRepository).run.run []).reply sampleContent.answer) = e
    at loaded
  have cached : e.2.lookup "a/b@v1" = some sampleAction := by
    rw [← ended]
    decide +kernel
  have session : Loader.Session {} [] _ e.2 := .load sampleRepository .idle loaded
  obtain ⟨xs, -, -, -, explained, recalled⟩ := session_remembers {} session
  obtain ⟨x, -, -, -, inside, described⟩ := explained _ _ cached
  have again := resolves_reply cancelledAnswer ((Loader.asking {}).resolver.resolve "a/b@v1") e.2
  obtain ⟨found, -, -⟩ := (recalled [] e.2 .idle).2 _ _ cached _ _ _ again
  exact ⟨_, e.2, session, cached, ⟨x.part, inside, described⟩, found⟩

end HookFlow
