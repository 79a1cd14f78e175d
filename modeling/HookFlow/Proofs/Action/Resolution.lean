import HookFlow.Proofs.Action.Cache
/-!
One resolution, seen from outside: what it does to the cache, and what it reports.

A resolution reads the cache once and writes it at most once, at its end. Everything between is `Aside`: it
leaves the cache alone. None of the events on the way says that a workflow is passed over.

Results:
- `resolve_cases`: a text that is in the cache is answered from it, and any other one is added if it is found.
- `Resolutions.quiet`: none of a series of resolutions reports that a workflow is passed over.
- `Resolutions.functional`: in a series of resolutions up to the first failure, a text has one outcome.
-/

namespace HookFlow

open HookFlow.Action (Cache Resolving)
open Dialogue (runs_bind runs_attempt)

/-! ## Skipped workflows in a history -/

/-- whether a message says that a workflow is passed over -/
def Log.saysSkip (message : String) : Bool :=
  "skipping workflow".toList.isSuffixOf message.toList

/-- whether an event says that a workflow is passed over -/
def Log.Event.isSkip (e : Log.Event) : Bool := Log.saysSkip e.message

theorem Log.Event.isSkip_mk {level : Log.Level} {origin : Log.Origin} {message : String}
    {fields : List (String × Log.Value)} (calm : Log.saysSkip message = false) :
    Log.Event.isSkip { level, origin, message, fields } = false := calm

/-- the events of a history that say that a workflow is passed over, in order -/
def History.skips (h : History) : List Log.Event := h.events.filter Log.Event.isSkip

@[simp] theorem History.skips_append (h t : History) :
    History.skips (h ++ t) = History.skips h ++ History.skips t := by
  simp [History.skips]

/-- whether a question is anything but the report of a skipped workflow -/
def Question.Quiet : Question → Prop
  | .log e => e.isSkip = false
  | _ => True

theorem quiet_log {e : Log.Event} (calm : e.isSkip = false) : (Question.log e).Quiet := calm

theorem History.skips_eq_nil {h : History} (quiet : ∀ e ∈ h, e.1.Quiet) : h.skips = [] := by
  simp only [History.skips, List.filter_eq_nil_iff, History.events, List.mem_filterMap]
  rintro event ⟨⟨q, a⟩, he, found⟩
  cases q with
  | log e =>
    obtain rfl : e = event := Option.some.inj found
    have calm : e.isSkip = false := quiet _ he
    simp [calm]
  | _ => cases found

/-! ## Computations that leave the cache alone -/

/-- from every cache, `x` leaves it as it is and asks only questions of the kind `P` -/
def Aside {α : Type} (P : Question → Prop) (x : Resolving Scene α) : Prop :=
  ∀ c h r c', Resolves x c h r c' → c' = c ∧ ∀ e ∈ h, P e.1

section Aside

variable {P : Question → Prop} {α β : Type}

theorem aside_pure (a : α) : Aside P (pure a) := by
  intro c h r c' run
  obtain ⟨rfl, -, rfl⟩ := resolves_pure.1 run
  exact ⟨rfl, List.forall_mem_nil _⟩

theorem aside_throw (f : Failure) : Aside P (throw f : Resolving Scene α) := by
  intro c h r c' run
  obtain ⟨rfl, -, rfl⟩ := resolves_throw.1 run
  exact ⟨rfl, List.forall_mem_nil _⟩

theorem aside_ofExcept (v : Except Failure α) : Aside P (MonadExcept.ofExcept v) := by
  intro c h r c' run
  obtain ⟨rfl, -, rfl⟩ := resolves_ofExcept.1 run
  exact ⟨rfl, List.forall_mem_nil _⟩

theorem aside_bind {x : Resolving Scene α} {g : α → Resolving Scene β} (hx : Aside P x)
    (hg : ∀ a, Aside P (g a)) : Aside P (x >>= g) := by
  intro c h r c' run
  rcases resolves_bind.1 run with ⟨e, rfl, failed⟩ | ⟨a, h₁, h₂, c₁, rfl, run₁, run₂⟩
  · exact hx c h _ c' failed
  · obtain ⟨rfl, all₁⟩ := hx c h₁ _ c₁ run₁
    obtain ⟨rfl, all₂⟩ := hg a c₁ h₂ r c' run₂
    exact ⟨rfl, fun e he => (List.mem_append.1 he).elim (all₁ e) (all₂ e)⟩

theorem aside_within {x : Resolving Scene α} (hx : Aside P x) (name value : String) :
    Aside P (x.within name value) := by
  intro c h r c' run
  obtain ⟨v, inner, rfl⟩ := resolves_within.1 run
  exact hx c h v c' inner

theorem aside_report {e : Log.Event} (he : P (.log e)) :
    Aside P (Resolving.of (do Scene.supervisor.log e; return .ok ())) := by
  intro c h r c' run
  obtain ⟨rfl, -, rfl⟩ := resolves_report.1 run
  exact ⟨rfl, by simpa using he⟩

/-- A supervised call asks whether the run is cancelled, and what the call asks. -/
theorem aside_attempt {q : Question} {ε : Type} {toFailure : ε → Failure} {call : Scene (Reply ε α)}
    (asks : ∀ h r, call.Runs h r → ∀ e ∈ h, e.1 = q) (asked : P .cancelled) (called : P q) :
    Aside P (Resolving.of (Scene.supervisor.attempt toFailure call)) := by
  intro c h r c' run
  obtain ⟨inner, rfl⟩ := resolves_of.1 run
  rcases runs_attempt.1 inner with ⟨rfl, -⟩ | ⟨t, reply, rfl, run', -⟩
  · exact ⟨rfl, by simpa using asked⟩
  · refine ⟨rfl, List.forall_mem_cons.2 ⟨asked, fun e he => ?_⟩⟩
    rw [asks t reply run' e he]
    exact called

theorem aside_file {repo : Repository} {path : String} {gitRef : Option String} (asked : P .cancelled)
    (called : P (.file repo path gitRef)) :
    Aside P (Resolving.of
      (Scene.supervisor.attempt Content.Fault.toFailure (Scene.source.file repo path gitRef))) :=
  aside_attempt (fun h r run => by simp [Scene.runs_file.1 run]) asked called

theorem aside_list {repo : Repository} {path : String} (asked : P .cancelled) (called : P (.list repo path)) :
    Aside P (Resolving.of
      (Scene.supervisor.attempt Content.Fault.toFailure (Scene.source.list repo path))) :=
  aside_attempt (fun h r run => by simp [Scene.runs_list.1 run]) asked called

end Aside

/-! ## One resolution -/

section Resolver

variable {metadataFile : String}

theorem look_aside (uses : String) (reference : ActionReference) :
    Aside Question.Quiet ((Action.Resolver.asking metadataFile).look uses reference) := by
  refine aside_bind (aside_report (quiet_log (Log.Event.isSkip_mk (by decide)))) fun _ => ?_
  refine aside_bind (aside_within (aside_file trivial trivial) "uses" uses) fun raw => ?_
  cases Action.ofMetadata? raw with
  | none => exact aside_throw _
  | some a =>
    by_cases hostable : a.isHostable
    · simp only [hostable, if_true]
      refine aside_bind (aside_within (aside_file trivial trivial) "uses" uses) fun bytes => ?_
      exact aside_ofExcept _
    · simp only [hostable]
      exact aside_pure a

/-- **What a resolution does.** A text that is in the cache is answered from it; any other text is added if it
is found, and a failure leaves the cache as it was. -/
theorem resolve_cases {uses : String} {c c' : Cache} {h : History} {r : Except Failure Action}
    (run : Resolves ((Action.Resolver.asking metadataFile).resolve uses) c h r c') :
    (∀ e ∈ h, e.1.Quiet) ∧
      ((∃ a, c.lookup uses = some a ∧ r = .ok a ∧ c' = c) ∨
        c.lookup uses = none ∧ ((∃ a, r = .ok a ∧ c' = (uses, a) :: c) ∨ ∃ f, r = .error f ∧ c' = c)) := by
  rcases Action.Resolver.leads_resolve run with ⟨a, found, told, rfl, rfl⟩ |
    ⟨missing, ⟨reference, c₁, -, looked, ends⟩ | ⟨-, told, rfl, rfl⟩⟩
  · have calm : (Action.Resolver.event "action metadata cache hit" uses).isSkip = false :=
      Log.Event.isSkip_mk (by decide)
    rw [Scene.runs_log.1 told]
    exact ⟨List.forall_mem_singleton.2 (quiet_log calm), .inl ⟨a, found, rfl, rfl⟩⟩
  · obtain ⟨rfl, quiet⟩ := look_aside uses reference c h _ c₁ looked
    refine ⟨quiet, .inr ⟨missing, ?_⟩⟩
    rcases ends with ⟨e, rfl, rfl⟩ | ⟨a, rfl, rfl⟩
    · exact .inr ⟨e, rfl, rfl⟩
    · exact .inl ⟨a, rfl, rfl⟩
  · have calm : (Action.Resolver.event "unsupported action reference" uses).isSkip = false :=
      Log.Event.isSkip_mk (by decide)
    rw [Scene.runs_log.1 told]
    exact ⟨List.forall_mem_singleton.2 (quiet_log calm), .inr ⟨missing, .inl ⟨{}, rfl, rfl⟩⟩⟩

/-- An entry for a text that the cache lacks takes nothing away. -/
theorem lookup_cons_kept {uses other : String} {a b : Action} {c : Cache} (missing : c.lookup uses = none)
    (found : c.lookup other = some b) : List.lookup other ((uses, a) :: c) = some b := by
  rw [List.lookup_cons]
  split
  · rename_i eq
    rw [eq_of_beq eq, missing] at found
    cases found
  · exact found

/-- What is in the cache stays there. -/
theorem resolve_kept {uses : String} {c c' : Cache} {h : History} {r : Except Failure Action}
    (run : Resolves ((Action.Resolver.asking metadataFile).resolve uses) c h r c') {other : String}
    {b : Action} (found : c.lookup other = some b) : c'.lookup other = some b := by
  obtain ⟨-, ⟨a, -, -, rfl⟩ | ⟨missing, ⟨a, -, rfl⟩ | ⟨f, -, rfl⟩⟩⟩ := resolve_cases run
  · exact found
  · exact lookup_cons_kept missing found
  · exact found

/-- What was found is in the cache. -/
theorem resolve_found {uses : String} {a : Action} {c c' : Cache} {h : History}
    (run : Resolves ((Action.Resolver.asking metadataFile).resolve uses) c h (.ok a) c') :
    c'.lookup uses = some a := by
  obtain ⟨-, ⟨b, found, same, rfl⟩ | ⟨-, ⟨b, same, rfl⟩ | ⟨f, ⟨⟩, -⟩⟩⟩ := resolve_cases run
  · rw [found, Except.ok.inj same]
  · rw [List.lookup_cons_self, Except.ok.inj same]

/-! ## Resolutions in a row -/

/-- a series of resolutions with their outcomes, which ends with the first failure; reports may stand between
them -/
inductive Resolutions (metadataFile : String) :
    Cache → History → List (String × Except Failure Action) → Cache → Prop where
  | nil {c : Cache} : Resolutions metadataFile c [] [] c
  | report {c c' : Cache} {h : History} {rs : List (String × Except Failure Action)} {e : Log.Event}
      (calm : e.isSkip = false) (rest : Resolutions metadataFile c h rs c') :
      Resolutions metadataFile c (⟨.log e, ()⟩ :: h) rs c'
  | found {uses : String} {a : Action} {c c₁ c' : Cache} {h t : History}
      {rs : List (String × Except Failure Action)}
      (first : Resolves ((Action.Resolver.asking metadataFile).resolve uses) c h (.ok a) c₁)
      (rest : Resolutions metadataFile c₁ t rs c') :
      Resolutions metadataFile c (h ++ t) ((uses, .ok a) :: rs) c'
  | failed {uses : String} {f : Failure} {c c' : Cache} {h : History}
      (last : Resolves ((Action.Resolver.asking metadataFile).resolve uses) c h (.error f) c') :
      Resolutions metadataFile c h [(uses, .error f)] c'

namespace Resolutions

variable {c c₁ c' : Cache} {h t : History} {rs ss : List (String × Except Failure Action)}

theorem quiet (walk : Resolutions metadataFile c h rs c') : ∀ e ∈ h, e.1.Quiet := by
  induction walk with
  | nil => exact List.forall_mem_nil _
  | report calm _ ih => exact List.forall_mem_cons.2 ⟨quiet_log calm, ih⟩
  | found first _ ih => exact fun e he => (List.mem_append.1 he).elim ((resolve_cases first).1 e) (ih e)
  | failed last => exact (resolve_cases last).1

/-- A series goes on where no resolution failed. -/
theorem append (first : Resolutions metadataFile c h rs c₁) (sound : ∀ p ∈ rs, ∀ f, p.2 ≠ .error f)
    (second : Resolutions metadataFile c₁ t ss c') : Resolutions metadataFile c (h ++ t) (rs ++ ss) c' := by
  induction first with
  | nil => exact second
  | report calm _ ih => exact .report calm (ih sound second)
  | found first _ ih =>
    rw [List.append_assoc]
    exact .found first (ih (fun p hp => sound p (List.mem_cons_of_mem _ hp)) second)
  | failed _ => exact absurd rfl (sound _ (List.mem_singleton_self _) _)

/-- What is in the cache is the outcome of every later resolution. -/
theorem settled (walk : Resolutions metadataFile c h rs c') {uses : String} {a : Action}
    (cached : c.lookup uses = some a) {r : Except Failure Action} (resolved : (uses, r) ∈ rs) :
    r = .ok a := by
  induction walk with
  | nil => cases resolved
  | report _ _ ih => exact ih cached resolved
  | found first _ ih =>
    rcases List.mem_cons.1 resolved with same | later
    · obtain ⟨rfl, rfl⟩ := Prod.mk.inj same
      have same := (resolve_found first).symm.trans (resolve_kept first cached)
      rw [Option.some.inj same]
    · exact ih (resolve_kept first cached) later
  | failed last =>
    obtain ⟨rfl, rfl⟩ := Prod.mk.inj (List.mem_singleton.1 resolved)
    obtain ⟨-, ⟨b, -, ⟨⟩, -⟩ | ⟨missing, -⟩⟩ := resolve_cases last
    rw [missing] at cached
    cases cached

/-- **A text has one outcome in a series.** -/
theorem functional (walk : Resolutions metadataFile c h rs c') :
    ∃ outcome : String → Except Failure Action, ∀ p ∈ rs, outcome p.1 = p.2 := by
  induction walk with
  | nil => exact ⟨fun _ => .ok {}, nofun⟩
  | report _ _ ih => exact ih
  | @found uses a _ _ _ _ _ _ first rest ih =>
    obtain ⟨outcome, agrees⟩ := ih
    refine ⟨fun v => if v = uses then .ok a else outcome v, List.forall_mem_cons.2 ⟨by simp, ?_⟩⟩
    rintro ⟨v, r⟩ hp
    by_cases same : v = uses
    · subst same
      simp [rest.settled (resolve_found first) hp]
    · simpa [same] using agrees _ hp
  | @failed _ f _ _ _ _ => exact ⟨fun _ => .error f, by simp⟩

end Resolutions

end Resolver

end HookFlow
