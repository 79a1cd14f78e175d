import HookFlow.Proofs.Action.Resolution
/-!
How a resolution fails.

There are two ways. A call for a file of the action brings nothing, because the run is cancelled before it, because it
is given up, or because the source answers with a fault. Or the file is there and cannot be understood. Only in the
first case the last exchange tells of a failure, and only then the failure names the text that was resolved.

Results:
- `attempt_cases`: a supervised call of the source is lost, or it brings what it asks for.
- `resolve_fails`: a resolution fails by a call that is lost, or by content that is garbled.
- `Resolutions.unbroken`: resolutions that find their actions meet no failure on the way.
- `Resolutions.fails_last`: in a series, what lies before a resolution that fails is a series of its own.
-/

namespace HookFlow

open HookFlow.Action (Cache)
open Dialogue (runs_attempt)

/-! ## Calls of the source -/

/-- the failure that a result holds, if any -/
def failureOf {α : Type} : Except Failure α → Option Failure
  | .ok _ => none
  | .error f => some f

/-- the failure that an answer amounts to: the run is cancelled, or the source brings nothing -/
def Question.failure? : (q : Question) → Answer q → Option Failure
  | .cancelled, stop => if stop then some .cancelled else none
  | .list _ _, reply => failureOf (Supervisor.settle Content.Fault.toFailure reply)
  | .file _ _ _, reply => failureOf (Supervisor.settle Content.Fault.toFailure reply)
  | _, _ => none

/-- the supervised call that asks `q` brings nothing: the run is cancelled before it, or its answer amounts to a
failure -/
inductive Lost (q : Question) : History → Failure → Prop where
  | unasked : Lost q [⟨.cancelled, true⟩] .cancelled
  | failed {a : Answer q} {f : Failure} (fails : q.failure? a = some f) : Lost q [⟨.cancelled, false⟩, ⟨q, a⟩] f

/-- the exchanges of the supervised call that brings the bytes of a file -/
def History.reading (repo : Repository) (path : String) (gitRef : Option String) (bytes : Text.Bytes) : History :=
  [⟨.cancelled, false⟩, ⟨.file repo path gitRef, .answered (.ok bytes)⟩]

/-- whether no exchange of a history tells of a failure -/
def History.Unbroken (h : History) : Prop := ∀ e ∈ h, e.1.failure? e.2 = none

/-- the failure that the last exchange of a history tells of -/
def History.lastFailure? (h : History) : Option Failure := h.getLast?.bind fun e => e.1.failure? e.2

section

variable {q : Question} {h t : History} {f : Failure} {repo : Repository} {path : String} {gitRef : Option String}
  {bytes : Text.Bytes}

/-- The last exchange of a lost call tells of the failure. -/
theorem Lost.ends (lost : Lost q h f) : h.lastFailure? = some f := by
  cases lost with
  | unasked => rfl
  | failed fails => exact fails

/-- A call reports nothing. -/
theorem Lost.silent (lost : Lost q h f) (called : ∀ a, History.isCall ⟨q, a⟩ = true) : h.events = [] := by
  cases lost with
  | unasked => rfl
  | @failed a _ _ =>
    have call := called a
    cases q with
    | cancelled | log _ | now => cases call
    | _ => rfl

theorem History.lastFailure?_append (some_exchange : t ≠ []) : (h ++ t).lastFailure? = t.lastFailure? := by
  simp only [History.lastFailure?, List.getLast?_append, List.getLast?_eq_some_getLast some_exchange, Option.some_or]

theorem History.lastFailure?_append_some (ends : t.lastFailure? = some f) : (h ++ t).lastFailure? = some f := by
  refine (History.lastFailure?_append ?_).trans ends
  rintro rfl
  cases ends

theorem History.Unbroken.lastFailure? (unbroken : h.Unbroken) : h.lastFailure? = none := by
  cases last : h.getLast? with
  | none => rw [History.lastFailure?, last, Option.bind_none]
  | some e => rw [History.lastFailure?, last, Option.bind_some, unbroken e (List.mem_of_getLast? last)]

theorem History.unbroken_append : (h ++ t).Unbroken ↔ h.Unbroken ∧ t.Unbroken := List.forall_mem_append

theorem History.unbroken_report {e : Log.Event} : History.Unbroken (⟨.log e, ()⟩ :: h) ↔ h.Unbroken :=
  List.forall_mem_cons.trans (and_iff_right rfl)

theorem History.unbroken_reading : (History.reading repo path gitRef bytes).Unbroken :=
  List.forall_mem_cons.2 ⟨rfl, List.forall_mem_singleton.2 rfl⟩

/-- **A supervised call of the source is lost, or it brings what it asks for.** -/
theorem attempt_cases {α : Type} {call : Scene (Reply Content.Fault α)} {answer : Reply Content.Fault α → Answer q}
    {r : Except Failure α} (asks : ∀ t reply, call.Runs t reply → t = [⟨q, answer reply⟩])
    (amounts : ∀ reply, q.failure? (answer reply) = failureOf (Supervisor.settle Content.Fault.toFailure reply))
    (run : (Scene.supervisor.attempt Content.Fault.toFailure call).Runs h r) :
    (∃ f, r = .error f ∧ Lost q h f) ∨
      ∃ a, r = .ok a ∧ h = [⟨.cancelled, false⟩, ⟨q, answer (.answered (.ok a))⟩] := by
  rcases runs_attempt.1 run with ⟨rfl, rfl⟩ | ⟨t, reply, rfl, called, rfl⟩
  · exact .inl ⟨_, rfl, .unasked⟩
  -- the run was not cancelled, so the reply counts, and a call that is given up is lost like one that is refused
  obtain rfl := asks t reply called
  rcases reply with (fault | a) | _
  · exact .inl ⟨_, rfl, .failed (amounts _)⟩
  · exact .inr ⟨a, rfl, rfl⟩
  · exact .inl ⟨_, rfl, .failed (amounts _)⟩

theorem attempt_file {r : Except Failure Text.Bytes}
    (run : (Scene.supervisor.attempt Content.Fault.toFailure (Scene.source.file repo path gitRef)).Runs h r) :
    (∃ f, r = .error f ∧ Lost (.file repo path gitRef) h f) ∨
      ∃ bytes, r = .ok bytes ∧ h = History.reading repo path gitRef bytes :=
  attempt_cases (fun _ _ => Scene.runs_file.1) (fun _ => rfl) run

theorem attempt_list {r : Except Failure (List Content.Entry)}
    (run : (Scene.supervisor.attempt Content.Fault.toFailure (Scene.source.list repo path)).Runs h r) :
    (∃ f, r = .error f ∧ Lost (.list repo path) h f) ∨
      ∃ entries, r = .ok entries ∧ h = [⟨.cancelled, false⟩, ⟨.list repo path, .answered (.ok entries)⟩] :=
  attempt_cases (fun _ _ => Scene.runs_list.1) (fun _ => rfl) run

end

/-! ## One resolution -/

namespace ActionReference

variable (reference : ActionReference)

/-- the question for a file of a published action -/
abbrev question (path : String) : Question :=
  .file ⟨reference.owner, reference.repo⟩ path (some reference.gitRef)

/-- the exchanges of the call that brings a file of a published action -/
abbrev reading (path : String) (bytes : Text.Bytes) : History :=
  .reading ⟨reference.owner, reference.repo⟩ path (some reference.gitRef) bytes

end ActionReference

/-- a file of the action at a reference cannot be had: its metadata, or the entry point that they name -/
inductive Unfetched (metadataFile : String) (reference : ActionReference) : History → Failure → Prop where
  | metadata {h : History} {f : Failure} (lost : Lost (reference.question metadataFile) h f) :
      Unfetched metadataFile reference h f
  | entry {raw : Text.Bytes} {a : Action} {h : History} {f : Failure} (meant : Action.ofMetadata? raw = some a)
      (fit : a.isHostable = true) (lost : Lost (reference.question a.main) h f) :
      Unfetched metadataFile reference (reference.reading metadataFile raw ++ h) f

/-- the files of the action `uses` are had, and its metadata are malformed or its entry point is no text -/
inductive Garbled (metadataFile uses : String) (reference : ActionReference) : History → Failure → Prop where
  | metadata {raw : Text.Bytes} (unmeant : Action.ofMetadata? raw = none) :
      Garbled metadataFile uses reference (reference.reading metadataFile raw) (Action.malformed uses)
  | entry {raw bytes : Text.Bytes} {a : Action} {fault : Text.Utf8Fault} (meant : Action.ofMetadata? raw = some a)
      (fit : a.isHostable = true) (undecoded : Text.decode bytes = .error fault) :
      Garbled metadataFile uses reference (reference.reading metadataFile raw ++ reference.reading a.main bytes)
        (Action.notText uses a.main fault)

section

variable {metadataFile uses : String} {reference : ActionReference} {h : History} {f : Failure}

theorem Unfetched.ends (unfetched : Unfetched metadataFile reference h f) : h.lastFailure? = some f := by
  cases unfetched with
  | metadata lost => exact lost.ends
  | entry meant fit lost => exact History.lastFailure?_append_some lost.ends

theorem Unfetched.silent (unfetched : Unfetched metadataFile reference h f) : h.events = [] := by
  cases unfetched with
  | metadata lost => exact lost.silent fun _ => rfl
  | entry meant fit lost => rw [History.events_append, lost.silent fun _ => rfl]; rfl

theorem Garbled.unbroken (garbled : Garbled metadataFile uses reference h f) : h.Unbroken := by
  cases garbled with
  | metadata => exact History.unbroken_reading
  | entry => exact History.unbroken_append.2 ⟨History.unbroken_reading, History.unbroken_reading⟩

/-- What comes of reading a file for a text. -/
theorem reads_cases {path : String} {v : Except Failure Text.Bytes}
    (read : (Action.Resolver.asking metadataFile).Reads uses reference path h v) :
    (∃ g, v = .error (g.within "uses" uses) ∧ Lost (reference.question path) h g) ∨
      ∃ bytes, v = .ok bytes ∧ h = reference.reading path bytes := by
  obtain ⟨w, run, rfl⟩ : ∃ w, (Scene.supervisor.attempt Content.Fault.toFailure (Scene.source.file
      ⟨reference.owner, reference.repo⟩ path (some reference.gitRef))).Runs h w ∧
      v = w.mapError (·.within "uses" uses) := by
    cases read with
    | cancelled asked => exact ⟨_, Supervisor.runs_attempt.2 (.inl ⟨asked, rfl⟩), rfl⟩
    | replied asked called settled =>
      exact ⟨_, Supervisor.runs_attempt.2 (.inr ⟨_, _, _, rfl, asked, called, rfl⟩), settled⟩
  rcases attempt_file run with ⟨g, rfl, lost⟩ | ⟨bytes, rfl, rfl⟩
  · exact .inl ⟨g, rfl, lost⟩
  · exact .inr ⟨bytes, rfl, rfl⟩

/-- How a reference is looked up in vain. -/
theorem looks_failed (looks : (Action.Resolver.asking metadataFile).Looks uses reference h (.error f)) :
    (∃ g, Unfetched metadataFile reference h g ∧ f = g.within "uses" uses) ∨
      Garbled metadataFile uses reference h f := by
  cases looks with
  | unread read =>
    rcases reads_cases read with ⟨g, same, lost⟩ | ⟨bytes, same, -⟩
    · exact .inl ⟨g, .metadata lost, Except.error.inj same⟩
    · cases same
  | malformed read unmeant =>
    rcases reads_cases read with ⟨g, same, -⟩ | ⟨bytes, same, rfl⟩
    · cases same
    · cases same
      exact .inr (.metadata unmeant)
  | hosted read meant fit entry ends =>
    rcases reads_cases read with ⟨g, same, -⟩ | ⟨raw, same, rfl⟩
    · cases same
    cases same
    rcases reads_cases entry with ⟨g, rfl, lost⟩ | ⟨bytes, rfl, rfl⟩
    · exact .inl ⟨g, .entry meant fit lost, Except.error.inj ends⟩
    · simp only [Except.bind, Action.Resolver.withSource] at ends
      cases decoded : Text.decode bytes with
      | ok source =>
        rw [decoded] at ends
        cases ends
      | error fault =>
        rw [decoded] at ends
        cases ends
        exact .inr (.entry meant fit decoded)

/-- A reference that is looked up with success meets no failure. -/
theorem looks_unbroken {a : Action} (looks : (Action.Resolver.asking metadataFile).Looks uses reference h (.ok a)) :
    h.Unbroken := by
  have had {path : String} {h : History} {bytes : Text.Bytes}
      (read : (Action.Resolver.asking metadataFile).Reads uses reference path h (.ok bytes)) : h.Unbroken := by
    rcases reads_cases read with ⟨g, same, -⟩ | ⟨bytes, -, rfl⟩
    · cases same
    · exact History.unbroken_reading
  cases looks with
  | unhosted read _ _ => exact had read
  | @hosted _ _ raw b v _ read _ _ entry ends =>
    cases v with
    | error g => cases ends
    | ok bytes => exact History.unbroken_append.2 ⟨had read, had entry⟩

variable {c c' : Cache}

/-- **How a resolution fails.** The text is a reference; it is reported that it is looked up, and then a call for a file
of the action is lost, or the action cannot be understood. -/
theorem resolve_fails (failed : Resolves ((Action.Resolver.asking metadataFile).resolve uses) c h (.error f) c') :
    ∃ reference t, ActionReference.parse? uses = some reference ∧
      h = ⟨.log (Action.Resolver.lookingUp metadataFile uses), ()⟩ :: t ∧
      ((∃ g, Unfetched metadataFile reference t g ∧ f = g.within "uses" uses) ∨
        Garbled metadataFile uses reference t f) := by
  rcases Action.Resolver.leads_resolve failed with ⟨a, -, -, same, -⟩ |
    ⟨-, ⟨reference, c₁, parsed, looked, -⟩ | ⟨-, -, same, -⟩⟩
  · cases same
  · obtain ⟨⟨h₁, t, rfl, told, looks⟩, -⟩ := Action.Resolver.leads_look looked
    obtain rfl := Scene.runs_log.1 told
    exact ⟨reference, t, parsed, rfl, looks_failed looks⟩
  · cases same

/-- A resolution that finds its action meets no failure. -/
theorem resolve_unbroken {a : Action}
    (found : Resolves ((Action.Resolver.asking metadataFile).resolve uses) c h (.ok a) c') : h.Unbroken := by
  rcases Action.Resolver.leads_resolve found with ⟨b, -, told, -⟩ |
    ⟨-, ⟨reference, c₁, -, looked, -⟩ | ⟨-, told, -⟩⟩
  · rw [Scene.runs_log.1 told]
    exact List.forall_mem_singleton.2 rfl
  · obtain ⟨⟨h₁, t, rfl, told, looks⟩, -⟩ := Action.Resolver.leads_look looked
    obtain rfl := Scene.runs_log.1 told
    exact History.unbroken_report.2 (looks_unbroken looks)
  · rw [Scene.runs_log.1 told]
    exact List.forall_mem_singleton.2 rfl

/-! ## Resolutions in a row -/

namespace Resolutions

variable {rs : List (String × Except Failure Action)}

/-- **Resolutions that find their actions meet no failure.** -/
theorem unbroken (walk : Resolutions metadataFile c h rs c') (sound : ∀ p ∈ rs, ∀ f, p.2 ≠ .error f) :
    h.Unbroken := by
  induction walk with
  | nil => exact List.forall_mem_nil _
  | report _ _ ih => exact History.unbroken_report.2 (ih sound)
  | found first _ ih =>
    exact History.unbroken_append.2
      ⟨resolve_unbroken first, ih fun p hp => sound p (List.mem_cons_of_mem _ hp)⟩
  | failed _ => exact absurd rfl (sound _ (List.mem_singleton_self _) _)

/-- **A resolution that fails is the last of its series**, and those before it are a series of their own. -/
theorem fails_last (walk : Resolutions metadataFile c h rs c') {before : List (String × Except Failure Action)}
    (cut : rs = before ++ [(uses, .error f)]) :
    ∃ t u c₁, h = t ++ u ∧ Resolutions metadataFile c t before c₁ ∧
      Resolves ((Action.Resolver.asking metadataFile).resolve uses) c₁ u (.error f) c' := by
  induction walk generalizing before with
  | nil => exact absurd cut (by simp)
  | report calm _ ih =>
    obtain ⟨t, u, c₁, rfl, earlier, last⟩ := ih cut
    exact ⟨_ :: t, u, c₁, rfl, .report calm earlier, last⟩
  | found first _ ih =>
    rcases List.cons_eq_append_iff.1 cut with ⟨-, same⟩ | ⟨later, rfl, rest⟩
    · cases same
    · obtain ⟨t, u, c₁, rfl, earlier, last⟩ := ih rest
      exact ⟨_ ++ t, u, c₁, (List.append_assoc _ _ _).symm, .found first earlier, last⟩
  | failed last =>
    rcases List.cons_eq_append_iff.1 cut with ⟨rfl, same⟩ | ⟨later, -, rest⟩
    · cases same
      exact ⟨[], _, _, rfl, .nil, last⟩
    · exact absurd rest (by simp)

end Resolutions

end

end HookFlow
