import HookFlow.Action.Resolver
import HookFlow.Proofs.Dialogue
/-!
Runs of computations that keep a cache and may fail, and of the resolver, whatever their surroundings are asked.

A failure ends a sequence and keeps the cache, so a history of two computations in sequence is one of the first alone
if that fails, and otherwise one of the first and then one of the second.

Results:
- `leads_bind` and the rules beside it.
- `runs_attempt`: a supervised call is made only if the run is not cancelled, and then its reply counts.
- `leads_look`: how a reference is looked up.
- `leads_resolve`: how a text is resolved.
-/

namespace HookFlow

open Dialogue (runs_bind runs_map runs_pure runs_reply)

variable {Q : Type} {A : Q → Type} {α β ε : Type}

namespace Action.Resolving

section Leads

variable {c c' : Cache} {h : List (Exchange A)}

/-- `x.Leads c h r c'`: from the cache `c`, the exchanges `h` lead `x` to the result `r` and to the cache `c'` -/
def Leads (x : Resolving (Dialogue A) α) (c : Cache) (h : List (Exchange A)) (r : Except Failure α) (c' : Cache) :
    Prop :=
  (x.run.run c).Runs h (r, c')

theorem leads_pure {a : α} {r : Except Failure α} :
    Leads (pure a : Resolving (Dialogue A) α) c h r c' ↔ h = [] ∧ r = .ok a ∧ c' = c := by
  change (pure (Except.ok a, c) : Dialogue A _).Runs h (r, c') ↔ _
  simp [eq_comm]

theorem leads_throw {f : Failure} {r : Except Failure α} :
    Leads (throw f : Resolving (Dialogue A) α) c h r c' ↔ h = [] ∧ r = .error f ∧ c' = c := by
  change (pure (Except.error f, c) : Dialogue A _).Runs h (r, c') ↔ _
  simp [eq_comm]

theorem leads_get {r : Except Failure Cache} :
    Leads (get : Resolving (Dialogue A) Cache) c h r c' ↔ h = [] ∧ r = .ok c ∧ c' = c := by
  change (pure (Except.ok c, c) : Dialogue A _).Runs h (r, c') ↔ _
  simp [eq_comm]

theorem leads_modify {g : Cache → Cache} {r : Except Failure PUnit} :
    Leads (modify g : Resolving (Dialogue A) PUnit) c h r c' ↔ h = [] ∧ r = .ok ⟨⟩ ∧ c' = g c := by
  change (pure (Except.ok PUnit.unit, g c) : Dialogue A _).Runs h (r, c') ↔ _
  simp [eq_comm]

theorem leads_ofExcept {x r : Except Failure α} :
    Leads (MonadExcept.ofExcept x : Resolving (Dialogue A) α) c h r c' ↔ h = [] ∧ r = x ∧ c' = c := by
  cases x with
  | ok a => exact leads_pure
  | error f => exact leads_throw

theorem leads_of {x : Dialogue A (Except Failure α)} {r : Except Failure α} :
    Leads (Resolving.of x) c h r c' ↔ x.Runs h r ∧ c' = c := by
  change (x >>= fun a => pure (a, c)).Runs h (r, c') ↔ _
  simp only [runs_bind, runs_pure, Prod.mk.injEq]
  constructor
  · rintro ⟨a, h₁, h₂, rfl, run, rfl, rfl, rfl⟩
    exact ⟨by simpa using run, rfl⟩
  · rintro ⟨run, rfl⟩
    exact ⟨r, h, [], by simp, run, rfl, rfl, rfl⟩

theorem leads_bind {x : Resolving (Dialogue A) α} {f : α → Resolving (Dialogue A) β} {r : Except Failure β} :
    Leads (x >>= f) c h r c' ↔
      (∃ e, r = .error e ∧ Leads x c h (.error e) c') ∨
      ∃ a h₁ h₂ c₁, h = h₁ ++ h₂ ∧ Leads x c h₁ (.ok a) c₁ ∧ Leads (f a) c₁ h₂ r c' := by
  change ((x.run.run c) >>= fun s => (ExceptT.bindCont f s.1).run s.2).Runs h (r, c') ↔ _
  simp only [runs_bind, Leads]
  constructor
  · rintro ⟨⟨v, c₁⟩, h₁, h₂, rfl, run₁, run₂⟩
    cases v with
    | error e =>
      obtain ⟨rfl, he⟩ := run₂
      obtain ⟨rfl, rfl⟩ := Prod.mk.inj he
      exact .inl ⟨e, rfl, by simpa using run₁⟩
    | ok a => exact .inr ⟨a, h₁, h₂, c₁, rfl, run₁, run₂⟩
  · rintro (⟨e, rfl, run⟩ | ⟨a, h₁, h₂, c₁, rfl, run₁, run₂⟩)
    · exact ⟨(.error e, c'), h, [], by simp, run, rfl, rfl⟩
    · exact ⟨(.ok a, c₁), h₁, h₂, rfl, run₁, run₂⟩

theorem leads_within {x : Resolving (Dialogue A) α} {name value : String} {r : Except Failure α} :
    Leads (x.within name value) c h r c' ↔ ∃ v, Leads x c h v c' ∧ r = v.mapError (·.within name value) := by
  change ((fun s : Except Failure α × Cache => (s.1.mapError (·.within name value), s.2)) <$>
    (x.run.run c)).Runs h (r, c') ↔ _
  simp only [runs_map, Prod.mk.injEq, Prod.exists, Leads]
  constructor
  · rintro ⟨v, c₁, run, rfl, rfl⟩
    exact ⟨v, run, rfl⟩
  · rintro ⟨v, run, rfl⟩
    exact ⟨v, c', run, rfl, rfl⟩

/-- A report cannot fail. -/
theorem leads_report {s : Supervisor (Dialogue A)} {e : Log.Event} {r : Except Failure Unit} :
    Leads (Resolving.of (do s.log e; return .ok ())) c h r c' ↔ (s.log e).Runs h () ∧ r = .ok () ∧ c' = c := by
  simp only [leads_of, runs_bind, runs_pure]
  constructor
  · rintro ⟨⟨_, h₁, h₂, rfl, told, rfl, rfl⟩, rfl⟩
    exact ⟨by simpa using told, rfl, rfl⟩
  · rintro ⟨told, rfl, rfl⟩
    exact ⟨⟨(), h, [], by simp, told, rfl, rfl⟩, rfl⟩

theorem leads_after_report {s : Supervisor (Dialogue A)} {e : Log.Event} {g : Unit → Resolving (Dialogue A) β}
    {r : Except Failure β} :
    Leads (Resolving.of (do s.log e; return .ok ()) >>= g) c h r c' ↔
      ∃ h₁ h₂, h = h₁ ++ h₂ ∧ (s.log e).Runs h₁ () ∧ Leads (g ()) c h₂ r c' := by
  rw [leads_bind]
  constructor
  · rintro (⟨f, -, failed⟩ | ⟨_, h₁, h₂, c₁, rfl, reported, run⟩)
    · obtain ⟨-, ⟨⟩, -⟩ := leads_report.1 failed
    · obtain ⟨told, -, rfl⟩ := leads_report.1 reported
      exact ⟨h₁, h₂, rfl, told, run⟩
  · rintro ⟨h₁, h₂, rfl, told, run⟩
    exact .inr ⟨(), h₁, h₂, c, rfl, leads_report.2 ⟨told, rfl, rfl⟩, run⟩

/-- What is found is remembered, and a failure is not. -/
theorem leads_remember {x : Resolving (Dialogue A) Action} {uses : String} {r : Except Failure Action} :
    Leads (x >>= fun a => do modify ((uses, a) :: ·); return a) c h r c' ↔
      (∃ e, r = .error e ∧ Leads x c h (.error e) c') ∨
      ∃ a c₁, r = .ok a ∧ Leads x c h (.ok a) c₁ ∧ c' = (uses, a) :: c₁ := by
  rw [leads_bind]
  refine or_congr_right ⟨?_, ?_⟩
  · rintro ⟨a, h₁, h₂, c₁, rfl, found, rest⟩
    rcases leads_bind.1 rest with ⟨e, -, failed⟩ | ⟨_, h₃, h₄, c₂, rfl, stored, last⟩
    · obtain ⟨-, ⟨⟩, -⟩ := leads_modify.1 failed
    · obtain ⟨rfl, -, rfl⟩ := leads_modify.1 stored
      obtain ⟨rfl, rfl, rfl⟩ := leads_pure.1 last
      exact ⟨a, c₁, rfl, by simpa using found, rfl⟩
  · rintro ⟨a, c₁, rfl, found, rfl⟩
    have stored : Leads (modify ((uses, a) :: ·) : Resolving (Dialogue A) PUnit) c₁ [] (.ok ⟨⟩) ((uses, a) :: c₁) :=
      leads_modify.2 ⟨rfl, rfl, rfl⟩
    exact ⟨a, h, [], c₁, by simp, found,
      leads_bind.2 (.inr ⟨⟨⟩, [], [], _, rfl, stored, leads_pure.2 ⟨rfl, rfl, rfl⟩⟩)⟩

/-- A computation whose questions are always answered alike comes to an end. -/
theorem leads_reply (answer : (q : Q) → A q) (x : Resolving (Dialogue A) α) (c : Cache) :
    Leads x c ((x.run.run c).replies answer) ((x.run.run c).reply answer).1 ((x.run.run c).reply answer).2 :=
  runs_reply answer (x.run.run c)

end Leads

end Action.Resolving

/-! ## Supervised calls -/

/-- **A supervised call is made only if the run is not cancelled, and then its reply counts.** -/
theorem Supervisor.runs_attempt {s : Supervisor (Dialogue A)} {toFailure : ε → Failure}
    {call : Dialogue A (Reply ε α)} {h : List (Exchange A)} {r : Except Failure α} :
    (s.attempt toFailure call).Runs h r ↔
      (s.cancelled.Runs h true ∧ r = .error .cancelled) ∨
      ∃ h₁ h₂ reply, h = h₁ ++ h₂ ∧ s.cancelled.Runs h₁ false ∧ call.Runs h₂ reply ∧ r = settle toFailure reply := by
  simp only [attempt, runs_bind]
  constructor
  · rintro ⟨stop, h₁, h₂, rfl, asked, run⟩
    cases stop with
    | true =>
      obtain ⟨rfl, rfl⟩ := run
      exact .inl ⟨by simpa using asked, rfl⟩
    | false =>
      obtain ⟨reply, h₃, h₄, rfl, answered, rfl, rfl⟩ := runs_bind.1 run
      exact .inr ⟨h₁, h₃, reply, by simp, asked, answered, rfl⟩
  · rintro (⟨asked, rfl⟩ | ⟨h₁, h₂, reply, rfl, asked, run, rfl⟩)
    · exact ⟨true, h, [], by simp, asked, rfl, rfl⟩
    · exact ⟨false, h₁, h₂, rfl, asked, runs_bind.2 ⟨reply, h₂, [], by simp, run, rfl, rfl⟩⟩

/-! ## Resolvers -/

namespace Action.Resolver

open Action.Resolving

variable {s : Resolver (Dialogue A)} {uses path : String} {reference : ActionReference} {c c' : Cache}
  {h : List (Exchange A)}

/-- an event that a resolver reports about a text -/
def event (message uses : String) : Log.Event :=
  { level := .debug, origin := .actions, message, fields := [("uses", .quoted uses)] }

/-- the event that reports that a reference is looked up for a text -/
def lookingUp (metadataFile uses : String) : Log.Event :=
  { level := .debug, origin := .actions, message := "fetching action metadata",
    fields := [("uses", .quoted uses), ("file", .bare metadataFile)] }

/-- how the file at a path is read for a text -/
inductive Reads (s : Resolver (Dialogue A)) (uses : String) (reference : ActionReference) (path : String) :
    List (Exchange A) → Except Failure Text.Bytes → Prop where
  | cancelled {h : List (Exchange A)} (asked : s.supervisor.cancelled.Runs h true) :
      Reads s uses reference path h (.error (Failure.cancelled.within "uses" uses))
  | replied {h₁ h₂ : List (Exchange A)} {reply : Reply Content.Fault Text.Bytes} {v : Except Failure Text.Bytes}
      (asked : s.supervisor.cancelled.Runs h₁ false)
      (called : (s.source.file ⟨reference.owner, reference.repo⟩ path (some reference.gitRef)).Runs h₂ reply)
      (settled : v = (Supervisor.settle Content.Fault.toFailure reply).mapError (·.within "uses" uses)) :
      Reads s uses reference path (h₁ ++ h₂) v

/-- how a reference is looked up for a text -/
inductive Looks (s : Resolver (Dialogue A)) (uses : String) (reference : ActionReference) :
    List (Exchange A) → Except Failure Action → Prop where
  | unread {h : List (Exchange A)} {e : Failure} (read : Reads s uses reference s.metadataFile h (.error e)) :
      Looks s uses reference h (.error e)
  | malformed {h : List (Exchange A)} {raw : Text.Bytes} (read : Reads s uses reference s.metadataFile h (.ok raw))
      (unmeant : Action.ofMetadata? raw = none) : Looks s uses reference h (.error (malformed uses))
  | unhosted {h : List (Exchange A)} {raw : Text.Bytes} {a : Action}
      (read : Reads s uses reference s.metadataFile h (.ok raw)) (meant : Action.ofMetadata? raw = some a)
      (unfit : a.isHostable = false) : Looks s uses reference h (.ok a)
  | hosted {h₁ h₂ : List (Exchange A)} {raw : Text.Bytes} {a : Action} {v : Except Failure Text.Bytes}
      {r : Except Failure Action} (read : Reads s uses reference s.metadataFile h₁ (.ok raw))
      (meant : Action.ofMetadata? raw = some a) (fit : a.isHostable = true) (entry : Reads s uses reference a.main h₂ v)
      (ends : r = v.bind (withSource uses a)) : Looks s uses reference (h₁ ++ h₂) r

theorem leads_fetch {v : Except Failure Text.Bytes}
    (run : Leads ((s.fetch reference path).within "uses" uses) c h v c') : Reads s uses reference path h v ∧ c' = c := by
  obtain ⟨w, inner, rfl⟩ := leads_within.1 run
  obtain ⟨attempt, rfl⟩ := leads_of.1 inner
  rcases Supervisor.runs_attempt.1 attempt with ⟨asked, rfl⟩ | ⟨h₁, h₂, reply, rfl, asked, called, rfl⟩
  · exact ⟨.cancelled asked, rfl⟩
  · exact ⟨.replied asked called rfl, rfl⟩

/-- **How a reference is looked up**, after a report. -/
theorem leads_look {r : Except Failure Action} (run : Leads (s.look uses reference) c h r c') :
    (∃ h₁ h₂, h = h₁ ++ h₂ ∧ (s.supervisor.log (lookingUp s.metadataFile uses)).Runs h₁ () ∧
      Looks s uses reference h₂ r) ∧ c' = c := by
  obtain ⟨h₀, h₁, rfl, told, rest⟩ := leads_after_report.1 run
  suffices looked : Looks s uses reference h₁ r ∧ c' = c from
    ⟨⟨h₀, h₁, rfl, told, looked.1⟩, looked.2⟩
  rcases leads_bind.1 rest with ⟨e, rfl, failed⟩ | ⟨raw, h₂, h₃, c₁, rfl, fetched, later⟩
  · obtain ⟨read, rfl⟩ := leads_fetch failed
    exact ⟨.unread read, rfl⟩
  obtain ⟨read, rfl⟩ := leads_fetch fetched
  cases meant : Action.ofMetadata? raw with
  | none =>
    simp only [meant] at later
    obtain ⟨rfl, rfl, rfl⟩ := leads_throw.1 later
    rw [List.append_nil]
    exact ⟨.malformed read meant, rfl⟩
  | some a =>
    simp only [meant] at later
    cases fit : a.isHostable with
    | false =>
      simp only [fit, Bool.false_eq_true, if_false] at later
      obtain ⟨rfl, rfl, rfl⟩ := leads_pure.1 later
      rw [List.append_nil]
      exact ⟨.unhosted read meant fit, rfl⟩
    | true =>
      simp only [fit, if_true] at later
      rcases leads_bind.1 later with ⟨e, rfl, failed⟩ | ⟨bytes, h₄, h₅, c₂, rfl, fetched', last⟩
      · obtain ⟨entry, rfl⟩ := leads_fetch failed
        exact ⟨.hosted read meant fit entry rfl, rfl⟩
      · obtain ⟨entry, rfl⟩ := leads_fetch fetched'
        obtain ⟨rfl, rfl, rfl⟩ := leads_ofExcept.1 last
        rw [List.append_nil]
        exact ⟨.hosted read meant fit entry rfl, rfl⟩

/-- **How a text is resolved.** A text that is in the cache is answered from it. For any other one the action is
looked up and remembered, or it is no reference and an action that cannot be hosted is remembered. -/
theorem leads_resolve {r : Except Failure Action} (run : Leads (s.resolve uses) c h r c') :
    (∃ a, c.lookup uses = some a ∧ (s.supervisor.log (event "action metadata cache hit" uses)).Runs h () ∧
      r = .ok a ∧ c' = c) ∨
    c.lookup uses = none ∧
      ((∃ reference c₁, ActionReference.parse? uses = some reference ∧ Leads (s.look uses reference) c h r c₁ ∧
        ((∃ e, r = .error e ∧ c' = c₁) ∨ ∃ a, r = .ok a ∧ c' = (uses, a) :: c₁)) ∨
      ActionReference.parse? uses = none ∧
        (s.supervisor.log (event "unsupported action reference" uses)).Runs h () ∧ r = .ok {} ∧ c' = (uses, {}) :: c) := by
  rcases leads_bind.1 run with ⟨e, rfl, failed⟩ | ⟨seen, h₁, h₂, c₁, rfl, asked, rest⟩
  · obtain ⟨-, ⟨⟩, -⟩ := leads_get.1 failed
  obtain ⟨rfl, same, rfl⟩ := leads_get.1 asked
  obtain rfl := Except.ok.inj same
  cases found : List.lookup uses seen with
  | some a =>
    rw [found] at rest
    obtain ⟨h₃, h₄, rfl, told, last⟩ := leads_after_report.1 rest
    obtain ⟨rfl, rfl, rfl⟩ := leads_pure.1 last
    exact .inl ⟨a, rfl, by simpa [event] using told, rfl, rfl⟩
  | none =>
    rw [found] at rest
    cases parsed : ActionReference.parse? uses with
    | some reference =>
      simp only [parsed] at rest
      rcases leads_remember.1 rest with ⟨e, rfl, failed⟩ | ⟨a, c₂, rfl, looked, rfl⟩
      · exact .inr ⟨rfl, .inl ⟨reference, c', rfl, failed, .inl ⟨e, rfl, rfl⟩⟩⟩
      · exact .inr ⟨rfl, .inl ⟨reference, c₂, rfl, looked, .inr ⟨a, rfl, rfl⟩⟩⟩
    | none =>
      simp only [parsed] at rest
      obtain ⟨h₃, h₄, rfl, told, last⟩ := leads_after_report.1 rest
      rcases leads_remember.1 last with ⟨e, -, failed⟩ | ⟨a, c₂, rfl, nothing, rfl⟩
      · obtain ⟨-, ⟨⟩, -⟩ := leads_pure.1 failed
      · obtain ⟨rfl, unnamed, rfl⟩ := leads_pure.1 nothing
        obtain rfl := Except.ok.inj unnamed
        exact .inr ⟨rfl, .inr ⟨rfl, by simpa [event] using told, rfl, rfl⟩⟩

end Action.Resolver

end HookFlow
