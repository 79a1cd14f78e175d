import HookFlow.Proofs.Action.Resolving
/-!
The surroundings of a run: a supervisor, a source of content, a cloud and a clock, all of them as questions.

A loader or a batch that is built from these collaborators is a dialogue, and its histories are what it can
meet. Only questions to the source and to the cloud are calls; asking whether the run is cancelled, asking the
time and reporting an event touch nothing.

Results:
- `runs_attempt`: what a supervised call asks.
- `resolves_bind` and the rules beside it: runs of computations that keep a cache and may fail, in these surroundings.
-/

namespace HookFlow

/-- what a run asks -/
inductive Question where
  | cancelled
  | log (e : Log.Event)
  | now
  | list (repo : Repository) (path : String)
  | file (repo : Repository) (path : String) (gitRef : Option String)
  | store (c : Azure.Container) (blob : String) (archive : Archive) (contentType : String)
  | deploy (name : String) (template parameters : Json)

/-- what a question is answered with -/
abbrev Answer : Question → Type
  | .cancelled => Bool
  | .log _ => Unit
  | .now => Instant
  | .list _ _ => Reply Content.Fault (List Content.Entry)
  | .file _ _ _ => Reply Content.Fault Text.Bytes
  | .store _ _ _ _ => Reply Failure String
  | .deploy _ _ _ => Reply Failure String

/-- a run whose surroundings are left open -/
abbrev Scene := Dialogue Answer

/-- what was asked and answered in a run -/
abbrev History := List (Exchange Answer)

namespace Scene

/-- one question, with its answer as the result -/
def ask (q : Question) : Scene (Answer q) := Dialogue.question q

def supervisor : Supervisor Scene where
  cancelled := ask .cancelled
  log e := ask (.log e)

def source : Content.Source Scene where
  list repo path := ask (.list repo path)
  file repo path gitRef := ask (.file repo path gitRef)

def cloud : Cloud Scene where
  store c blob archive contentType := ask (.store c blob archive contentType)
  deploy name template parameters := ask (.deploy name template parameters)
  now := ask .now

/-! What each question leaves in a history. -/

section

variable {h : History}

@[simp] theorem runs_cancelled {r : Bool} : supervisor.cancelled.Runs h r ↔ h = [⟨.cancelled, r⟩] :=
  Dialogue.runs_question

@[simp] theorem runs_log {e : Log.Event} {u : Unit} : (supervisor.log e).Runs h u ↔ h = [⟨.log e, ()⟩] :=
  Dialogue.runs_question

@[simp] theorem runs_now {t : Instant} : cloud.now.Runs h t ↔ h = [⟨.now, t⟩] :=
  Dialogue.runs_question

@[simp] theorem runs_list {repo : Repository} {path : String}
    {r : Reply Content.Fault (List Content.Entry)} :
    (source.list repo path).Runs h r ↔ h = [⟨.list repo path, r⟩] :=
  Dialogue.runs_question

@[simp] theorem runs_file {repo : Repository} {path : String} {gitRef : Option String}
    {r : Reply Content.Fault Text.Bytes} :
    (source.file repo path gitRef).Runs h r ↔ h = [⟨.file repo path gitRef, r⟩] :=
  Dialogue.runs_question

@[simp] theorem runs_store {c : Azure.Container} {blob : String} {archive : Archive} {kind : String}
    {r : Reply Failure String} :
    (cloud.store c blob archive kind).Runs h r ↔ h = [⟨.store c blob archive kind, r⟩] :=
  Dialogue.runs_question

@[simp] theorem runs_deploy {name : String} {template parameters : Json} {r : Reply Failure String} :
    (cloud.deploy name template parameters).Runs h r ↔ h = [⟨.deploy name template parameters, r⟩] :=
  Dialogue.runs_question

end

end Scene

namespace History

/-- whether an exchange is a call of a collaborator -/
@[simp] def isCall (e : Exchange Answer) : Bool :=
  match e.1 with
  | .cancelled | .log _ | .now => false
  | _ => true

/-- the calls of collaborators, in order -/
def calls (h : History) : History := h.filter isCall

/-- the events that were reported, in order -/
def events (h : History) : List Log.Event :=
  h.filterMap fun e => match e.1 with
    | .log event => some event
    | _ => none

@[simp] theorem calls_nil : calls [] = [] := rfl

@[simp] theorem calls_cons (e : Exchange Answer) (h : History) :
    calls (e :: h) = if isCall e then e :: calls h else calls h := by
  simp [calls, List.filter_cons]

@[simp] theorem calls_append (h t : History) : calls (h ++ t) = calls h ++ calls t := by
  simp [calls]

@[simp] theorem events_append (h t : History) : events (h ++ t) = events h ++ events t := by
  simp [events]

end History

/-! ## Supervised calls -/

namespace Dialogue

variable {ε α : Type}

theorem runs_attempt {toFailure : ε → Failure} {call : Scene (Reply ε α)} {h : History}
    {r : Except Failure α} :
    (Scene.supervisor.attempt toFailure call).Runs h r ↔
      (h = [⟨.cancelled, true⟩] ∧ r = .error .cancelled) ∨
      ∃ t reply, h = ⟨.cancelled, false⟩ :: t ∧ call.Runs t reply ∧
        r = Supervisor.settle toFailure reply := by
  simp only [Supervisor.runs_attempt, Scene.runs_cancelled]
  constructor
  · rintro (stopped | ⟨h₁, t, reply, rfl, rfl, run, rfl⟩)
    · exact .inl stopped
    · exact .inr ⟨t, reply, rfl, run, rfl⟩
  · rintro (stopped | ⟨t, reply, rfl, run, rfl⟩)
    · exact .inl stopped
    · exact .inr ⟨_, t, reply, rfl, rfl, run, rfl⟩

end Dialogue

/-! ## Computations that keep a cache -/

open HookFlow.Action (Cache Resolving)

/-- a resolver in open surroundings -/
def Action.Resolver.asking (metadataFile : String) : Action.Resolver Scene where
  source := Scene.source
  supervisor := Scene.supervisor
  metadataFile

/-- a loader in open surroundings -/
def Loader.asking (settings : Loader.Settings) : Loader Scene where
  source := Scene.source
  supervisor := Scene.supervisor
  settings

/-- `Resolves x c h r c'`: from the cache `c`, the exchanges `h` lead `x` to the result `r` and to the
cache `c'` -/
def Resolves {α : Type} (x : Resolving Scene α) (c : Cache) (h : History) (r : Except Failure α)
    (c' : Cache) : Prop :=
  (x.run.run c).Runs h (r, c')

section Resolves

variable {α β : Type} {c c' : Cache} {h : History}

@[simp] theorem resolves_pure {a : α} {r : Except Failure α} :
    Resolves (pure a) c h r c' ↔ h = [] ∧ r = .ok a ∧ c' = c :=
  Resolving.leads_pure

@[simp] theorem resolves_throw {f : Failure} {r : Except Failure α} :
    Resolves (throw f) c h r c' ↔ h = [] ∧ r = .error f ∧ c' = c :=
  Resolving.leads_throw

@[simp] theorem resolves_get {r : Except Failure Cache} :
    Resolves get c h r c' ↔ h = [] ∧ r = .ok c ∧ c' = c :=
  Resolving.leads_get

@[simp] theorem resolves_modify {g : Cache → Cache} {r : Except Failure PUnit} :
    Resolves (modify g) c h r c' ↔ h = [] ∧ r = .ok ⟨⟩ ∧ c' = g c :=
  Resolving.leads_modify

@[simp] theorem resolves_ofExcept {x r : Except Failure α} :
    Resolves (MonadExcept.ofExcept x) c h r c' ↔ h = [] ∧ r = x ∧ c' = c :=
  Resolving.leads_ofExcept

theorem resolves_of {x : Scene (Except Failure α)} {r : Except Failure α} :
    Resolves (Resolving.of x) c h r c' ↔ x.Runs h r ∧ c' = c :=
  Resolving.leads_of

theorem resolves_bind {x : Resolving Scene α} {f : α → Resolving Scene β} {r : Except Failure β} :
    Resolves (x >>= f) c h r c' ↔
      (∃ e, r = .error e ∧ Resolves x c h (.error e) c') ∨
      ∃ a h₁ h₂ c₁, h = h₁ ++ h₂ ∧ Resolves x c h₁ (.ok a) c₁ ∧ Resolves (f a) c₁ h₂ r c' :=
  Resolving.leads_bind

/-- what a report leaves in a history -/
@[simp] theorem resolves_report {e : Log.Event} {r : Except Failure Unit} :
    Resolves (Resolving.of (do Scene.supervisor.log e; return .ok ())) c h r c' ↔
      h = [⟨.log e, ()⟩] ∧ r = .ok () ∧ c' = c :=
  Resolving.leads_report.trans (and_congr_left' Scene.runs_log)

theorem resolves_after_report {e : Log.Event} {g : Unit → Resolving Scene β} {r : Except Failure β} :
    Resolves (Resolving.of (do Scene.supervisor.log e; return .ok ()) >>= g) c h r c' ↔
      ∃ t, h = ⟨.log e, ()⟩ :: t ∧ Resolves (g ()) c t r c' := by
  refine Resolving.leads_after_report.trans ⟨?_, ?_⟩
  · rintro ⟨h₁, h₂, rfl, told, run⟩
    rw [Scene.runs_log.1 told]
    exact ⟨h₂, rfl, run⟩
  · rintro ⟨t, rfl, run⟩
    exact ⟨_, t, rfl, Scene.runs_log.2 rfl, run⟩

theorem resolves_within {x : Resolving Scene α} {name value : String} {r : Except Failure α} :
    Resolves (x.within name value) c h r c' ↔
      ∃ v, Resolves x c h v c' ∧ r = v.mapError (·.within name value) :=
  Resolving.leads_within

/-- A computation whose questions are always answered alike comes to an end. -/
theorem resolves_reply (answer : (q : Question) → Answer q) (x : Resolving Scene α) (c : Cache) :
    Resolves x c ((x.run.run c).replies answer) ((x.run.run c).reply answer).1
      ((x.run.run c).reply answer).2 :=
  Resolving.leads_reply answer x c

end Resolves

end HookFlow
