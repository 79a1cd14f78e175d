import HookFlow.Proofs.Action.Cache
import HookFlow.Proofs.Deployment.Reports
/-!
The turns of a batch: what the turn of one flow can do, whatever the services answer.

A turn is over before any call if the run is cancelled, if the deployment name of the flow is taken or if the
flow cannot be packed. Otherwise it is a deployment: the archive is stored, and a deployment is pointed at the
link that was the answer. `Deploys` and `Turn` list the cases, each with its calls and its outcome, so that a
property of batches needs one case for each and no look at how a batch is run.

Results:
- `deploy_course`: every run of a deployment is one of the cases of `Deploys`.
- `deployFrom_turns`: a batch takes the turns of its flows in order, up to the first one that ends it.
-/

namespace HookFlow

open Dialogue (runs_bind runs_attempt)
open History (calls)

theorem History.Interrupted.before {h : History} (t : History) (stopped : h.Interrupted) :
    History.Interrupted (h ++ t) := by
  obtain ⟨e, he, told⟩ := stopped
  exact ⟨e, List.mem_append_left _ he, told⟩

theorem History.Interrupted.behind {h : History} (t : History) (stopped : h.Interrupted) :
    History.Interrupted (t ++ h) := by
  obtain ⟨e, he, told⟩ := stopped
  exact ⟨e, List.mem_append_right _ he, told⟩

/-! ## One deployment -/

section Deployer

variable {converter : Converter} {container name : String} {h : History}

/-- the call that stores an archive at a time -/
def storing (name container : String) (archive : Archive) (t : Instant) : Question :=
  .store ⟨name, container⟩ (Deployment.blobName t) archive Deployment.contentType

/-- the call that points a deployment at a link -/
def pointing (flow name url : String) : Question :=
  .deploy name Deployment.template (Deployment.parameters flow name url)

theorem store_course {archive : Archive} {r : Except Failure String}
    (run : ((Batch.asking converter container).deployer.store name archive).Runs h r) :
    (h.Interrupted ∧ calls h = [] ∧ r = .error (Deployment.failureAt "uploading code" name .cancelled)) ∨
    ∃ t reply, calls h = [⟨storing name container archive t, reply⟩] ∧
      r = (Supervisor.settle id reply).mapError (Deployment.failureAt "uploading code" name) := by
  simp only [Deployer.store, Deployer.report, Batch.asking, runs_bind, Scene.runs_now, Scene.runs_log,
    runs_attempt, Scene.runs_store, Dialogue.runs_pure] at run
  obtain ⟨t, _, _, rfl, rfl, _, _, _, rfl, rfl, v, h₁, _, rfl, call, rfl, rfl⟩ := run
  rcases call with ⟨rfl, rfl⟩ | ⟨_, reply, rfl, rfl, rfl⟩
  · exact .inl ⟨⟨⟨.cancelled, true⟩, by simp, rfl⟩, rfl, rfl⟩
  · exact .inr ⟨t, reply, rfl, rfl⟩

theorem point_course {flow url : String} {r : Except Failure String}
    (run : ((Batch.asking converter container).deployer.point flow name url).Runs h r) :
    (h.Interrupted ∧ calls h = [] ∧ r = .error (Deployment.failureAt "deploying function" name .cancelled)) ∨
    ∃ reply, calls h = [⟨pointing flow name url, reply⟩] ∧
      r = (Supervisor.settle id reply).mapError (Deployment.failureAt "deploying function" name) := by
  simp only [Deployer.point, Deployer.report, Batch.asking, runs_bind, Scene.runs_log, runs_attempt,
    Scene.runs_deploy, Dialogue.runs_pure] at run
  obtain ⟨_, _, _, rfl, rfl, v, h₁, _, rfl, call, rfl, rfl⟩ := run
  rcases call with ⟨rfl, rfl⟩ | ⟨_, reply, rfl, rfl, rfl⟩
  · exact .inl ⟨⟨⟨.cancelled, true⟩, by simp, rfl⟩, rfl, rfl⟩
  · exact .inr ⟨reply, rfl, rfl⟩

/-- A failure of the services that concerns a deployment, or is a cancellation, stays what it is. -/
theorem failureAt_kept (stage name : String) {g : Failure} (kept : g.category = .deployment ∨ g.category = .cancelled) :
    Deployment.failureAt stage name g = g.within "deployment" name := if_pos kept

/-- the cases of a deployment of a flow with its archive: what it calls in `h`, and its outcome -/
inductive Deploys (container flow : String) (archive : Archive) (h : History) :
    Except Failure Deployed → Prop where
  | unstored (stopped : h.Interrupted) (called : calls h = []) :
      Deploys container flow archive h
        (.error (Deployment.failureAt "uploading code" (Deployment.name flow) .cancelled))
  | unkept {t : Instant} {reply : Reply Failure String} {f : Failure}
      (called : calls h = [⟨storing (Deployment.name flow) container archive t, reply⟩])
      (failed : Supervisor.settle id reply = .error f) :
      Deploys container flow archive h
        (.error (Deployment.failureAt "uploading code" (Deployment.name flow) f))
  | unpointed {t : Instant} {url : String} (stopped : h.Interrupted)
      (called : calls h = [⟨storing (Deployment.name flow) container archive t, .answered (.ok url)⟩]) :
      Deploys container flow archive h
        (.error (Deployment.failureAt "deploying function" (Deployment.name flow) .cancelled))
  | refused {t : Instant} {url : String} {reply : Reply Failure String} {f : Failure}
      (called : calls h = [⟨storing (Deployment.name flow) container archive t, .answered (.ok url)⟩,
        ⟨pointing flow (Deployment.name flow) url, reply⟩])
      (failed : Supervisor.settle id reply = .error f) :
      Deploys container flow archive h
        (.error (Deployment.failureAt "deploying function" (Deployment.name flow) f))
  | deployed {t : Instant} {url id : String}
      (called : calls h = [⟨storing (Deployment.name flow) container archive t, .answered (.ok url)⟩,
        ⟨pointing flow (Deployment.name flow) url, .answered (.ok id)⟩]) :
      Deploys container flow archive h (.ok ⟨flow, Deployment.name flow, url, id⟩)

theorem settle_eq_ok_iff {α : Type} {reply : Reply Failure α} {a : α} :
    Supervisor.settle id reply = .ok a ↔ reply = .answered (.ok a) := by
  rcases reply with (_ | _) | _ <;> simp [Supervisor.settle]

theorem answered_of_settle_error {α : Type} {reply : Reply Failure α} {f : Failure}
    (failed : Supervisor.settle id reply = .error f) (kept : reply ≠ .abandoned) : reply = .answered (.error f) := by
  rcases reply with (g | a) | _
  · cases failed
    rfl
  · cases failed
  · exact absurd rfl kept

/-- **What a deployment does.** -/
theorem deploy_course {flow : String} {archive : Archive} {o : Except Failure Deployed}
    (run : ((Batch.asking converter container).deployer.deploy flow archive).Runs h o) :
    Deploys container flow archive h o := by
  obtain ⟨stored, h₁, h₂, rfl, store, rest⟩ := runs_bind.1 run
  rcases store_course store with ⟨stopped, called, rfl⟩ | ⟨t, reply, called, rfl⟩
  · obtain ⟨rfl, rfl⟩ := rest
    exact .unstored (stopped.before []) (by simpa using called)
  · cases outcome : Supervisor.settle id reply with
    | error f =>
      rw [outcome] at rest
      obtain ⟨rfl, rfl⟩ := rest
      exact .unkept (by simpa using called) outcome
    | ok url =>
      obtain rfl := settle_eq_ok_iff.1 outcome
      obtain ⟨pointed, h₃, h₄, rfl, point, last⟩ := runs_bind.1 rest
      rcases point_course point with ⟨stopped, called', rfl⟩ | ⟨reply, called', rfl⟩
      · obtain ⟨rfl, rfl⟩ := last
        have both := (History.calls_append h₁ h₃).trans (by rw [called, called'])
        exact .unpointed (by simpa using stopped.behind h₁) (by simpa using both)
      · cases outcome' : Supervisor.settle id reply with
        | error f =>
          rw [outcome'] at last
          obtain ⟨rfl, rfl⟩ := last
          have both := (History.calls_append h₁ h₃).trans (by rw [called, called'])
          exact .refused (by simpa using both) outcome'
        | ok id =>
          obtain rfl := settle_eq_ok_iff.1 outcome'
          obtain ⟨_, h₅, h₆, rfl, log, rfl, rfl⟩ := runs_bind.1 last
          obtain rfl := Scene.runs_log.1 log
          have both := (History.calls_append h₁ h₃).trans (by rw [called, called'])
          exact .deployed (by simpa using both)

/-- A deployment is known by its calls; other exchanges around them do not count. -/
theorem Deploys.within {flow : String} {archive : Archive} {o : Except Failure Deployed} {before after : History}
    (deploys : Deploys container flow archive h o) (quiet₁ : calls before = []) (quiet₂ : calls after = []) :
    Deploys container flow archive (before ++ h ++ after) o := by
  have same : calls (before ++ h ++ after) = calls h := by simp [quiet₁, quiet₂]
  cases deploys with
  | unstored stopped called => exact .unstored ((stopped.behind _).before _) (same.trans called)
  | unkept called failed => exact .unkept (same.trans called) failed
  | unpointed stopped called => exact .unpointed ((stopped.behind _).before _) (same.trans called)
  | refused called failed => exact .refused (same.trans called) failed
  | deployed called => exact .deployed (same.trans called)

end Deployer

/-! ## One turn -/

/-- the cases of the turn of a flow in a batch, given the flows before it: what it calls in `h`, and its
report, or the failure that ends the batch -/
inductive Turn (converter : Converter) (container : String) (past : List Flow) (flow : Flow) (h : History) :
    Except Failure Report → Prop where
  | cancelled (stopped : h.Interrupted) (called : calls h = []) :
      Turn converter container past flow h (.error .cancelled)
  | collided {first : Flow} (taken : firstOwner? past flow = some first) (called : calls h = []) :
      Turn converter container past flow h
        (.ok ⟨flow.name, .error (Deployment.collision flow.deploymentName first.name)⟩)
  | unpacked {f : Failure} (free : firstOwner? past flow = none) (failed : converter.archive flow = .error f)
      (called : calls h = []) :
      Turn converter container past flow h (.error (f.within "workflow" flow.name))
  | told {archive : Archive} {o : Except Failure Deployed} (free : firstOwner? past flow = none)
      (packed : converter.archive flow = .ok archive) (deploys : Deploys container flow.name archive h o)
      (stays : ∀ f, o = .error f → f.endsBatch = false) :
      Turn converter container past flow h (.ok ⟨flow.name, o⟩)
  | ended {archive : Archive} {f : Failure} (free : firstOwner? past flow = none)
      (packed : converter.archive flow = .ok archive)
      (deploys : Deploys container flow.name archive h (.error f)) (ends : f.endsBatch = true) :
      Turn converter container past flow h (.error (f.within "workflow" flow.name))

section Batch

variable {converter : Converter} {container : String} {past : List Flow} {flow : Flow} {h : History}

/-- Exchanges before a turn that are no calls do not count. -/
theorem Turn.behind {before : History} {r : Except Failure Report}
    (turn : Turn converter container past flow h r) (quiet : calls before = []) :
    Turn converter container past flow (before ++ h) r := by
  have same : calls (before ++ h) = calls h := by simp [quiet]
  have lift {archive : Archive} {o : Except Failure Deployed}
      (deploys : Deploys container flow.name archive h o) :
      Deploys container flow.name archive (before ++ h) o := by
    simpa using deploys.within quiet History.calls_nil
  cases turn with
  | cancelled stopped called => exact .cancelled (stopped.behind _) (same.trans called)
  | collided taken called => exact .collided taken (same.trans called)
  | unpacked free failed called => exact .unpacked free failed (same.trans called)
  | told free packed deploys stays => exact .told free packed (lift deploys) stays
  | ended free packed deploys ends => exact .ended free packed (lift deploys) ends

theorem convert_turn {r : Except Failure Report} (free : firstOwner? past flow = none)
    (run : ((Batch.asking converter container).convert flow).Runs h r) :
    Turn converter container past flow h r := by
  obtain ⟨made, h₁, h₂, rfl, archive, rest⟩ := runs_bind.1 run
  cases made with
  | error f =>
    obtain ⟨rfl, rfl⟩ := rest
    obtain ⟨g, failed, rfl, rfl⟩ := archive_refused archive
    exact .unpacked free failed rfl
  | ok a =>
    obtain ⟨packed, quiet₁⟩ := archive_run archive
    obtain ⟨o, h₃, h₄, rfl, own, rest⟩ := runs_bind.1 rest
    have deploys := deploy_course own
    cases o with
    | ok d =>
      obtain ⟨_, h₅, h₆, rfl, report, rfl, rfl⟩ := runs_bind.1 rest
      rw [← List.append_assoc]
      exact .told free packed (deploys.within quiet₁ (by simpa using quiet_report report))
        (by rintro _ ⟨⟩)
    | error f =>
      simp only at rest
      split at rest
      · rename_i ends
        obtain ⟨rfl, rfl⟩ := rest
        rw [← List.append_assoc]
        exact .ended free packed (deploys.within quiet₁ rfl) ends
      · rename_i stays
        obtain ⟨_, h₅, h₆, rfl, report, rfl, rfl⟩ := runs_bind.1 rest
        rw [← List.append_assoc]
        refine .told free packed (deploys.within quiet₁ (by simpa using quiet_report report)) ?_
        rintro _ ⟨⟩
        simpa using stays

/-- **What a turn does.** -/
theorem next_turn {claimed : List (String × String)} {r : Except Failure Report} (owners : Owners claimed past)
    (run : ((Batch.asking converter container).next claimed flow).Runs h r) :
    Turn converter container past flow h r := by
  obtain ⟨stop, h₁, h₂, rfl, asked, rest⟩ := runs_bind.1 run
  obtain rfl := Scene.runs_cancelled.1 asked
  cases stop with
  | true =>
    obtain ⟨rfl, rfl⟩ := rest
    exact .cancelled ⟨⟨.cancelled, true⟩, by simp, rfl⟩ rfl
  | false =>
    have owner := owners flow.deploymentName
    cases found : firstOwner? past flow with
    | some first =>
      have found' := found
      simp only [firstOwner?, Flow.deploymentName] at found' owner
      simp only [Bool.false_eq_true, if_false, owner, found', Option.map_some] at rest
      obtain ⟨_, h₃, h₄, rfl, report, rfl, rfl⟩ := runs_bind.1 rest
      exact .collided found (by simpa using quiet_report report)
    | none =>
      have found' := found
      simp only [firstOwner?, Flow.deploymentName] at found' owner
      simp only [Bool.false_eq_true, if_false, owner, found', Option.map_none] at rest
      exact (convert_turn found rest).behind rfl

/-! ## All turns -/

/-- the cases of the turns of some flows, given the flows before them: what they call in `h`, and their
reports, or the failure that ends the batch -/
inductive Turns (converter : Converter) (container : String) :
    List Flow → List Flow → History → Except Failure (List Report) → Prop where
  | nil {past : List Flow} : Turns converter container past [] [] (.ok [])
  | ended {past rest : List Flow} {flow : Flow} {part : History} {f : Failure}
      (turn : Turn converter container past flow part (.error f)) :
      Turns converter container past (flow :: rest) part (.error f)
  | cons {past rest : List Flow} {flow : Flow} {part h : History} {r : Report}
      {rs : Except Failure (List Report)} (turn : Turn converter container past flow part (.ok r))
      (others : Turns converter container (past ++ [flow]) rest h rs) :
      Turns converter container past (flow :: rest) (part ++ h) (rs.map (r :: ·))

/-- **What a batch does.** -/
theorem deployFrom_turns {claimed : List (String × String)} {flows : List Flow}
    {r : Except Failure (List Report)} (owners : Owners claimed past)
    (run : ((Batch.asking converter container).deployFrom claimed flows).Runs h r) :
    Turns converter container past flows h r := by
  induction flows generalizing claimed past h r with
  | nil =>
    obtain ⟨rfl, rfl⟩ := run
    exact .nil
  | cons flow rest ih =>
    obtain ⟨first, h₁, h₂, rfl, next, tail⟩ := runs_bind.1 run
    have turn := next_turn owners next
    cases first with
    | error f =>
      obtain ⟨rfl, rfl⟩ := tail
      exact .ended (by simpa using turn)
    | ok report =>
      obtain ⟨more, h₃, h₄, rfl, others, last⟩ := runs_bind.1 tail
      have turns := ih (claim_owners owners flow) others
      cases more with
      | error f =>
        obtain ⟨rfl, rfl⟩ := last
        rw [List.append_nil]
        exact .cons turn turns
      | ok reports =>
        obtain ⟨rfl, rfl⟩ := last
        rw [List.append_nil]
        exact .cons turn turns

theorem deployAll_turns {flows : List Flow} {r : Except Failure (List Report)}
    (run : ((Batch.asking converter container).deployAll flows).Runs h r) :
    (∃ f, converter.validate flows = .error f ∧ r = .error f ∧ h = []) ∨
    converter.validate flows = .ok () ∧ Turns converter container [] flows h r := by
  simp only [Batch.deployAll] at run
  split at run
  · rename_i f refused
    obtain ⟨rfl, rfl⟩ := run
    exact .inl ⟨f, refused, rfl, rfl⟩
  · rename_i valid
    exact .inr ⟨valid, deployFrom_turns owners_nil run⟩

end Batch

end HookFlow
