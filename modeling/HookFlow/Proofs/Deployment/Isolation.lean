import HookFlow.Proofs.Deployment.Failures
/-!
Failures that stay with their flow.

A run in which nobody cancels is fixed, up to the times at which archives are stored, by what the services answer
for each deployment name: `Services` is such a script, and `Services.turn` says what becomes of one flow under it.
It depends on the script only at the name of that flow, and on the flows before it only for their names, so a
failure of one flow shows nowhere else.

Results:
- `Turns.served`: a batch that nobody cancels comes to reports, and each flow's part and report are its turn.
- `deployAll_scripted`: every run that nobody cancels follows a script, whatever the services remember.
- `deployAll_isolates`: two scripts that differ for one flow only lead to the same calls and reports for all the
  others, and that flow's failure is reported as one of its deployment.
-/

namespace HookFlow

open History (calls)

/-- what services answer in a batch, for each deployment name: the link to an archive that is stored under the name
of a blob, and the identifier of a deployment. No name is stored or deployed twice in a batch, so a script has one
answer for each. -/
structure Services where
  store (name : String) : Except Failure (String → String)
  deploy (name : String) : Except Failure String

namespace Services

variable (s : Services)

/-- nobody cancels, and calls are answered by the services -/
def Answers (e : Exchange Answer) : Prop :=
  ¬ Interrupts e ∧ match e with
    | ⟨.store c blob _ _, a⟩ => a = .answered ((s.store c.account).map (· blob))
    | ⟨.deploy name _ _, a⟩ => a = .answered (s.deploy name)
    | _ => True

/-- all of a history is answered by the services -/
def Admits (h : History) : Prop := ∀ e ∈ h, s.Answers e

/-- no failure of the services is a cancellation -/
structure IsCalm : Prop where
  store {name : String} {f : Failure} : s.store name = .error f → f.category ≠ .cancelled
  deploy {name : String} {f : Failure} : s.deploy name = .error f → f.category ≠ .cancelled

/-- `s.Fails name stage g`: the deployment `name` fails with `g` at a stage -/
inductive Fails (name : String) : String → Failure → Prop where
  | store {g : Failure} (failed : s.store name = .error g) : Fails name "uploading code" g
  | deploy {link : String → String} {g : Failure} (stored : s.store name = .ok link)
      (failed : s.deploy name = .error g) : Fails name "deploying function" g

/-- two scripts that have the same answers for every flow but number `k` -/
def AgreeBut (s s' : Services) (flows : List Flow) (k : Nat) : Prop :=
  ∀ i flow, flows[i]? = some flow → firstOwner? (flows.take i) flow = none → i ≠ k →
    s.store flow.deploymentName = s'.store flow.deploymentName ∧
      s.deploy flow.deploymentName = s'.deploy flow.deploymentName

/-- the calls for the deployment of a flow whose archive is stored at a time, and its outcome -/
def deployment (container : String) (flow : Flow) (archive : Archive) (t : Instant) :
    History × Except Failure Deployed :=
  let name := flow.deploymentName
  let stored (r : Except Failure String) : Exchange Answer := ⟨storing name container archive t, .answered r⟩
  match s.store name with
  | .error g => ([stored (.error g)], .error (Deployment.failureAt "uploading code" name g))
  | .ok link =>
    let url := link (Deployment.blobName t)
    let pointed (r : Except Failure String) : Exchange Answer := ⟨pointing flow.name name url, .answered r⟩
    match s.deploy name with
    | .error g =>
      ([stored (.ok url), pointed (.error g)], .error (Deployment.failureAt "deploying function" name g))
    | .ok id => ([stored (.ok url), pointed (.ok id)], .ok ⟨flow.name, name, url, id⟩)

/-- the calls for a flow behind others, and its outcome: nobody is called if its deployment name is taken -/
def turn (container : String) (past : List Flow) (flow : Flow) (archive : Archive) (t : Instant) :
    History × Except Failure Deployed :=
  match firstOwner? past flow with
  | some first => ([], .error (Deployment.collision flow.deploymentName first.name))
  | none => s.deployment container flow archive t

/-- every flow of a batch has its part of the history and its report, and they are its turn at some time -/
structure Serves (converter : Converter) (container : String) (past flows : List Flow) (h : History)
    (parts : List History) (reports : List Report) : Prop where
  whole : h = parts.flatten
  parts_length : parts.length = flows.length
  reports_length : reports.length = flows.length
  turn (i : Nat) (flow : Flow) : flows[i]? = some flow → ∃ archive part report t,
    converter.archive flow = .ok archive ∧ parts[i]? = some part ∧ reports[i]? = some report ∧
      report.flow = flow.name ∧ (calls part, report.outcome) = s.turn container (past ++ flows.take i) flow archive t

end Services

section

variable {s : Services} {converter : Converter} {container : String} {past flows : List Flow} {flow : Flow}
  {archive : Archive} {h : History}

namespace Services

theorem Admits.calm (admits : s.Admits h) : ¬ h.Interrupted :=
  fun ⟨e, he, told⟩ => (admits e he).1 told

theorem Admits.store {c : Azure.Container} {blob contentType : String} {reply : Reply Failure String}
    (admits : s.Admits h) (called : ⟨.store c blob archive contentType, reply⟩ ∈ calls h) :
    reply = .answered ((s.store c.account).map (· blob)) :=
  (admits _ (List.mem_filter.1 called).1).2

theorem Admits.deploy {name : String} {template parameters : Json} {reply : Reply Failure String}
    (admits : s.Admits h) (called : ⟨.deploy name template parameters, reply⟩ ∈ calls h) :
    reply = .answered (s.deploy name) :=
  (admits _ (List.mem_filter.1 called).1).2

end Services

/-! ## What becomes of one flow -/

theorem link_of_answered {x : Except Failure (String → String)} {blob url : String}
    (same : (.answered (.ok url) : Reply Failure String) = .answered (x.map (· blob))) :
    ∃ link, x = .ok link ∧ url = link blob := by
  cases x with
  | error g => cases same
  | ok link =>
    cases same
    exact ⟨link, rfl, rfl⟩

/-- **A deployment that nobody cancels is the one of the script.** -/
theorem Deploys.served {o : Except Failure Deployed} (deploys : Deploys container flow.name archive h o)
    (admits : s.Admits h) : ∃ t, (calls h, o) = s.deployment container flow archive t := by
  cases deploys with
  | unstored stopped => exact absurd stopped admits.calm
  | unpointed stopped => exact absurd stopped admits.calm
  | @unkept t reply f called failed =>
    obtain rfl := admits.store (called ▸ List.mem_singleton_self _)
    refine ⟨t, ?_⟩
    cases stored : s.store (Deployment.name flow.name) with
    | ok link =>
      simp only [stored] at failed
      cases failed
    | error g =>
      simp only [stored] at failed called
      cases failed
      simp only [Services.deployment, Flow.deploymentName, stored, called]
      rfl
  | @refused t url reply f called failed =>
    obtain ⟨link, stored, rfl⟩ := link_of_answered (admits.store (called ▸ List.mem_cons_self))
    obtain rfl := admits.deploy (called ▸ List.mem_cons_of_mem _ (List.mem_singleton_self _))
    refine ⟨t, ?_⟩
    cases pointed : s.deploy (Deployment.name flow.name) with
    | ok id =>
      simp only [pointed] at failed
      cases failed
    | error g =>
      simp only [pointed] at failed called
      cases failed
      simp only [Services.deployment, Flow.deploymentName, stored, pointed, called]
      rfl
  | @deployed t url id called =>
    obtain ⟨link, stored, rfl⟩ := link_of_answered (admits.store (called ▸ List.mem_cons_self))
    have pointed : Reply.answered (.ok id) = .answered (s.deploy (Deployment.name flow.name)) :=
      admits.deploy (called ▸ List.mem_cons_of_mem _ (List.mem_singleton_self _))
    refine ⟨t, ?_⟩
    simp only [Services.deployment, Flow.deploymentName, stored, ← Reply.answered.inj pointed, called]

namespace Services

/-- A failure of the script is the flow's own, and tells of what the services said. -/
theorem deployment_fails (calm : s.IsCalm) (container : String) (archive : Archive) (t : Instant) {stage : String}
    {g : Failure} (fails : s.Fails flow.deploymentName stage g) :
    ∃ e, (s.deployment container flow archive t).2 = .error e ∧ e.TellsOf stage flow.deploymentName g := by
  cases fails with
  | store failed =>
    refine ⟨_, ?_, failureAt_tells _ _ (calm.store failed)⟩
    simp only [deployment, failed]
  | deploy stored failed =>
    refine ⟨_, ?_, failureAt_tells _ _ (calm.deploy failed)⟩
    simp only [deployment, stored, failed]

/-- A deployment under a script has succeeded, or the script fails at one of its stages. -/
theorem deployment_cases (s : Services) (container : String) (flow : Flow) (archive : Archive) (t : Instant) :
    (∃ d, (s.deployment container flow archive t).2 = .ok d) ∨ ∃ stage g, s.Fails flow.deploymentName stage g := by
  cases stored : s.store flow.deploymentName with
  | error g => exact .inr ⟨_, g, .store stored⟩
  | ok link =>
    cases deployed : s.deploy flow.deploymentName with
    | error g => exact .inr ⟨_, g, .deploy stored deployed⟩
    | ok id =>
      refine .inl ⟨⟨flow.name, flow.deploymentName, link (Deployment.blobName t), id⟩, ?_⟩
      simp only [deployment, stored, deployed]

/-- No failure of a script ends a batch. -/
theorem deployment_stays (calm : s.IsCalm) {t : Instant} {f : Failure}
    (failed : (s.deployment container flow archive t).2 = .error f) : f.endsBatch = false := by
  rcases s.deployment_cases container flow archive t with ⟨d, fine⟩ | ⟨stage, g, fails⟩
  · rw [fine] at failed
    cases failed
  · obtain ⟨e, same, tells⟩ := deployment_fails calm container archive t fails
    rw [same] at failed
    cases failed
    simp [Failure.endsBatch, tells.category]

/-- Scripts that agree for a flow give it the same turn. -/
theorem turn_congr {s s' : Services}
    (same : firstOwner? past flow = none → s.store flow.deploymentName = s'.store flow.deploymentName ∧
      s.deploy flow.deploymentName = s'.deploy flow.deploymentName) (t : Instant) :
    s.turn container past flow archive t = s'.turn container past flow archive t := by
  cases owner : firstOwner? past flow with
  | some first => simp only [turn, owner]
  | none =>
    obtain ⟨stores, deploys⟩ := same owner
    simp only [turn, owner, deployment, stores, deploys]

end Services

theorem Turn.served {r : Except Failure Report} (turn : Turn converter container past flow h r)
    (packed : converter.archive flow = .ok archive) (calm : s.IsCalm) (admits : s.Admits h) :
    ∃ o t, r = .ok ⟨flow.name, o⟩ ∧ (calls h, o) = s.turn container past flow archive t := by
  cases turn with
  | cancelled stopped => exact absurd stopped admits.calm
  | collided taken called => exact ⟨_, ⟨0⟩, rfl, by simp only [Services.turn, taken, called]⟩
  | unpacked _ failed =>
    rw [packed] at failed
    cases failed
  | told free packed' deploys =>
    rw [packed] at packed'
    cases packed'
    obtain ⟨t, same⟩ := deploys.served admits
    exact ⟨_, t, rfl, by simp only [Services.turn, free, same]⟩
  | ended free packed' deploys ends =>
    obtain ⟨t, same⟩ := deploys.served admits
    rw [Services.deployment_stays calm (congrArg Prod.snd same).symm] at ends
    cases ends

/-! ## What becomes of a batch -/

/-- Where the services fail a flow, its report tells of it. -/
theorem Services.Serves.fails {parts : List History} {reports : List Report}
    (serves : s.Serves converter container [] flows h parts reports) (calm : s.IsCalm) {k : Nat}
    (found : flows[k]? = some flow) (free : firstOwner? (flows.take k) flow = none) {stage : String} {g : Failure}
    (fails : s.Fails flow.deploymentName stage g) :
    ∃ report e, reports[k]? = some report ∧ report.outcome = .error e ∧
      e.TellsOf stage flow.deploymentName g := by
  obtain ⟨archive, part, report, t, -, -, place, -, own⟩ := serves.turn k flow found
  obtain ⟨e, same, tells⟩ := Services.deployment_fails calm container archive t fails
  have outcome := congrArg Prod.snd own
  simp only [Services.turn, List.nil_append, free] at outcome
  exact ⟨report, e, place, outcome.trans same, tells⟩

/-- **A batch that nobody cancels comes to reports**, and every flow has its turn in it. -/
theorem Turns.served {r : Except Failure (List Report)} (turns : Turns converter container past flows h r)
    (packed : ∀ flow ∈ flows, ∃ archive, converter.archive flow = .ok archive) (calm : s.IsCalm)
    (admits : s.Admits h) :
    ∃ parts reports, r = .ok reports ∧ s.Serves converter container past flows h parts reports := by
  induction turns with
  | nil => exact ⟨[], [], rfl, rfl, rfl, rfl, nofun⟩
  | ended turn =>
    obtain ⟨archive, made⟩ := packed _ List.mem_cons_self
    obtain ⟨_, _, ⟨⟩, -⟩ := turn.served made calm admits
  | @cons past rest flow part h report rs turn _ ih =>
    obtain ⟨archive, made⟩ := packed _ List.mem_cons_self
    obtain ⟨o, t, ⟨⟩, own⟩ := turn.served made calm fun e he => admits e (List.mem_append_left _ he)
    obtain ⟨parts, reports, rfl, whole, parts_length, reports_length, turns⟩ :=
      ih (fun f hf => packed f (List.mem_cons_of_mem _ hf)) fun e he => admits e (List.mem_append_right _ he)
    refine ⟨part :: parts, ⟨flow.name, o⟩ :: reports, rfl, by simp [whole], by simp [parts_length],
      by simp [reports_length], fun i f found => ?_⟩
    cases i with
    | zero =>
      cases found
      exact ⟨archive, part, _, t, made, rfl, rfl, rfl, by simpa using own⟩
    | succ i => simpa using turns i f found

/-! ## Every run follows a script -/

/-- the deployment name that a call is about -/
def Question.deployment? : Question → Option String
  | .store c _ _ _ => some c.account
  | .deploy name _ _ => some name
  | _ => none

theorem Deploys.about {o : Except Failure Deployed} (deploys : Deploys container flow.name archive h o) :
    ∀ e ∈ calls h, ∀ name, e.1.deployment? = some name → name = flow.deploymentName := by
  cases deploys with
  | unstored _ called => simp [called]
  | unkept called => simp [called, Question.deployment?, storing, Flow.deploymentName, eq_comm]
  | unpointed _ called => simp [called, Question.deployment?, storing, Flow.deploymentName, eq_comm]
  | refused called => simp [called, Question.deployment?, storing, pointing, Flow.deploymentName, eq_comm]
  | deployed called => simp [called, Question.deployment?, storing, pointing, Flow.deploymentName, eq_comm]

/-- The calls of a turn are about the deployment name of its flow, and only if that is free. -/
theorem Turn.about {r : Except Failure Report} (turn : Turn converter container past flow h r) :
    ∀ e ∈ calls h, ∀ name, e.1.deployment? = some name →
      name = flow.deploymentName ∧ firstOwner? past flow = none := by
  cases turn with
  | cancelled _ called => simp [called]
  | collided _ called => simp [called]
  | unpacked _ _ called => simp [called]
  | told free _ deploys => exact fun e he name about => ⟨deploys.about e he name about, free⟩
  | ended free _ deploys => exact fun e he name about => ⟨deploys.about e he name about, free⟩

/-- No turn is about the deployment name of an earlier flow. -/
theorem Turns.about {r : Except Failure (List Report)} (turns : Turns converter container past flows h r) :
    ∀ e ∈ calls h, ∀ name, e.1.deployment? = some name → ∀ f ∈ past, name ≠ f.deploymentName := by
  have fresh {past : List Flow} {flow : Flow} (free : firstOwner? past flow = none) :
      ∀ f ∈ past, flow.deploymentName ≠ f.deploymentName := by
    intro f hf same
    exact List.find?_eq_none.1 free f hf (by simp [same])
  induction turns with
  | nil => exact List.forall_mem_nil _
  | ended turn =>
    intro e he name about
    obtain ⟨rfl, free⟩ := turn.about e he name about
    exact fresh free
  | cons turn _ ih =>
    intro e he name about f hf
    rw [History.calls_append] at he
    rcases List.mem_append.1 he with here | later
    · obtain ⟨rfl, free⟩ := turn.about e here name about
      exact fresh free f hf
    · exact ih e later name about f (List.mem_append_left _ hf)

namespace Services

/-- the script with other answers for one name -/
def put (s : Services) (name : String) (stored : Except Failure (String → String))
    (deployed : Except Failure String) : Services where
  store m := if m = name then stored else s.store m
  deploy m := if m = name then deployed else s.deploy m

theorem admits_of_calls (calm : ¬ h.Interrupted) (called : ∀ e ∈ calls h, s.Answers e) : s.Admits h := by
  intro e he
  cases call : History.isCall e with
  | true => exact called e (List.mem_filter.2 ⟨he, call⟩)
  | false =>
    refine ⟨fun told => calm ⟨e, he, told⟩, ?_⟩
    obtain ⟨q, a⟩ := e
    cases q <;> trivial

/-- Answers for a name do not count where no call is about it. -/
theorem Admits.put {name : String} {stored : Except Failure (String → String)} {deployed : Except Failure String}
    (admits : s.Admits h) (apart : ∀ e ∈ calls h, ∀ m, e.1.deployment? = some m → m ≠ name) :
    (s.put name stored deployed).Admits h := by
  refine admits_of_calls admits.calm fun e he => ?_
  obtain ⟨calm, answered⟩ := admits e (List.mem_filter.1 he).1
  refine ⟨calm, ?_⟩
  obtain ⟨q, a⟩ := e
  cases q with
  | store c => simpa only [Services.put, if_neg (apart _ he _ rfl)] using answered
  | deploy m => simpa only [Services.put, if_neg (apart _ he _ rfl)] using answered
  | _ => trivial

end Services

/-- A deployment that nobody cancels follows every script with some answers for its name. -/
theorem Deploys.scripted {o : Except Failure Deployed} (deploys : Deploys container flow.name archive h o)
    (calm : ¬ h.Interrupted) : ∃ stored deployed, ∀ s : Services, s.store flow.deploymentName = stored →
      s.deploy flow.deploymentName = deployed → s.Admits h := by
  have answered {e : Exchange Answer} (he : e ∈ calls h) : ¬ Interrupts e :=
    fun told => calm ⟨e, (List.mem_filter.1 he).1, told⟩
  have stores {s : Services} {t : Instant} {r : Except Failure String}
      (same : (s.store flow.deploymentName).map (· (Deployment.blobName t)) = r) :
      s.Answers ⟨storing (Deployment.name flow.name) container archive t, .answered r⟩ :=
    ⟨nofun, congrArg Reply.answered same.symm⟩
  have points {s : Services} {url : String} {r : Except Failure String}
      (same : s.deploy flow.deploymentName = r) :
      s.Answers ⟨pointing flow.name (Deployment.name flow.name) url, .answered r⟩ :=
    ⟨nofun, congrArg Reply.answered same.symm⟩
  cases deploys with
  | unstored stopped => exact absurd stopped calm
  | unpointed stopped => exact absurd stopped calm
  | @unkept t reply f called failed =>
    rw [called] at answered
    obtain rfl := answered_of_settle_error failed (answered List.mem_cons_self)
    refine ⟨.error f, .error f, fun s stored _ => Services.admits_of_calls calm ?_⟩
    rw [called, List.forall_mem_singleton]
    exact stores (by rw [stored]; rfl)
  | @refused t url reply f called failed =>
    rw [called] at answered
    obtain rfl := answered_of_settle_error failed (answered (List.mem_cons_of_mem _ List.mem_cons_self))
    refine ⟨.ok fun _ => url, .error f, fun s stored deployed => Services.admits_of_calls calm ?_⟩
    rw [called, List.forall_mem_cons, List.forall_mem_singleton]
    exact ⟨stores (by rw [stored]; rfl), points deployed⟩
  | @deployed t url id called =>
    refine ⟨.ok fun _ => url, .ok id, fun s stored deployed => Services.admits_of_calls calm ?_⟩
    rw [called, List.forall_mem_cons, List.forall_mem_singleton]
    exact ⟨stores (by rw [stored]; rfl), points deployed⟩

theorem Turn.scripted {r : Except Failure Report} (turn : Turn converter container past flow h r)
    (calm : ¬ h.Interrupted) : ∃ stored deployed, ∀ s : Services, s.store flow.deploymentName = stored →
      s.deploy flow.deploymentName = deployed → s.Admits h := by
  have silent (called : calls h = []) : ∃ stored deployed, ∀ s : Services, s.store flow.deploymentName = stored →
      s.deploy flow.deploymentName = deployed → s.Admits h :=
    ⟨.ok id, .ok "", fun s _ _ => Services.admits_of_calls calm (by simp [called])⟩
  cases turn with
  | cancelled _ called => exact silent called
  | collided _ called => exact silent called
  | unpacked _ _ called => exact silent called
  | told _ _ deploys => exact deploys.scripted calm
  | ended _ _ deploys => exact deploys.scripted calm

theorem Turns.scripted {r : Except Failure (List Report)} (turns : Turns converter container past flows h r)
    (calm : ¬ h.Interrupted) : ∃ s : Services, s.Admits h := by
  induction turns with
  | nil => exact ⟨⟨fun _ => .ok id, fun _ => .ok ""⟩, List.forall_mem_nil _⟩
  | ended turn =>
    obtain ⟨stored, deployed, admits⟩ := turn.scripted calm
    exact ⟨⟨fun _ => stored, fun _ => deployed⟩, admits _ rfl rfl⟩
  | @cons past rest flow part h report rs turn others ih =>
    obtain ⟨stored, deployed, first⟩ := turn.scripted fun stopped => calm (stopped.before h)
    obtain ⟨s, later⟩ := ih fun stopped => calm (stopped.behind part)
    refine ⟨s.put flow.deploymentName stored deployed, fun e he => ?_⟩
    rcases List.mem_append.1 he with here | there
    · exact first _ (if_pos rfl) (if_pos rfl) e here
    · exact later.put (fun e he m about => others.about e he m about flow (by simp)) e there

/-- **Every run that nobody cancels follows a script**, whatever the services remember. -/
theorem deployAll_scripted {r : Except Failure (List Report)}
    (run : ((Batch.asking converter container).deployAll flows).Runs h r) (calm : ¬ h.Interrupted) :
    ∃ s : Services, s.Admits h := by
  rcases deployAll_turns run with ⟨_, -, -, rfl⟩ | ⟨-, turns⟩
  · exact ⟨⟨fun _ => .ok id, fun _ => .ok ""⟩, List.forall_mem_nil _⟩
  · exact turns.scripted calm

end

/-- **The failure of one flow stays with it.** A batch fails as a whole only because it is refused before any call,
because a flow cannot be packed or because it is cancelled. Take a batch that is accepted and packed, and two
scripts that never answer with a cancellation and that agree for every flow but number `k`. Whatever the services
say to that one, both runs come to reports. The calls for any other flow and its outcome are the same turn in both,
that is, the same but for the name of the blob, and its link, that come from the time; and where the services fail
flow `k`, its report tells of that failure and names the deployment. -/
theorem deployAll_isolates (converter : Converter) (container : String) (flows : List Flow) :
    (∀ h f, ((Batch.asking converter container).deployAll flows).Runs h (.error f) →
      f.category = .validation ∧ calls h = [] ∨ f.category = .packaging ∨ f.category = .cancelled) ∧
    ∀ (k : Nat) (s₁ s₂ : Services) (h₁ h₂ : History) (r₁ r₂ : Except Failure (List Report)),
      converter.validate flows = .ok () → (∀ flow ∈ flows, ∃ archive, converter.archive flow = .ok archive) →
      s₁.IsCalm → s₂.IsCalm → s₁.AgreeBut s₂ flows k →
      ((Batch.asking converter container).deployAll flows).Runs h₁ r₁ → s₁.Admits h₁ →
      ((Batch.asking converter container).deployAll flows).Runs h₂ r₂ → s₂.Admits h₂ →
      ∃ parts₁ reports₁ parts₂ reports₂, r₁ = .ok reports₁ ∧ r₂ = .ok reports₂ ∧
        s₁.Serves converter container [] flows h₁ parts₁ reports₁ ∧
        s₂.Serves converter container [] flows h₂ parts₂ reports₂ ∧
        (∀ i flow, flows[i]? = some flow → i ≠ k →
          ∃ archive part₁ report₁ t₁ part₂ report₂ t₂, converter.archive flow = .ok archive ∧
            parts₁[i]? = some part₁ ∧ reports₁[i]? = some report₁ ∧
            parts₂[i]? = some part₂ ∧ reports₂[i]? = some report₂ ∧
            report₁.flow = flow.name ∧ report₂.flow = flow.name ∧
            (calls part₁, report₁.outcome) = s₁.turn container (flows.take i) flow archive t₁ ∧
            (calls part₂, report₂.outcome) = s₁.turn container (flows.take i) flow archive t₂) ∧
        ∀ flow stage g, flows[k]? = some flow → firstOwner? (flows.take k) flow = none →
          (s₁.Fails flow.deploymentName stage g → ∃ report e, reports₁[k]? = some report ∧
            report.outcome = .error e ∧ e.TellsOf stage flow.deploymentName g) ∧
          (s₂.Fails flow.deploymentName stage g → ∃ report e, reports₂[k]? = some report ∧
            report.outcome = .error e ∧ e.TellsOf stage flow.deploymentName g) := by
  refine ⟨fun h f run => deployAll_failed run, ?_⟩
  intro k s₁ s₂ h₁ h₂ r₁ r₂ valid packed calm₁ calm₂ agree run₁ admits₁ run₂ admits₂
  have served {s : Services} {h : History} {r : Except Failure (List Report)} (calm : s.IsCalm)
      (run : ((Batch.asking converter container).deployAll flows).Runs h r) (admits : s.Admits h) :
      ∃ parts reports, r = .ok reports ∧ s.Serves converter container [] flows h parts reports := by
    rcases deployAll_turns run with ⟨f, refused, -⟩ | ⟨-, turns⟩
    · rw [valid] at refused
      cases refused
    · exact turns.served packed calm admits
  obtain ⟨parts₁, reports₁, rfl, serves₁⟩ := served calm₁ run₁ admits₁
  obtain ⟨parts₂, reports₂, rfl, serves₂⟩ := served calm₂ run₂ admits₂
  refine ⟨parts₁, reports₁, parts₂, reports₂, rfl, rfl, serves₁, serves₂, fun i flow found other => ?_,
    fun flow stage g found free => ⟨serves₁.fails calm₁ found free, serves₂.fails calm₂ found free⟩⟩
  obtain ⟨archive, part₁, report₁, t₁, made, hp₁, hr₁, name₁, turn₁⟩ := serves₁.turn i flow found
  obtain ⟨archive', part₂, report₂, t₂, made', hp₂, hr₂, name₂, turn₂⟩ := serves₂.turn i flow found
  obtain rfl : archive = archive' := Except.ok.inj (made.symm.trans made')
  refine ⟨archive, part₁, report₁, t₁, part₂, report₂, t₂, made, hp₁, hr₁, hp₂, hr₂, name₁, name₂, turn₁, ?_⟩
  rw [turn₂]
  exact (Services.turn_congr (fun free => agree i flow found free other) t₂).symm

/-! Two flows, the first of which is not deployed in one run and deployed later in the other. -/

namespace Services

/-- answers as a script gives them, at one time -/
def answer (s : Services) (t : Instant) : (q : Question) → Answer q
  | .cancelled => false
  | .log _ => ()
  | .now => t
  | .list _ _ => .answered (.ok [])
  | .file _ _ _ => .answered (.ok [])
  | .store c blob _ _ => .answered ((s.store c.account).map (· blob))
  | .deploy name _ _ => .answered (s.deploy name)

theorem admits_replies (s : Services) (t : Instant) {α : Type} (x : Scene α) : s.Admits (x.replies (s.answer t)) := by
  intro e he
  have same := Dialogue.answer_of_mem_replies he
  obtain ⟨q, a⟩ := e
  obtain rfl : a = s.answer t q := same
  cases q <;> exact ⟨by simp [answer, Interrupts], by trivial⟩

end Services

/-- services that store and deploy everything -/
def sampleServices : Services where
  store name := .ok fun blob => "https://" ++ name ++ ".example/" ++ blob
  deploy name := .ok ("/deployments/" ++ name)

/-- the same services, except that one name is not deployed -/
def refusingServices : Services where
  store := sampleServices.store
  deploy name := if name = "dspciyml" then .error (.fetch "no answer") else sampleServices.deploy name

def distinctFlows : List Flow := [⟨"ci.yml", [], []⟩, ⟨"release.yml", [], []⟩]

/-- The first flow's failure is reported, and the second flow is deployed in both runs. -/
theorem deployAll_isolates_refused :
    let x := (Batch.asking sampleConverter "packages").deployAll distinctFlows
    ∃ reports₁ reports₂ first e second₁ d₁ second₂ d₂, x.reply (refusingServices.answer ⟨0⟩) = .ok reports₁ ∧
      x.reply (sampleServices.answer ⟨9⟩) = .ok reports₂ ∧
      reports₁[0]? = some first ∧ first.outcome = .error e ∧
      e.TellsOf "deploying function" "dspciyml" (.fetch "no answer") ∧
      reports₁[1]? = some second₁ ∧ second₁.outcome = .ok d₁ ∧
      reports₂[1]? = some second₂ ∧ second₂.outcome = .ok d₂ ∧ d₁.id = d₂.id := by
  intro x
  have calm₁ : refusingServices.IsCalm := by
    refine ⟨nofun, fun {name f} failed => ?_⟩
    simp only [refusingServices] at failed
    split at failed
    · cases failed
      decide
    · cases failed
  have calm₂ : sampleServices.IsCalm := ⟨nofun, nofun⟩
  have agree : refusingServices.AgreeBut sampleServices distinctFlows 0 := by
    rintro i flow found - other
    obtain rfl : i = 1 := by
      have inside : i < 2 := (List.getElem?_eq_some_iff.1 found).1
      omega
    cases found
    exact ⟨rfl, rfl⟩
  have packed : ∀ flow ∈ distinctFlows, ∃ archive, sampleConverter.archive flow = .ok archive := by
    have made : ∀ flow ∈ distinctFlows, (sampleConverter.archive flow).isOk = true := by decide
    intro flow hf
    have ends := made flow hf
    cases archive : sampleConverter.archive flow with
    | error f =>
      rw [archive] at ends
      cases ends
    | ok a => exact ⟨a, rfl⟩
  obtain ⟨parts₁, reports₁, parts₂, reports₂, ok₁, ok₂, -, -, others, failures⟩ :=
    (deployAll_isolates sampleConverter "packages" distinctFlows).2 0 refusingServices sampleServices _ _ _ _
      rfl packed calm₁ calm₂ agree (Dialogue.runs_reply _ x) (Services.admits_replies _ ⟨0⟩ _)
      (Dialogue.runs_reply _ x) (Services.admits_replies _ ⟨9⟩ _)
  obtain ⟨first, e, place, failed, tells⟩ := (failures _ _ _ rfl rfl).1 (.deploy rfl rfl)
  obtain ⟨archive, part₁, second₁, t₁, part₂, second₂, t₂, -, -, place₁, -, place₂, -, -, turn₁, turn₂⟩ :=
    others 1 _ rfl (by decide)
  exact ⟨reports₁, reports₂, first, e, second₁, _, second₂, _, ok₁, ok₂, place, failed, tells, place₁,
    congrArg Prod.snd turn₁, place₂, congrArg Prod.snd turn₂, rfl⟩

end HookFlow
