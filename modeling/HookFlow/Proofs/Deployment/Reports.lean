import HookFlow.Proofs.Distinct
import HookFlow.Proofs.Surroundings
/-!
The reports of a batch, and the storage accounts that it touches.

A batch goes through its flows with a table of the deployment names taken so far. The invariant is `Owners`:
the table gives for every name the first flow so far that has it, and a name stays taken whatever became of
its flow. From it each flow gets one report: a collision, without any call, or the outcome of its own
deployment.

Results:
- `deployAll_reports`: a batch that ends with reports has one report per flow, in order; a flow is reported as
  a collision exactly if an earlier flow has its deployment name; every other report is the outcome of that
  flow's own deployment; and the storage accounts are the deployment names, each one once.
-/

namespace HookFlow

open Dialogue (runs_bind runs_attempt)
open History (calls)

/-- the deployment name of a flow -/
def Flow.deploymentName (f : Flow) : String := Deployment.name f.name

/-- a batch in open surroundings -/
def Batch.asking (converter : Converter) (container : String) : Batch Scene where
  converter
  deployer := { cloud := Scene.cloud, supervisor := Scene.supervisor, container }

/-- the storage accounts that archives were sent to, in order -/
def History.accounts (h : History) : List String :=
  h.filterMap fun e => match e.1 with
    | .store c _ _ _ => some c.account
    | _ => none

@[simp] theorem History.accounts_append (h t : History) :
    (h ++ t : History).accounts = h.accounts ++ t.accounts := by
  simp [accounts]

theorem History.accounts_of_quiet {h : History} (quiet : calls h = []) : h.accounts = [] := by
  simp only [calls, List.filter_eq_nil_iff] at quiet
  simp only [accounts, List.filterMap_eq_nil_iff]
  intro e he
  obtain ⟨q, a⟩ := e
  cases q with
  | store => exact absurd rfl (quiet _ he)
  | _ => rfl

/-! ## One deployment -/

/-- A cancellation stays one, so a deployment that does not end its batch was not cancelled. -/
theorem Deployment.failureAt_cancelled (stage name : String) :
    (Deployment.failureAt stage name .cancelled).endsBatch = true := rfl

section Deployer

variable {converter : Converter} {container : String}

/-- A store that does not end the batch has sent one archive, to the account of the given name. -/
theorem store_accounts {name : String} {archive : Archive} {h : History} {r : Except Failure String}
    (run : ((Batch.asking converter container).deployer.store name archive).Runs h r) :
    h.accounts = [name] ∨ ∃ f, r = .error f ∧ f.endsBatch = true := by
  simp only [Deployer.store, Deployer.report, Batch.asking, runs_bind, Scene.runs_now, Scene.runs_log,
    runs_attempt, Scene.runs_store, Dialogue.runs_pure] at run
  obtain ⟨t, _, _, rfl, rfl, _, _, _, rfl, rfl, v, h₁, _, rfl, call, rfl, rfl⟩ := run
  rcases call with ⟨rfl, rfl⟩ | ⟨_, reply, rfl, rfl, rfl⟩
  · exact .inr ⟨_, rfl, Deployment.failureAt_cancelled _ _⟩
  · exact .inl rfl

/-- Pointing a deployment at an archive stores nothing. -/
theorem point_accounts {flow name blobUrl : String} {h : History} {r : Except Failure String}
    (run : ((Batch.asking converter container).deployer.point flow name blobUrl).Runs h r) :
    h.accounts = [] := by
  simp only [Deployer.point, Deployer.report, Batch.asking, runs_bind, Scene.runs_log, runs_attempt,
    Scene.runs_deploy, Dialogue.runs_pure] at run
  obtain ⟨_, _, _, rfl, rfl, v, h₁, _, rfl, call, rfl, rfl⟩ := run
  rcases call with ⟨rfl, rfl⟩ | ⟨_, reply, rfl, rfl, rfl⟩ <;> rfl

/-- A deployment that does not end the batch has sent one archive, to the account of its own name. -/
theorem deploy_accounts {flow : String} {archive : Archive} {h : History} {o : Except Failure Deployed}
    (run : ((Batch.asking converter container).deployer.deploy flow archive).Runs h o)
    (stays : ∀ f, o = .error f → f.endsBatch = false) : h.accounts = [Deployment.name flow] := by
  obtain ⟨stored, h₁, h₂, rfl, store, rest⟩ := runs_bind.1 run
  rcases store_accounts store with sent | ⟨f, rfl, ends⟩
  · cases stored with
    | error f =>
      obtain ⟨rfl, rfl⟩ := rest
      simpa using sent
    | ok blobUrl =>
      obtain ⟨pointed, h₃, h₄, rfl, point, last⟩ := runs_bind.1 rest
      have quiet : History.accounts h₄ = [] := by
        cases pointed with
        | error f =>
          obtain ⟨rfl, rfl⟩ := last
          rfl
        | ok id =>
          obtain ⟨_, h₅, h₆, rfl, log, rfl, rfl⟩ := runs_bind.1 last
          obtain rfl := Scene.runs_log.1 log
          rfl
      simp [sent, point_accounts point, quiet]
  · obtain ⟨rfl, rfl⟩ := rest
    exact absurd (stays f rfl) (by simp [ends])

end Deployer

/-! ## One flow of a batch -/

/-- the first of some flows with the deployment name of another flow -/
def firstOwner? (past : List Flow) (flow : Flow) : Option Flow :=
  past.find? fun f => f.deploymentName == flow.deploymentName

/-- the report says that the first of the earlier flows with the same deployment name has taken it -/
def Report.IsCollision (r : Report) (past : List Flow) (flow : Flow) : Prop :=
  ∃ first, firstOwner? past flow = some first ∧ r.outcome = .error {
    category := .deployment
    code := .fixed "FSB-DEPLOY-003"
    message := s!"deployment name {flow.deploymentName} is already used by {first.name}"
    context := [("deployment", flow.deploymentName)] }

/-- the report tells the outcome of the flow's own deployment, which `part` of the history holds; before and
after that deployment no collaborator was called -/
def Report.IsOwnOutcome (r : Report) (b : Batch Scene) (flow : Flow) (part : History) : Prop :=
  ∃ archive before own after, b.converter.archive flow = .ok archive ∧ part = before ++ own ++ after ∧
    calls before = [] ∧ calls after = [] ∧ (b.deployer.deploy flow.name archive).Runs own r.outcome

/-- the table of taken names gives for every name the first flow so far that has it -/
def Owners (claimed : List (String × String)) (past : List Flow) : Prop :=
  ∀ name, claimed.lookup name = (past.find? fun f => f.deploymentName == name).map (·.name)

theorem owners_nil : Owners [] [] := fun _ => rfl

theorem claim_owners {claimed : List (String × String)} {past : List Flow} (owners : Owners claimed past)
    (flow : Flow) : Owners (Batch.claim claimed flow) (past ++ [flow]) := by
  have taken := owners flow.deploymentName
  intro name
  have before := owners name
  simp only [Flow.deploymentName] at taken before ⊢
  simp only [Batch.claim, List.find?_append, List.find?_singleton]
  cases found : past.find? fun f => Deployment.name f.name == Deployment.name flow.name with
  | some first =>
    rw [found] at taken
    simp only [taken, Option.map_some, Option.isSome_some, if_true, before]
    by_cases same : Deployment.name flow.name = name
    · subst same
      simp [found]
    · simp [same]
  | none =>
    rw [found] at taken
    simp only [taken, Option.map_none, Option.isSome_none, Bool.false_eq_true, if_false, List.lookup_cons]
    by_cases same : Deployment.name flow.name = name
    · subst same
      simp [found]
    · simp [same, before, beq_false_of_ne (Ne.symm same)]

section Batch

variable {converter : Converter} {container : String} {flow : Flow} {h : History}

theorem quiet_report {level : Log.Level} {message name : String} {fields : List (String × Log.Value)}
    {u : Unit} (run : ((Batch.asking converter container).report level message name fields).Runs h u) :
    calls h = [] := by
  obtain rfl := Scene.runs_log.1 run
  rfl

theorem quiet_events {events : List Log.Event} {u : PUnit}
    (run : (events.forM Scene.supervisor.log).Runs h u) : calls h = [] := by
  induction events generalizing h with
  | nil =>
    obtain ⟨rfl, -⟩ := Dialogue.runs_pure.1 run
    rfl
  | cons e rest ih =>
    obtain ⟨_, h₁, h₂, rfl, log, others⟩ := runs_bind.1 run
    obtain rfl := Scene.runs_log.1 log
    simpa using ih others

theorem archive_run {archive : Archive}
    (run : ((Batch.asking converter container).archive flow).Runs h (.ok archive)) :
    converter.archive flow = .ok archive ∧ calls h = [] := by
  simp only [Batch.archive] at run
  cases made : converter.archive flow with
  | error f =>
    simp only [Batch.asking, made] at run
    cases run.2
  | ok a =>
    simp only [Batch.asking, made] at run
    obtain ⟨_, h₁, h₂, rfl, events, rfl, ok⟩ := runs_bind.1 run
    cases ok
    exact ⟨rfl, by simpa using quiet_events events⟩

/-- What cannot be packed is given up without a word. -/
theorem archive_refused {f : Failure} (run : ((Batch.asking converter container).archive flow).Runs h (.error f)) :
    ∃ g, converter.archive flow = .error g ∧ f = g.within "workflow" flow.name ∧ h = [] := by
  simp only [Batch.archive] at run
  cases made : converter.archive flow with
  | error g =>
    simp only [Batch.asking, made] at run
    obtain ⟨rfl, same⟩ := run
    exact ⟨g, rfl, (Except.error.inj same).symm, rfl⟩
  | ok a =>
    simp only [Batch.asking, made] at run
    obtain ⟨_, _, _, _, _, -, ⟨⟩⟩ := runs_bind.1 run

theorem convert_run {r : Report} (run : ((Batch.asking converter container).convert flow).Runs h (.ok r)) :
    r.flow = flow.name ∧ r.IsOwnOutcome (Batch.asking converter container) flow h ∧
      ∀ f, r.outcome = .error f → f.endsBatch = false := by
  obtain ⟨made, h₁, h₂, rfl, archive, rest⟩ := runs_bind.1 run
  cases made with
  | error f => cases rest.2
  | ok a =>
    obtain ⟨made, quiet₁⟩ := archive_run archive
    obtain ⟨outcome, h₃, h₄, rfl, own, rest⟩ := runs_bind.1 rest
    cases outcome with
    | ok d =>
      obtain ⟨_, h₅, h₆, rfl, report, rfl, ok⟩ := runs_bind.1 rest
      cases ok
      exact ⟨rfl, ⟨a, h₁, h₃, h₅, made, by simp, quiet₁, quiet_report report, own⟩, nofun⟩
    | error f =>
      simp only at rest
      split at rest
      · cases rest.2
      · rename_i stays
        obtain ⟨_, h₅, h₆, rfl, report, rfl, ok⟩ := runs_bind.1 rest
        cases ok
        exact ⟨rfl, ⟨a, h₁, h₃, h₅, made, by simp, quiet₁, quiet_report report, own⟩, by
          rintro _ ⟨⟩
          simpa using stays⟩

/-- what a history and a report tell about one flow, given the flows before it -/
def Told (b : Batch Scene) (past : List Flow) (flow : Flow) (part : History) (r : Report) : Prop :=
  r.flow = flow.name ∧
    ((r.IsCollision past flow ∧ calls part = []) ∨
      (firstOwner? past flow = none ∧ r.IsOwnOutcome b flow part ∧
        ∀ f, r.outcome = .error f → f.endsBatch = false))

theorem next_run {claimed : List (String × String)} {past : List Flow} {r : Report}
    (owners : Owners claimed past)
    (run : ((Batch.asking converter container).next claimed flow).Runs h (.ok r)) :
    Told (Batch.asking converter container) past flow h r := by
  obtain ⟨stop, h₁, h₂, rfl, asked, rest⟩ := runs_bind.1 run
  obtain rfl := Scene.runs_cancelled.1 asked
  cases stop with
  | true => cases rest.2
  | false =>
    have owner := owners flow.deploymentName
    simp only [Flow.deploymentName] at owner
    simp only [Bool.false_eq_true, if_false, owner] at rest
    cases found : firstOwner? past flow with
    | some first =>
      have found' := found
      simp only [firstOwner?, Flow.deploymentName] at found'
      simp only [found', Option.map_some] at rest
      obtain ⟨_, h₃, h₄, rfl, report, rfl, ok⟩ := runs_bind.1 rest
      cases ok
      exact ⟨rfl, .inl ⟨⟨first, found, rfl⟩, by simpa using quiet_report report⟩⟩
    | none =>
      have found' := found
      simp only [firstOwner?, Flow.deploymentName] at found'
      simp only [found', Option.map_none] at rest
      obtain ⟨name, ⟨a, before, own, after, made, rfl, quiet₁, quiet₂, own⟩, stays⟩ := convert_run rest
      exact ⟨name, .inr ⟨found,
        ⟨a, ⟨.cancelled, false⟩ :: before, _, after, made, rfl, by simpa using quiet₁, quiet₂, own⟩, stays⟩⟩

end Batch

/-! ## The whole batch -/

/-- what the parts of a history and the reports tell about some flows, given the flows before them -/
inductive AllTold (b : Batch Scene) : List Flow → List Flow → List History → List Report → Prop where
  | nil {past : List Flow} : AllTold b past [] [] []
  | cons {past flows : List Flow} {flow : Flow} {part : History} {parts : List History} {r : Report}
      {reports : List Report} : Told b past flow part r → AllTold b (past ++ [flow]) flows parts reports →
      AllTold b past (flow :: flows) (part :: parts) (r :: reports)

theorem deployFrom_run {converter : Converter} {container : String} {flows : List Flow} {past : List Flow}
    {claimed : List (String × String)} {h : History} {reports : List Report} (owners : Owners claimed past)
    (run : ((Batch.asking converter container).deployFrom claimed flows).Runs h (.ok reports)) :
    ∃ parts, h = parts.flatten ∧ AllTold (Batch.asking converter container) past flows parts reports := by
  induction flows generalizing claimed past h reports with
  | nil =>
    obtain ⟨rfl, ok⟩ := run
    cases ok
    exact ⟨[], rfl, .nil⟩
  | cons flow rest ih =>
    obtain ⟨first, h₁, h₂, rfl, next, tail⟩ := runs_bind.1 run
    cases first with
    | error f => cases tail.2
    | ok r =>
      obtain ⟨more, h₃, h₄, rfl, others, last⟩ := runs_bind.1 tail
      cases more with
      | error f => cases last.2
      | ok rs =>
        obtain ⟨rfl, ok⟩ := last
        cases ok
        obtain ⟨parts, rfl, told⟩ := ih (claim_owners owners flow) others
        exact ⟨h₁ :: parts, by simp, .cons (next_run owners next) told⟩

namespace AllTold

variable {b : Batch Scene} {past flows : List Flow} {parts : List History} {reports : List Report}

theorem lengths (told : AllTold b past flows parts reports) :
    parts.length = flows.length ∧ reports.length = flows.length := by
  induction told with
  | nil => exact ⟨rfl, rfl⟩
  | cons _ _ ih => simp [ih.1, ih.2]

theorem names (told : AllTold b past flows parts reports) :
    reports.map Report.flow = flows.map Flow.name := by
  induction told with
  | nil => rfl
  | cons one _ ih => simp [one.1, ih]

/-- Each flow is told about, given the flows in front of it. -/
theorem at_index (told : AllTold b past flows parts reports) {i : Nat} {flow : Flow} {part : History}
    {r : Report} (hf : flows[i]? = some flow) (hp : parts[i]? = some part) (hr : reports[i]? = some r) :
    Told b (past ++ flows.take i) flow part r := by
  induction told generalizing i with
  | nil => cases hf
  | cons one _ ih =>
    cases i with
    | zero =>
      cases hf
      cases hp
      cases hr
      simpa using one
    | succ i => simpa using ih hf hp hr

end AllTold

/-- An earlier flow has taken a name exactly if there is a first one that did. -/
theorem firstOwner?_isSome {flows : List Flow} {i : Nat} {flow : Flow} :
    (firstOwner? (flows.take i) flow).isSome ↔
      ∃ j earlier, j < i ∧ flows[j]? = some earlier ∧ earlier.deploymentName = flow.deploymentName := by
  simp only [firstOwner?, List.find?_isSome, List.mem_iff_getElem?, List.getElem?_take, beq_iff_eq]
  constructor
  · rintro ⟨f, ⟨j, hj⟩, same⟩
    split at hj
    · exact ⟨j, f, ‹_›, hj, same⟩
    · cases hj
  · rintro ⟨j, f, hji, hj, same⟩
    exact ⟨f, ⟨j, by simp [hji, hj]⟩, same⟩

/-- the deployment names of some flows -/
def deploymentNames (flows : List Flow) : List String := flows.map Flow.deploymentName

section Accounts

variable {converter : Converter} {container : String} {past flows : List Flow} {flow : Flow}
  {part : History} {r : Report}

/-- A flow brings its own account into the history, unless its name is taken. -/
theorem Told.accounts (told : Told (Batch.asking converter container) past flow part r) :
    part.accounts = if flow.deploymentName ∈ deploymentNames past then [] else [flow.deploymentName] := by
  obtain ⟨-, ⟨⟨first, found, -⟩, quiet⟩ | ⟨none_found, own, stays⟩⟩ := told
  · have taken : flow.deploymentName ∈ deploymentNames past := by
      have same := List.find?_some found
      simp only [beq_iff_eq] at same
      exact List.mem_map.2 ⟨first, List.mem_of_find?_eq_some found, same⟩
    simp [taken, History.accounts_of_quiet quiet]
  · have free : flow.deploymentName ∉ deploymentNames past := by
      intro taken
      obtain ⟨f, hf, same⟩ := List.mem_map.1 taken
      have differs := List.find?_eq_none.1 none_found f hf
      simp [same] at differs
    obtain ⟨archive, before, own, after, -, rfl, quiet₁, quiet₂, deployed⟩ := own
    rw [if_neg free, History.accounts_append, History.accounts_append, History.accounts_of_quiet quiet₁,
      History.accounts_of_quiet quiet₂, deploy_accounts deployed stays]
    rfl

theorem removeAll_append_singleton (names taken : List String) (name : String) :
    names.removeAll (taken ++ [name]) = (names.removeAll taken).filter fun n => !n == name := by
  simp only [List.removeAll, List.filter_filter]
  apply List.filter_congr
  intro n _
  rw [List.elem_eq_mem, List.elem_eq_mem]
  by_cases same : n = name <;> simp [same]

theorem AllTold.accounts {parts : List History} {reports : List Report}
    (told : AllTold (Batch.asking converter container) past flows parts reports) :
    History.accounts parts.flatten =
      ((deploymentNames flows).removeAll (deploymentNames past)).eraseDups := by
  induction told with
  | nil => simp [deploymentNames, History.accounts, List.removeAll]
  | @cons past flows flow part parts r reports one _ ih =>
    have grown : deploymentNames (past ++ [flow]) = deploymentNames past ++ [flow.deploymentName] := by
      simp [deploymentNames]
    have here : deploymentNames (flow :: flows) = flow.deploymentName :: deploymentNames flows := rfl
    rw [List.flatten_cons, History.accounts_append, one.accounts, ih, grown, here,
      removeAll_append_singleton, List.cons_removeAll]
    by_cases taken : flow.deploymentName ∈ deploymentNames past
    · have kept : ((deploymentNames flows).removeAll (deploymentNames past)).filter
          (fun n => !n == flow.deploymentName) = (deploymentNames flows).removeAll (deploymentNames past) := by
        refine List.filter_eq_self.2 fun n hn => ?_
        simp only [List.removeAll, List.mem_filter] at hn
        by_cases same : n = flow.deploymentName
        · subst same
          simp [taken] at hn
        · simp [same]
      simp [taken, kept]
    · simp [taken, List.eraseDups_cons]

end Accounts

theorem deployAll_run {converter : Converter} {container : String} {flows : List Flow} {h : History}
    {reports : List Report} (run : ((Batch.asking converter container).deployAll flows).Runs h (.ok reports)) :
    ∃ parts, h = parts.flatten ∧ AllTold (Batch.asking converter container) [] flows parts reports := by
  simp only [Batch.deployAll] at run
  split at run
  · cases run.2
  · exact deployFrom_run owners_nil run

/-- **A batch accounts for every flow.** Whatever the services answer, a batch that ends with reports has one
report per flow, in flow order. A flow is reported as a collision, naming the first earlier flow with its
deployment name, exactly if an earlier flow has that name, whatever became of that one; every other report is
the outcome of the flow's own deployment, which stands in the flow's part of the history. Archives were sent
to the first occurrences of the deployment names, in order, and so to no account twice. -/
theorem deployAll_reports (converter : Converter) (container : String) (flows : List Flow) {h : History}
    {reports : List Report} (run : ((Batch.asking converter container).deployAll flows).Runs h (.ok reports)) :
    reports.map Report.flow = flows.map Flow.name ∧
    (∀ (i : Nat) (flow : Flow) (r : Report), flows[i]? = some flow → reports[i]? = some r →
      (r.IsCollision (flows.take i) flow ↔
        ∃ j earlier, j < i ∧ flows[j]? = some earlier ∧ earlier.deploymentName = flow.deploymentName)) ∧
    (∃ parts : List History, h = parts.flatten ∧ parts.length = flows.length ∧
      ∀ (i : Nat) (flow : Flow) (part : History) (r : Report),
        flows[i]? = some flow → parts[i]? = some part → reports[i]? = some r →
        (r.IsCollision (flows.take i) flow ∧ calls part = []) ∨
        (¬ r.IsCollision (flows.take i) flow ∧
          r.IsOwnOutcome (Batch.asking converter container) flow part)) ∧
    h.accounts = (flows.map Flow.deploymentName).eraseDups ∧ h.accounts.Nodup := by
  obtain ⟨parts, rfl, told⟩ := deployAll_run run
  obtain ⟨same_parts, same_reports⟩ := told.lengths
  have accounts : History.accounts parts.flatten = (flows.map Flow.deploymentName).eraseDups := by
    rw [told.accounts, deploymentNames, deploymentNames, List.map_nil, List.removeAll_nil]
  have one : ∀ {i flow part r}, flows[i]? = some flow → parts[i]? = some part → reports[i]? = some r →
      Told (Batch.asking converter container) (flows.take i) flow part r :=
    fun hf hp hr => told.at_index hf hp hr
  refine ⟨told.names, fun i flow r hf hr => ?_, ⟨parts, rfl, same_parts, fun i flow part r hf hp hr => ?_⟩,
    accounts, accounts ▸ nodup_eraseDups _⟩
  · have inside : i < parts.length := by
      have := (List.getElem?_eq_some_iff.1 hr).1
      omega
    rw [← firstOwner?_isSome]
    rcases (one hf (List.getElem?_eq_getElem inside) hr).2 with ⟨collision, -⟩ | ⟨free, -⟩
    · obtain ⟨first, found, -⟩ := id collision
      simp [collision, found]
    · simp [Report.IsCollision, free]
  · rcases (one hf hp hr).2 with collided | ⟨free, outcome, -⟩
    · exact .inl collided
    · exact .inr ⟨by simp [Report.IsCollision, free], outcome⟩

/-! A run of two flows with one deployment name, the deployment of the first of which fails. -/

def sampleConverter : Converter where
  secret := "s"
  token := ""
  packager := { runtime := {
    path := "runtime"
    entry name := if name = Packager.modulesName then .error .notFound else .ok (.file []) } }

def sampleFlows : List Flow := [⟨"ci.yml", [], []⟩, ⟨"CI.yml", [], []⟩]

/-- services that store every archive and deploy nothing -/
def storingOnly : (q : Question) → Answer q
  | .cancelled => false
  | .log _ => ()
  | .now => ⟨0⟩
  | .list _ _ => .abandoned
  | .file _ _ _ => .abandoned
  | .store _ _ _ _ => .answered (.ok "https://dspciyml.example/ci.zip")
  | .deploy _ _ _ => .answered (.error (.fetch "no answer"))

/-- The second flow is a collision although the first one was not deployed. -/
theorem deployAll_reports_collision :
    ∃ (h : History) (reports : List Report) (r : Report),
      ((Batch.asking sampleConverter "packages").deployAll sampleFlows).Runs h (.ok reports) ∧
      reports.map Report.flow = ["ci.yml", "CI.yml"] ∧ reports[1]? = some r ∧
      r.IsCollision [⟨"ci.yml", [], []⟩] ⟨"CI.yml", [], []⟩ ∧ h.accounts = ["dspciyml"] := by
  let x := (Batch.asking sampleConverter "packages").deployAll sampleFlows
  have ends : (x.reply storingOnly).isOk = true := by decide
  have run := Dialogue.runs_reply storingOnly x
  cases answer : x.reply storingOnly with
  | error f =>
    rw [answer] at ends
    cases ends
  | ok reports =>
    rw [answer] at run
    obtain ⟨flows, collisions, -, accounts, -⟩ :=
      deployAll_reports sampleConverter "packages" sampleFlows run
    have size : reports.length = 2 := by simpa [sampleFlows] using congrArg List.length flows
    have second : reports[1]? = some reports[1] := List.getElem?_eq_getElem (by omega)
    have collided := (collisions 1 ⟨"CI.yml", [], []⟩ reports[1] rfl second).2
      ⟨0, ⟨"ci.yml", [], []⟩, by decide, rfl, by decide⟩
    exact ⟨_, reports, reports[1], run, flows, second, collided, accounts.trans (by decide)⟩

end HookFlow
