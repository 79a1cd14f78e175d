import HookFlow.Http.Basic
import HookFlow.Instant
import HookFlow.Proofs.Dialogue
import HookFlow.Proofs.Except
/-!
The surroundings of a client that asks over HTTP: a transport, a clock, a supervisor and a pause, all of them as
questions.

A client that is built from these is a dialogue, and its histories are what it can meet. Only questions to the transport
leave the program, so what was sent is read off a history, with its answers.

Results:
- `Http.Request.build_eq_ok`: what a request is that can be built.
- `runs_carry`: a request is sent if it can be built, and its answer counts.
- `sent_of_carry`: what that leaves in a history.
-/

namespace HookFlow

/-- what a client asks -/
inductive Inquiry where
  | cancelled
  | log (e : Log.Event)
  | now
  | pause
  | send (r : Http.Request)

/-- what an inquiry is answered with -/
abbrev Inquiry.Answer : Inquiry → Type
  | .cancelled => Bool
  | .log _ => Unit
  | .now => Instant
  | .pause => Unit
  | .send _ => Except Http.Fault Http.Response

/-- a run of a client whose surroundings are left open -/
abbrev Wire := Dialogue Inquiry.Answer

/-- what was asked and answered in a run -/
abbrev Wire.History := List (Exchange Inquiry.Answer)

namespace Wire

/-- one inquiry, with its answer as the result -/
def ask (q : Inquiry) : Wire q.Answer := Dialogue.question q

def transport : Http.Transport Wire where
  send r := ask (.send r)

def supervisor : Supervisor Wire where
  cancelled := ask .cancelled
  log e := ask (.log e)

namespace History

/-- the requests of a history with their answers, in order -/
def sent (h : History) : List (Http.Request × Except Http.Fault Http.Response) :=
  h.filterMap fun e =>
    match e with
    | ⟨.send r, answer⟩ => some (r, answer)
    | _ => none

/-- the times that were told, in order -/
def times (h : History) : List Instant :=
  h.filterMap fun e =>
    match e with
    | ⟨.now, t⟩ => some t
    | _ => none

@[simp] theorem sent_append (h t : History) : sent (h ++ t) = sent h ++ sent t := List.filterMap_append

/-- the answers that requests were given -/
def answers (h : History) : List (Option Http.Response) := (sent h).map (·.2.toOption)

theorem answers_eq_cons {h : History} {resp : Http.Response} {others : List (Option Http.Response)}
    (told : answers h = some resp :: others) :
    ∃ q rest, sent h = (q, .ok resp) :: rest ∧ rest.map (·.2.toOption) = others := by
  obtain ⟨⟨q, answer⟩, rest, same, first, later⟩ := List.map_eq_cons_iff.1 told
  obtain rfl := eq_ok_of_toOption first
  exact ⟨q, rest, same, later⟩

end History

end Wire

/-! ## Requests -/

/-- **A request can be built** if its URL is one of the web and its headers are sound; it holds what it is built
from. -/
theorem Http.Request.build_eq_ok {method : Http.Method} {url : String} {pairs headers : List (String × String)}
    {body : Text.Bytes} {q : Http.Request} :
    build method url pairs headers body = .ok q ↔ ∃ u, Url.parse? url = some u ∧
      (u.scheme = "http" ∨ u.scheme = "https") ∧ (∀ h ∈ headers, Http.isHeaderValue h.2 = true) ∧
      q = { method, url := Http.withPairs u pairs, headers, body } := by
  rw [build]
  cases Url.parse? url with
  | none => simp
  | some u =>
    simp only [Option.some.injEq, exists_eq_left']
    split
    next fit =>
      rw [Bool.and_eq_true, Bool.or_eq_true, beq_iff_eq, beq_iff_eq, List.all_eq_true] at fit
      exact ⟨fun same => ⟨fit.1, fit.2, (Except.ok.inj same).symm⟩, fun built => by rw [built.2.2]⟩
    next unfit =>
      rw [Bool.and_eq_true, Bool.or_eq_true, beq_iff_eq, beq_iff_eq, List.all_eq_true] at unfit
      exact iff_of_false (fun same => nomatch same) fun built => unfit ⟨built.1, built.2.1⟩

/-! ## Single inquiries -/

section

open Wire

variable {h : Wire.History}

@[simp] theorem runs_inquiry {q : Inquiry} {r : q.Answer} : (ask q).Runs h r ↔ h = [⟨q, r⟩] :=
  Dialogue.runs_question

/-- **A request is sent if it can be built, and its answer counts.** -/
theorem runs_carry {request : Except Http.Fault Http.Request} {answer : Except Http.Fault Http.Response} :
    (transport.carry request).Runs h answer ↔
      (∃ f, request = .error f ∧ h = [] ∧ answer = .error f) ∨ ∃ q, request = .ok q ∧ h = [⟨.send q, answer⟩] := by
  cases request with
  | error f =>
    simp only [Http.Transport.carry, Dialogue.runs_pure]
    constructor
    · rintro ⟨rfl, rfl⟩
      exact .inl ⟨f, rfl, rfl, rfl⟩
    · rintro (⟨f, ⟨⟩, rfl, rfl⟩ | ⟨q, ⟨⟩, -⟩)
      exact ⟨rfl, rfl⟩
  | ok q =>
    constructor
    · intro run
      exact .inr ⟨q, rfl, runs_inquiry.1 run⟩
    · rintro (⟨f, ⟨⟩, -⟩ | ⟨q, ⟨⟩, rfl⟩)
      exact runs_inquiry.2 rfl

/-- What a request leaves in a history. -/
theorem sent_of_carry {request : Except Http.Fault Http.Request} {answer : Except Http.Fault Http.Response}
    (run : (transport.carry request).Runs h answer) :
    h.times = [] ∧ ((∃ f, request = .error f ∧ h.sent = [] ∧ answer = .error f) ∨
      ∃ q, request = .ok q ∧ h.sent = [(q, answer)]) := by
  rcases runs_carry.1 run with ⟨f, built, rfl, rfl⟩ | ⟨q, built, rfl⟩
  · exact ⟨rfl, .inl ⟨f, built, rfl, rfl⟩⟩
  · exact ⟨rfl, .inr ⟨q, built, rfl⟩⟩

end

end HookFlow
