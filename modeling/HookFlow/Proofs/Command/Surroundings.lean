import HookFlow.Program
import HookFlow.Proofs.Loader.Questions
/-!
The surroundings of the whole program: files, network, console, clock and a user who may cancel, all of them as
questions.

A run of the program is a dialogue then, and its histories are what it can meet: answers of the network, other users of
the files, a console that is read. What was written to files and to the standard output is read off a history.

Results:
- `Session.Quiet.flows`: loading flows asks the network, the user and the log only.
- `Program.quiet_write`, `Program.quiet_print`: no log replaces a file, and one that does not go to the standard output
  leaves it alone.
-/

namespace HookFlow

open Dialogue (Asks)
open Text (Bytes)

/-! ## Loading in any surroundings -/

section

variable {Q : Type} {A : Q → Type} {K : Q → Prop}

theorem Http.Transport.asks_carry {t : Http.Transport (Dialogue A)} (send : ∀ r, Asks K (t.send r))
    (request : Except Http.Fault Http.Request) : Asks K (t.carry request) := by
  cases request with
  | error f => exact .pure _
  | ok r => exact send r

namespace Content.Github

variable {g : Github (Dialogue A)} (log : ∀ e, Asks K (g.supervisor.log e)) (send : ∀ r, Asks K (g.transport.send r))
include log send

theorem asks_get (url : String) (pairs : List (String × String)) : Asks K (g.get url pairs) := by
  refine (log _).bind fun _ => (Http.Transport.asks_carry send _).bind fun answer => ?_
  cases answer with
  | error f => exact .pure _
  | ok r =>
    dsimp only
    split
    · exact .pure _
    · exact .pure _

theorem asks_list (repo : Repository) (path : String) : Asks K (g.source.list repo path) :=
  ((asks_get log send _ _).bind fun _ => .pure _).bind fun _ => .pure _

theorem asks_file (repo : Repository) (path : String) (gitRef : Option String) :
    Asks K (g.source.file repo path gitRef) := by
  refine Asks.bind ((asks_get log send _ _).bind fun answer => ?_) fun _ => .pure _
  split
  · exact .pure _
  · exact .pure _
  · exact asks_get log send _ _

end Content.Github

namespace Session

/-- the network, the user and the log of a session ask questions of one kind only -/
structure Quiet (s : Session (Dialogue A)) (K : Q → Prop) : Prop where
  cancelled : Asks K s.supervisor.cancelled
  log (e : Log.Event) : Asks K (s.supervisor.log e)
  send (r : Http.Request) : Asks K (s.transport.send r)

/-- **Loading flows asks the network, the user and the log only.** -/
theorem Quiet.flows {s : Session (Dialogue A)} (quiet : s.Quiet K) (c : Config) (repo : Repository) :
    Asks K (s.flows c repo) := by
  rw [Session.flows]
  cases made : s.loader c with
  | error f => exact .pure _
  | ok l =>
    simp only [loader, Content.Github.create] at made
    split at made
    · cases made
      exact ((Loader.asks_closed quiet.cancelled quiet.log (Content.Github.asks_list quiet.log quiet.send)
        (Content.Github.asks_file quiet.log quiet.send)).load repo []).bind fun _ => .pure _
    · cases made

end Session

end

/-! ## Open surroundings -/

/-- what the program asks -/
inductive Errand where
  | look (path : String)
  | read (path : String)
  | write (path : String) (bytes : Bytes)
  | append (path : String) (bytes : Bytes)
  | createDirectories (path : String)
  | send (r : Http.Request)
  | cancelled
  | print (text : String)
  | complain (text : String)
  | sleep (milliseconds : UInt64)
  | now
  | stamp

/-- what an errand is answered with -/
abbrev Errand.Answer : Errand → Type
  | .look _ => Except OsFault FileTree
  | .read _ => Except OsFault Bytes
  | .write _ _ => Except OsFault Unit
  | .append _ _ => Except OsFault Unit
  | .createDirectories _ => Except OsFault Unit
  | .send _ => Except Http.Fault Http.Response
  | .cancelled => Bool
  | .print _ => Unit
  | .complain _ => Unit
  | .sleep _ => Unit
  | .now => Instant
  | .stamp => String

/-- a run of the program whose surroundings are left open -/
abbrev Stage := Dialogue Errand.Answer

namespace Stage

/-- what was done and answered in a run -/
abbrev History := List (Exchange Errand.Answer)

/-- one errand, with its answer as the result -/
def act (q : Errand) : Stage q.Answer := Dialogue.question q

@[simp] theorem runs_act {q : Errand} {r : q.Answer} {h : History} : (act q).Runs h r ↔ h = [⟨q, r⟩] :=
  Dialogue.runs_question

namespace History

/-- the files that were written, in order -/
def written (h : History) : List (String × Bytes) :=
  h.filterMap fun e =>
    match e with
    | ⟨.write path bytes, .ok ()⟩ => some (path, bytes)
    | _ => none

/-- the texts that were written to the standard output, in order -/
def printed (h : History) : List String :=
  h.filterMap fun e =>
    match e with
    | ⟨.print text, ()⟩ => some text
    | _ => none

@[simp] theorem written_append (h t : History) : written (h ++ t) = written h ++ written t := List.filterMap_append

@[simp] theorem written_cons (path : String) (bytes : Bytes) (u : Unit) (h : History) :
    written (⟨.write path bytes, .ok u⟩ :: h) = (path, bytes) :: written h := rfl

@[simp] theorem printed_nil : printed [] = [] := rfl

@[simp] theorem printed_append (h t : History) : printed (h ++ t) = printed h ++ printed t := List.filterMap_append

@[simp] theorem printed_cons (text : String) (u : Unit) (h : History) :
    printed (⟨.print text, u⟩ :: h) = text :: printed h := rfl

end History

end Stage

open Stage (act)

/-- the program in open surroundings -/
def Program.staged (environment : Config.Environment) (workspace : String) : Program Stage where
  environment
  workspace
  disk := {
    look := fun path => act (.look path)
    read := fun path => act (.read path)
    write := fun path bytes => act (.write path bytes)
    append := fun path bytes => act (.append path bytes)
    createDirectories := fun path => act (.createDirectories path) }
  transport := ⟨fun r => act (.send r)⟩
  cancelled := act .cancelled
  print text := act (.print text)
  complain text := act (.complain text)
  sleep ms := act (.sleep ms)
  now := act .now
  stamp := act .stamp

/-- a session in open surroundings -/
abbrev Session.staged (environment : Config.Environment) (workspace : String) (r : Log.Recorder) : Session Stage :=
  (Program.staged environment workspace).session r

/-- whether an errand replaces a file -/
def Errand.isWrite : Errand → Bool
  | .write _ _ => true
  | _ => false

/-- whether an errand writes to the standard output -/
def Errand.isPrint : Errand → Bool
  | .print _ => true
  | _ => false

theorem Stage.written_eq_nil {α : Type} {x : Stage α} (asks : Asks (fun q => q.isWrite = false) x) {h : History} {r : α}
    (run : x.Runs h r) : h.written = [] :=
  asks.filterMap_eq_nil run fun ⟨q, _⟩ other => by
    cases q with
    | write => cases other
    | _ => rfl

theorem Stage.printed_eq_nil {α : Type} {x : Stage α} (asks : Asks (fun q => q.isPrint = false) x) {h : History} {r : α}
    (run : x.Runs h r) : h.printed = [] :=
  asks.filterMap_eq_nil run fun ⟨q, _⟩ other => by
    cases q with
    | print => cases other
    | _ => rfl

/-! ## The log -/

namespace Program

variable {environment : Config.Environment} {workspace : String} {r : Log.Recorder} {K : Errand → Prop}

/-- What a recorder asks to record an event. -/
theorem asks_record (append : ∀ path bytes, K (.append path bytes)) (stamp : K .stamp)
    (complain : ∀ text, K (.complain text)) (print : r.console = .stdout → ∀ text, K (.print text)) (e : Log.Event) :
    Asks K (r.record (staged environment workspace).desk e) := by
  have filed (line : String) : Asks K (r.write (staged environment workspace).desk line) := by
    have shown : Asks K (Log.Recorder.write { r with file := none } (staged environment workspace).desk line) := by
      rw [Log.Recorder.write]
      dsimp only
      split
      next stdout => exact .question (print stdout _)
      · exact .question (complain _)
      · exact .pure _
    rw [Log.Recorder.write]
    split
    · exact (Asks.question (append _ _)).bind fun _ => shown
    · exact shown
  rw [Log.Recorder.record]
  split
  · exact (Asks.question stamp).bind fun _ => filed _
  · exact .pure _

/-- No session replaces a file before it has its flows. -/
theorem quiet_write : (Session.staged environment workspace r).Quiet fun q => q.isWrite = false where
  cancelled := .question rfl
  log := asks_record (fun _ _ => rfl) rfl (fun _ => rfl) fun _ _ => rfl
  send _ := .question rfl

/-- A log that does not go to the standard output leaves it alone. -/
theorem quiet_print (aside : r.console ≠ .stdout) :
    (Session.staged environment workspace r).Quiet fun q => q.isPrint = false where
  cancelled := .question rfl
  log := asks_record (fun _ _ => rfl) rfl (fun _ => rfl) fun stdout => absurd stdout aside
  send _ := .question rfl

end Program

end HookFlow
