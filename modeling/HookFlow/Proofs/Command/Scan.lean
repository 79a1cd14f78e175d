import HookFlow.Proofs.Command.Generate
import HookFlow.Proofs.Except
import HookFlow.Proofs.Flow
import HookFlow.Proofs.Loader.Inputs
/-!
Listings for machines: what a run leaves on the standard output.

A run that lists flows opens its log, reads its configuration, loads the flows and prints them. If the listing is for a
machine, the log keeps off the standard output, whatever its settings say. So nothing is there but one text, and that
is read as the flows that were loaded. If they could not be loaded nothing is there at all.

Results:
- `Session.flows_proper`: loaded flows have no input twice.
- `Program.runs_scan`: the course of a run.
- `scan_decodes`: what is written of flows is read back, and what a run leaves.
-/

namespace HookFlow

open Action.Resolving (Leads)
open Dialogue (Asks runs_bind runs_map)
open Stage (act runs_act)

/-! ## Loaded flows -/

theorem Session.flows_proper {Q : Type} {A : Q → Type} {s : Session (Dialogue A)} {c : Config} {repo : Repository}
    {h : List (Exchange A)} {flows : List Flow} (run : (s.flows c repo).Runs h (.ok flows)) :
    ∀ f ∈ flows, f.IsProper := by
  rw [Session.flows] at run
  split at run
  · obtain ⟨-, ⟨⟩⟩ := run
  next l made =>
    obtain ⟨⟨result, cache⟩, h₁, h₂, rfl, loaded, rfl, rfl⟩ := runs_bind.1 run
    intro f hf s hs
    exact (load_gives l repo [] h₁ flows cache loaded f hf s hs).distinct

/-! ## The course of a run -/

section

variable {m : Type → Type} [Monad m]

/-- the flows that a run comes to which lists them -/
def Session.loading (s : Session m) (i : Invocation) (repo : Repository) : m (Except Failure (List Flow)) := do
  let content ← s.disk.read (Config.filePath s.workspace i.config)
  match Config.load s.environment s.workspace i.config content with
  | .error f => return .error f
  | .ok c => s.flows c repo

/-- A run that lists flows loads them and writes one text. -/
theorem Session.run_scan [LawfulMonad m] (s : Session m) {i : Invocation} {repo : Repository} {format : Format}
    (asked : i.command = .scan repo format) :
    s.run i = do
      match ← s.loading i repo with
      | .error f => return .error (.failure f)
      | .ok flows =>
        s.print (listing repo flows format)
        return .ok () := by
  rw [run, loading, asked, bind_assoc]
  refine bind_congr fun content => ?_
  cases Config.load s.environment s.workspace i.config content with
  | error f => simp
  | ok c => rfl

/-- the flows that a run for a machine comes to, if it comes that far -/
def Program.loading (p : Program m) (i : Invocation) (repo : Repository) : m (Option (List Flow)) := do
  match ← Log.Recorder.start p.disk p.environment p.workspace (Config.filePath p.workspace i.config) i.verbose true with
  | .error _ => return none
  | .ok r => return (← (p.session r).loading i repo).toOption

end

theorem Session.proper_of_loading {Q : Type} {A : Q → Type} {s : Session (Dialogue A)} {i : Invocation}
    {repo : Repository} {h : List (Exchange A)} {flows : List Flow} (run : (s.loading i repo).Runs h (.ok flows)) :
    ∀ f ∈ flows, f.IsProper := by
  obtain ⟨content, h₁, h₂, rfl, -, later⟩ := runs_bind.1 run
  split at later
  · obtain ⟨-, ⟨⟩⟩ := later
  · exact flows_proper later

namespace Program

variable {environment : Config.Environment} {workspace : String}

theorem asks_openFile (path : String) :
    Asks (fun q => q.isPrint = false) (Log.Recorder.openFile (staged environment workspace).disk path) := by
  rw [Log.Recorder.openFile]
  split
  · exact .pure _
  · refine .bind (.question rfl) fun made => ?_
    cases made with
    | error fault => exact .pure _
    | ok u => exact .bind (.question rfl) fun _ => .pure _

/-- Starting a log leaves the standard output alone. -/
theorem asks_start (config : String) (verbose machineReadable : Bool) :
    Asks (fun q => q.isPrint = false) (Log.Recorder.start (staged environment workspace).disk environment workspace
      config verbose machineReadable) := by
  refine .bind (.question rfl) fun content => ?_
  split
  · exact .pure _
  · split
    · exact .pure _
    · split
      · exact .pure _
      · exact (asks_openFile _).bind fun _ => .pure _

theorem aside_of_settings {s : Log.Settings} {env : Config.Environment} {dir : Option String} {r : Log.Recorder}
    (made : Log.Recorder.ofSettings s env dir true = .ok r) : r.console ≠ .stdout := by
  obtain ⟨filter, -, made⟩ := bind_eq_ok.1 made
  obtain ⟨path, -, made⟩ := bind_eq_ok.1 made
  cases made
  cases s.console <;> exact nofun

/-- **A log that is started for a machine keeps off the standard output**, whatever its settings say. -/
theorem aside_of_start {config : String} {verbose : Bool} {h : Stage.History} {r : Log.Recorder}
    (run : (Log.Recorder.start (staged environment workspace).disk environment workspace config verbose true).Runs h
      (.ok r)) : r.console ≠ .stdout := by
  obtain ⟨content, h₁, h₂, rfl, -, later⟩ := runs_bind.1 run
  split at later
  · obtain ⟨-, ⟨⟩⟩ := later
  · split at later
    · obtain ⟨-, ⟨⟩⟩ := later
    next made =>
      split at later
      · obtain ⟨-, ⟨⟩⟩ := later
        exact aside_of_settings made
      · obtain ⟨opened, h₃, h₄, rfl, -, rfl, same⟩ := runs_bind.1 later
        obtain ⟨u, -, rfl⟩ := map_eq_ok.1 same
        exact aside_of_settings made

theorem asks_loading {r : Log.Recorder} (aside : r.console ≠ .stdout) (i : Invocation) (repo : Repository) :
    Asks (fun q => q.isPrint = false) ((Session.staged environment workspace r).loading i repo) := by
  refine .bind (.question rfl) fun content => ?_
  split
  · exact .pure _
  · exact (quiet_print aside).flows _ _

theorem exitCode_ne_zero (f : Command.Fault) : exitCode f ≠ 0 := by
  cases f <;> exact nofun

/-- how a run for a machine ends, by the flows that it has come to -/
inductive Ends (repo : Repository) : Option (List Flow) → Stage.History → UInt32 → Prop where
  | listed {flows : List Flow} (proper : ∀ f ∈ flows, f.IsProper) :
    Ends repo (some flows) [⟨.print (Session.listing repo flows .json), ()⟩] 0
  | failed {h : Stage.History} {code : UInt32} (silent : h.printed = []) (bad : code ≠ 0) : Ends repo none h code

/-- **The course of a run for a machine**: nothing is printed while it comes to its flows, and they are all that is
printed then. -/
theorem runs_scan {i : Invocation} {repo : Repository} (asked : i.command = .scan repo .json) {h : Stage.History}
    {code : UInt32} (run : ((staged environment workspace).run i).Runs h code) :
    ∃ loaded h₁ h₂, h = h₁ ++ h₂ ∧ ((staged environment workspace).loading i repo).Runs h₁ loaded ∧ h₁.printed = [] ∧
      Ends repo loaded h₂ code := by
  rw [Program.run, asked] at run
  obtain ⟨started, h₁, h₂, rfl, start, later⟩ := runs_bind.1 run
  have quiet := Stage.printed_eq_nil (asks_start _ _ _) start
  cases started with
  | error f =>
    obtain ⟨⟨⟩, h₃, h₄, rfl, told, rfl, rfl⟩ := runs_bind.1 later
    have silent := Stage.printed_eq_nil (.question rfl) told
    refine ⟨none, h₁, _, rfl, runs_bind.2 ⟨_, h₁, [], by simp, start, rfl, rfl⟩, quiet, .failed ?_ nofun⟩
    rw [Stage.History.printed_append, silent, Stage.History.printed_nil, List.append_nil]
  | ok r =>
    have aside := aside_of_start start
    dsimp only at later
    rw [Session.run_scan _ asked] at later
    obtain ⟨ended, h₃, h₄, rfl, ran, later⟩ := runs_bind.1 later
    obtain ⟨loaded, h₅, h₆, rfl, loading, ran⟩ := runs_bind.1 ran
    have quiet' := Stage.printed_eq_nil (asks_loading aside i repo) loading
    refine ⟨loaded.toOption, h₁ ++ h₅, h₆ ++ h₄, by simp, ?_, by simp [quiet, quiet'], ?_⟩
    · exact runs_bind.2 ⟨_, h₁, h₅, rfl, start, runs_bind.2 ⟨_, h₅, [], by simp, loading, rfl, rfl⟩⟩
    · cases loaded with
      | error f =>
        obtain ⟨rfl, rfl⟩ := ran
        obtain ⟨⟨⟩, h₇, h₈, rfl, noted, later⟩ := runs_bind.1 later
        obtain ⟨⟨⟩, h₉, h₁₀, rfl, told, rfl, rfl⟩ := runs_bind.1 later
        have silent := Stage.printed_eq_nil ((quiet_print aside).log _) noted
        have silent' := Stage.printed_eq_nil (.question rfl) told
        exact .failed (by simp [silent, silent']) (exitCode_ne_zero _)
      | ok flows =>
        obtain ⟨⟨⟩, h₇, h₈, rfl, shown, rfl, rfl⟩ := runs_bind.1 ran
        obtain ⟨rfl, rfl⟩ := later
        rw [runs_act.1 shown]
        exact .listed (Session.proper_of_loading loading)

end Program

/-- **What is written of flows is read back.** A flow whose steps have no input twice is read from its short text and
from its long one as it was. Every flow that is read from any text is read again so. A run for a machine that follows a
command line comes to some flows or to none, and prints nothing until then. If it has flows, it prints one text, which
is read as the list of just these flows, and ends well. If it has none, it prints nothing and ends badly. -/
theorem scan_decodes :
    (∀ f : Flow, f.IsProper → Flow.decode? f.toJson.compact = some f ∧ Flow.decode? f.toJson.pretty = some f) ∧
    (∀ (text : String) (f : Flow), Flow.decode? text = some f →
      Flow.decode? f.toJson.compact = some f ∧ Flow.decode? f.toJson.pretty = some f) ∧
    ∀ (environment : Config.Environment) (workspace : String) (words : List String) (i : Invocation)
      (repo : Repository) (h : Stage.History) (code : UInt32),
      Invocation.parse words = .ok i → i.command = .scan repo .json →
      ((Program.staged environment workspace).follow words).Runs h code →
      ∃ loaded h₁ h₂, h = h₁ ++ h₂ ∧ ((Program.staged environment workspace).loading i repo).Runs h₁ loaded ∧
        h₁.printed = [] ∧
        match loaded with
        | some flows => ∃ text, h₂ = [⟨.print text, ()⟩] ∧ code = 0 ∧ Flow.decodeAll? text = some flows
        | none => h₂.printed = [] ∧ code ≠ 0 := by
  refine ⟨fun f => Flow.decode?_written, fun text f read => Flow.decode?_written (Flow.proper_of_decode? read), ?_⟩
  intro environment workspace words i repo h code parsed asked run
  rw [Program.follow, parsed] at run
  obtain ⟨loaded, h₁, h₂, rfl, loading, quiet, ends⟩ := Program.runs_scan asked run
  refine ⟨loaded, h₁, h₂, rfl, loading, quiet, ?_⟩
  cases ends with
  | listed proper =>
    exact ⟨_, rfl, rfl, Flow.decodeAll?_spelled proper (Json.spells_pretty 0 (Flow.wordy_list _))⟩
  | failed silent bad => exact ⟨silent, bad⟩

/-! A step without a source, a text that gives an input twice, and a repository with one workflow, whose log is to be on
the standard output. -/

def writtenFlow : Flow :=
  ⟨"a.yml", [⟨"push", []⟩, ⟨"issues", ["opened", "closed"]⟩], [⟨"j-0", "", [("to", "\"\n"), ("by", "é")]⟩]⟩

def repeatingText : String :=
  "\x7b\"name\":\"a\",\"triggers\":[],\"steps\":[\x7b\"name\":\"j-0\",\"inputs\":" ++
    "\x7b\"to\":\"x\",\"by\":\"y\",\"to\":\"z\"\x7d\x7d]\x7d"

def repeatingFlow : Flow := ⟨"a", [], [⟨"j-0", "", [("to", "z"), ("by", "y")]⟩]⟩

/-- the configuration file of the run -/
def scannedFile : String := "[github]\nworkflows_path = \"w\"\n[logging]\nconsole_output = \"stdout\"\n"

def scannedAnswer : (q : Errand) → q.Answer
  | .read _ => .ok (Text.encode scannedFile)
  | q => listedAnswer ["a.yml"] q

def scannedInvocation : Invocation where
  command := .scan ⟨"o", "r"⟩ .json

def scannedWords : List String := ["scan", "o/r", "--format", "json"]

def scannedProgram : Program Stage := .staged [("FSB_GITHUB_API_URL", "http://h")] ""

def scannedFlow : Flow := ⟨"a.yml", [⟨"push", []⟩], [⟨"j-0", "", []⟩]⟩

/-- what the run prints -/
def scannedText : String := Session.listing ⟨"o", "r"⟩ [scannedFlow] .json

theorem scan_decodes_listed :
    Flow.decode? writtenFlow.toJson.compact = some writtenFlow ∧ Flow.decode? repeatingText = some repeatingFlow ∧
    Flow.decode? repeatingFlow.toJson.pretty = some repeatingFlow ∧
    ∃ h h₁ h₂ : Stage.History, h = h₁ ++ h₂ ∧ (scannedProgram.follow scannedWords).Runs h 0 ∧
      h.printed = [scannedText] ∧
      (scannedProgram.loading scannedInvocation ⟨"o", "r"⟩).Runs h₁ (some [scannedFlow]) := by
  obtain ⟨written, again, scanned⟩ := scan_decodes
  have read : Flow.decode? repeatingText = some repeatingFlow := by decide +kernel
  refine ⟨(written writtenFlow (by decide)).1, read, (again _ _ read).2, ?_⟩
  have ending : ((scannedProgram.follow scannedWords).reply scannedAnswer,
      Stage.History.printed ((scannedProgram.follow scannedWords).replies scannedAnswer)) = (0, [scannedText]) := by
    decide +kernel
  obtain ⟨good, printed⟩ := Prod.mk.inj ending
  have run := Dialogue.runs_reply scannedAnswer (scannedProgram.follow scannedWords)
  rw [good] at run
  have parsed : Invocation.parse scannedWords = .ok scannedInvocation := by decide +kernel
  have decoded : Flow.decodeAll? scannedText = some [scannedFlow] :=
    Flow.decodeAll?_spelled (by decide) (Json.spells_pretty 0 (Flow.wordy_list _))
  obtain ⟨loaded, h₁, h₂, whole, loading, silent, ends⟩ := scanned _ _ _ _ _ _ _ parsed rfl run
  refine ⟨_, h₁, h₂, whole, run, printed, ?_⟩
  cases loaded with
  | none => exact absurd rfl ends.2
  | some flows =>
    obtain ⟨text, rfl, -, read⟩ := ends
    have same : text = scannedText := by simpa [whole, silent] using printed
    rw [same, decoded] at read
    rwa [Option.some.inj read]

end HookFlow
