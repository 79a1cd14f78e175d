import HookFlow.Command.Basic
import HookFlow.Command.Session
import HookFlow.Config.File
import HookFlow.Json.Printer
/-!
Running commands.

`scan` lists the flows of a repository, `generate` writes a package for each of them into a directory,
and `deploy` deploys them as a batch. A package is written as soon as it is made, and its path is printed
behind that, so what has been printed is there even if a later flow fails.
-/

namespace HookFlow

namespace Flow

/-- a trigger as a line of a listing -/
def triggerLine (t : Trigger) : String :=
  if t.actions.isEmpty then s!"  on: {t.event}\n"
  else
    let actions := ", ".intercalate t.actions
    s!"  on: {t.event} [{actions}]\n"

/-- a step as a line of a listing -/
def stepLine (s : Step) : String := s!"  step: {s.name} -> {s.filename}\n"

/-- a flow as lines of a listing: its name, its triggers and its steps -/
def describe (f : Flow) : String :=
  f.name ++ "\n" ++ String.join (f.triggers.map triggerLine) ++ String.join (f.steps.map stepLine)

/-- the path of a flow's package in a directory -/
def packagePath (out : String) (f : Flow) : String := Path.join out (f.name ++ ".zip")

end Flow

namespace Session

open Command (Fault)

variable {m : Type → Type} [Monad m] (s : Session m)

/-! ## Listing -/

/-- flows as a listing -/
def listing (repo : Repository) (flows : List Flow) : Format → String
  | .json => (Json.list (flows.map Flow.toJson)).pretty ++ "\n"
  | .text =>
    if flows.isEmpty then s!"No convertible workflows in {repo.render}\n"
    else String.join (flows.map Flow.describe)

/-- lists the flows of a repository -/
def scan (c : Config) (repo : Repository) (format : Format) : m (Except Fault Unit) := do
  match ← s.flows c repo with
  | .error f => return .error (.failure f)
  | .ok flows =>
    s.print (listing repo flows format)
    return .ok ()

/-! ## Writing packages -/

/-- the archive of a flow, with the runtime as it is now -/
def archive (conv : Converter) (f : Flow) : m (Except Failure Archive) := do
  let runtime ← s.runtime conv.packager.runtime.path
  match { conv with packager := { conv.packager with runtime } }.archive f with
  | .error e => return .error e
  | .ok a =>
    (f.packagingEvents a).forM s.supervisor.log
    return .ok a

/-- writes the package of a flow into a directory -/
def writePackage (conv : Converter) (out : String) (f : Flow) : m (Except Fault Unit) := do
  match ← s.archive conv f with
  | .error e => return .error (.failure e)
  | .ok a =>
    let path := f.packagePath out
    match ← s.disk.write path a.toZip with
    | .error fault => return .error (.output path fault)
    | .ok () =>
      s.supervisor.log
        { level := .info, origin := .command, message := "wrote package",
          fields := [("workflow", .bare f.name), ("path", .bare path), ("bytes", .count a.zipSize)] }
      s.print (path ++ "\n")
      return .ok ()

/-- writes the packages of some flows into a directory, in order, up to the first fault -/
def writePackages (conv : Converter) (out : String) : List Flow → m (Except Fault Unit)
  | [] => return .ok ()
  | f :: rest => do
    match ← s.writePackage conv out f with
    | .error e => return .error e
    | .ok () => writePackages conv out rest

/-- loads the flows of a repository for a converter, which must be able to serve them -/
def flowsFor (c : Config) (conv : Converter) (repo : Repository) :
    m (Except Failure (List Flow)) := do
  match ← s.flows c repo with
  | .error f => return .error f
  | .ok flows => return (conv.validate flows).map fun _ => flows

/-- writes the packages of a repository's flows into a directory -/
def generate (c : Config) (repo : Repository) (out : String) : m (Except Fault Unit) := do
  match ← s.converter c with
  | .error f => return .error (.failure f)
  | .ok conv =>
    match ← s.flowsFor c conv repo with
    | .error f => return .error (.failure f)
    | .ok flows =>
      match ← s.disk.createDirectories out with
      | .error fault => return .error (.outputDirectory out fault)
      | .ok () => s.writePackages conv out flows

/-! ## Deploying -/

/-- the line that tells what became of a flow -/
def reportLine (r : Report) : String :=
  match r.outcome with
  | .ok d => s!"{r.flow}: deployed {d.deployment} ({d.id})\n"
  | .error f => s!"{r.flow}: failed: {f.message}\n"

/-- tells what became of the flows of a batch -/
def tell (reports : List Report) : m (Except Fault Unit) := do
  (reports.map reportLine).forM s.print
  let failed := reports.countP (!·.succeeded)
  return if failed = 0 then .ok () else .error (.undeployed failed reports.length)

/-- deploys some flows -/
def deployFlows (c : Config) (conv : Converter) (flows : List Flow) : m (Except Fault Unit) := do
  match ← s.batch c conv with
  | .error fault => return .error fault
  | .ok batch =>
    match ← (batch.deployAll flows).run with
    | .error fault => return .error fault
    | .ok (.error f) => return .error (.failure f)
    | .ok (.ok reports) => s.tell reports

/-- deploys the flows of a repository, into a resource group of its own if one is given -/
def deploy (c : Config) (repo : Repository) (group : Option String) : m (Except Fault Unit) := do
  let c := { c with azure := { c.azure with resourceGroup := group.getD c.azure.resourceGroup } }
  match ← s.converter c with
  | .error f => return .error (.failure f)
  | .ok conv =>
    match ← s.flows c repo with
    | .error f => return .error (.failure f)
    | .ok flows => s.deployFlows c conv flows

/-! ## Running -/

/-- runs a command with a configuration -/
def perform (c : Config) : Command → m (Except Fault Unit)
  | .scan repo format => s.scan c repo format
  | .generate repo out => s.generate c repo out
  | .deploy repo group => s.deploy c repo group

/-- runs what is asked for -/
def run (i : Invocation) : m (Except Fault Unit) := do
  let content ← s.disk.read (Config.filePath s.workspace i.config)
  match Config.load s.environment s.workspace i.config content with
  | .error f => return .error (.failure f)
  | .ok c => s.perform c i.command

end Session

end HookFlow
