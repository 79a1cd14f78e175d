import HookFlow.Command.Arguments
import HookFlow.Command.Run
import HookFlow.Log.Recorder
/-!
The whole program: reading the command line, opening the log, running the command, and telling how it
ended.
-/

namespace HookFlow

/-- what the program runs in -/
structure Program (m : Type → Type) where
  environment : Config.Environment
  /-- the path of the current directory -/
  workspace : String
  disk : Disk m
  transport : Http.Transport m
  /-- whether somebody has asked for the run to stop -/
  cancelled : m Bool
  /-- writes to the standard output -/
  print : String → m Unit
  /-- writes to the standard error output -/
  complain : String → m Unit
  /-- waits some milliseconds -/
  sleep : UInt64 → m Unit
  /-- tells the time -/
  now : m Instant
  /-- the time, as the log shows it -/
  stamp : m String

namespace Program

/-- the name that the program goes by -/
def name : String := "fsb"

/-- the version of the program -/
def version : String := "0.2.0"

/-- how the program is used -/
def usage : String :=
  s!"{name} {version}
Convert CI workflows into serverless HTTP functions

USAGE:
    {name} [--config FILE] [-v] COMMAND

CONVERSION COMMANDS:
    scan OWNER/NAME [--format text|json]
    generate OWNER/NAME [--out DIR]
    deploy OWNER/NAME [--resource-group NAME]
"

variable {m : Type → Type} [Monad m] (p : Program m)

/-- what the log is written with -/
def desk : Log.Desk m where
  disk := p.disk
  print := p.print
  complain := p.complain
  stamp := p.stamp

/-- the session of a run whose events go to a recorder -/
def session (r : Log.Recorder) : Session m where
  environment := p.environment
  workspace := p.workspace
  disk := p.disk
  transport := p.transport
  supervisor := { cancelled := p.cancelled, log := r.record p.desk }
  print := p.print
  sleep := p.sleep
  now := p.now

/-- complains on behalf of the program -/
def fail (text : String) : m Unit := p.complain s!"{name}: {text}\n"

/-- the code that a run ends with if its command ends badly -/
def exitCode : Command.Fault → UInt32
  | .endlessLink => 101
  | _ => 1

/-- the event that reports how a command ended -/
def failureEvent (f : Command.Fault) : Log.Event :=
  { level := .error, origin := .program, message := "command failed",
    fields := [("error", .bare f.headline)] }

/-- runs what is asked for; the answer is the exit code -/
def run (i : Invocation) : m UInt32 := do
  match ← Log.Recorder.start p.disk p.environment p.workspace
      (Config.filePath p.workspace i.config) i.verbose i.command.isMachineReadable with
  | .error f =>
    p.fail f.message
    return 1
  | .ok r =>
    match ← (p.session r).run i with
    | .ok () => return 0
    | .error f =>
      r.record p.desk (failureEvent f)
      p.fail f.text
      return exitCode f

/-- tells why a command line is not followed; the answer is the exit code -/
def reject (r : Rejection) : m UInt32 := do
  match r with
  | .versionShown => p.print s!"{name} {version}\n"
  | .helpShown => p.print usage
  | _ => p.complain usage
  return r.exitCode

/-- follows a command line; the answer is the exit code -/
def follow (words : List String) : m UInt32 :=
  match Invocation.parse words with
  | .error r => p.reject r
  | .ok i => p.run i

end Program

end HookFlow
