import HookFlow.Files.Disk
import HookFlow.Log.Settings
/-!
Keeping the log of a run.

A recorder writes the events that its filter lets pass, one to a line, to a console and to a file. The
file is opened before anything is recorded, so that a run without a place for its log does not begin.
-/

namespace HookFlow.Log

/-- where the log of a run goes -/
structure Recorder where
  filter : Filter
  console : Console
  /-- the path of the file, if there is one -/
  file : Option String
  deriving Repr

/-- what a log is written with -/
structure Desk (m : Type → Type) where
  disk : Disk m
  /-- writes to the standard output -/
  print : String → m Unit
  /-- writes to the standard error output -/
  complain : String → m Unit
  /-- the time, as lines show it -/
  stamp : m String

namespace Recorder

variable {m : Type → Type} [Monad m]

/-- makes sure that there is a file at a path to write to -/
def openFile (disk : Disk m) (path : String) : m (Except Fault Unit) := do
  match Path.parent? path with
  | none => return .error (.noParent path)
  | some directory =>
    match ← disk.createDirectories directory with
    | .error fault => return .error (.directory directory fault)
    | .ok () => return (← disk.append path []).mapError (.file path)

/-- the recorder that some settings ask for -/
def ofSettings (s : Settings) (env : Config.Environment) (workspace : Option String)
    (machineReadable : Bool) : Except Fault Recorder := do
  let filter ← s.filter env
  let path ← s.filePath env workspace
  return {
    filter
    console := s.console.beside machineReadable
    file := if s.toFile then some path else none }

/-- a recorder that is ready to write; `config` is the path of the configuration file -/
def start (disk : Disk m) (env : Config.Environment) (workspace config : String)
    (verbose machineReadable : Bool) : m (Except Fault Recorder) := do
  let content ← disk.read config
  match Settings.load env (some (config, content)) verbose with
  | .error f => return .error f
  | .ok s =>
    match ofSettings s env (some workspace) machineReadable with
    | .error f => return .error f
    | .ok r =>
      match r.file with
      | none => return .ok r
      | some path => return (← openFile disk path).map fun _ => r

/-- writes a line to where the log goes; a file that refuses it is passed over -/
def write (r : Recorder) (d : Desk m) (line : String) : m Unit := do
  match r.file with
  | some path => let _ ← d.disk.append path (Text.encode line)
  | none => pure ()
  match r.console with
  | .stdout => d.print line
  | .stderr => d.complain line
  | .nowhere => return ()

/-- records an event -/
def record (r : Recorder) (d : Desk m) (e : Event) : m Unit := do
  if r.filter.allows e then r.write d (e.line (← d.stamp) ++ "\n")

end Recorder

end HookFlow.Log
