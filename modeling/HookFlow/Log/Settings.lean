import HookFlow.Config.File
import HookFlow.Log.Filter
/-!
The settings of the log.

They come from a section of the configuration file, then from the environment, then from the command
line, and what comes later wins. Events go to a console and, if that is asked for, to a file; the file
lies in a directory of the workspace unless another one is given.
-/

namespace HookFlow.Log

/-- where events are shown -/
inductive Console where
  | stdout
  | stderr
  | nowhere
  deriving DecidableEq, Repr

namespace Console

/-- the word for a console -/
def name : Console → String
  | .stdout => "stdout"
  | .stderr => "stderr"
  | .nowhere => "none"

/-- all consoles -/
def all : List Console := [.stdout, .stderr, .nowhere]

/-- the console of a word -/
def ofName? (s : String) : Option Console := all.find? (·.name == s)

/-- the console that a text names, in any case of letters and with blanks around it -/
def parse? (s : String) : Option Console := ofName? (Text.toLowerAscii (Text.trim s))

/-- why a text names no console -/
def refusal (s : String) : String :=
  s!"invalid logging.console_output '{s}'; supported values are stdout, stderr, none"

/-- The console that is used. If the output of the command is for a machine, nothing else may stand on
the standard output. -/
def beside (machineReadable : Bool) : Console → Console
  | .stdout => if machineReadable then .stderr else .stdout
  | c => c

end Console

/-- why no log can be kept -/
inductive Fault where
  | unreadableConfig (path : String) (fault : OsFault)
  | malformedConfig (path : String)
  | level
  /-- the level is a directive, but its parts between commas are none -/
  | filter
  | noHome
  | noParent (path : String)
  | directory (path : String) (fault : OsFault)
  | file (path : String) (fault : OsFault)
  deriving DecidableEq, Repr

/-- the wording of a fault -/
def Fault.message : Fault → String
  | .unreadableConfig path fault => s!"failed to read logging config {path}: {fault.message}"
  | .malformedConfig path => s!"failed to parse logging config {path}: malformed text"
  | .level => "logging.default_level must be a valid tracing directive"
  | .filter => "failed to configure tracing level: invalid filter directive"
  | .noHome => "$HOME directory unavailable"
  | .noParent path => s!"log file path {path} has no parent directory"
  | .directory path fault => s!"failed to create log directory {path}: {fault.message}"
  | .file path fault => s!"failed to open log file {path}: {fault.message}"

/-- the settings of the log -/
structure Settings where
  directory : Option String := none
  /-- the directive that decides unless the environment gives a filter -/
  level : String := "info"
  /-- whether there is a file -/
  toFile : Bool := false
  console : Console := .stderr
  deriving DecidableEq, Repr

namespace Settings

open Toml (optional withDefault)

/-! ## Reading -/

/-- the settings with what a section of the file gives -/
def withSection? (s : Settings) (v : Toml) : Option Settings := do
  match ← v.record? ["log_dir", "default_level", "enable_file", "console_output"] with
  | [directory, level, toFile, console] =>
    let directory ← optional Toml.asText? directory
    let level ← optional Toml.asText? level
    let toFile ← optional Toml.asBool? toFile
    let word ← withDefault none (fun v => (v.asChoice? (Console.all.map (·.name))).map some) console
    return {
      directory := directory.or s.directory
      level := level.getD s.level
      toFile := toFile.getD s.toFile
      console := (word.bind Console.ofName?).getD s.console }
  | _ => none

/-- the settings with what the text of a configuration file gives; other sections do not count -/
def withText? (s : Settings) (text : String) : Option Settings := do
  match ← (Toml.table .header (← Toml.parse? text)).record? ["logging"] with
  | [section?] =>
    match ← optional some section? with
    | some v => s.withSection? v
    | none => some s
  | _ => none

/-- the settings with what the file at `path` gives; `content` is what reading it gives, and a file that
is not there gives nothing -/
def withFile (s : Settings) (path : String) (content : Except OsFault Text.Bytes) :
    Except Fault Settings :=
  match content with
  | .error .notFound | .error .notDirectory => .ok s
  | .error fault => .error (.unreadableConfig path fault)
  | .ok bytes =>
    match Text.decode bytes with
    | .error _ => .error (.unreadableConfig path .notText)
    | .ok text =>
      match s.withText? text with
      | some s => .ok s
      | none => .error (.malformedConfig path)

/-- the settings with what the environment gives; a directory given there asks for a file -/
def override (env : Config.Environment) (s : Settings) : Settings :=
  let s := { s with level := (Config.given? env "FSB_LOG_LEVEL").getD s.level }
  match Config.given? env "FSB_LOG_DIR" with
  | some directory => { s with directory := some directory, toFile := true }
  | none => s

/-- the level of verbose runs -/
def verboseLevel : String := "debug"

/-- the settings of a run; `file` is the path of the configuration file with what reading it gives -/
def load (env : Config.Environment) (file : Option (String × Except OsFault Text.Bytes))
    (verbose : Bool) : Except Fault Settings := do
  let s ← match file with
    | some (path, content) => withFile {} path content
    | none => pure {}
  let s := s.override env
  let s := if verbose then { s with level := verboseLevel } else s
  if (Directive.parse? s.level).isNone then throw .level
  return s

/-! ## The file and the filter -/

/-- the name of the file -/
def fileName : String := "fsb.log"

/-- where the directory of the file lies unless it is given -/
def defaultDirectory : String := Path.join ".fsb" "logs"

/-- the directory that relative paths start from: the workspace, or else the home directory -/
def base (env : Config.Environment) (workspace : Option String) : Except Fault String :=
  match workspace, (env.lookup "HOME").filter (· ≠ "") with
  | some w, _ => .ok w
  | none, some home => .ok home
  | none, none => .error .noHome

/-- the path of the file -/
def filePath (s : Settings) (env : Config.Environment) (workspace : Option String) :
    Except Fault String := do
  let directory ← match s.directory with
    | some d => if Path.isAbsolute d then pure d else (base env workspace).map (Path.join · d)
    | none => (base env workspace).map (Path.join · defaultDirectory)
  return Path.join directory fileName

/-- the filter of a run: the one in the environment, if it is well-formed, or else the level -/
def filter (s : Settings) (env : Config.Environment) : Except Fault Filter :=
  match ((env.lookup "RUST_LOG").bind Filter.parse?).or (Filter.parse? s.level) with
  | some f => .ok f
  | none => .error .filter

end Settings

end HookFlow.Log
