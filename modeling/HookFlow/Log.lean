import HookFlow.Text.Shown
/-!
Log events: what a run reports about itself while it is under way.

An event has a level, the part of the program that it comes from, a message and named values. Levels
are ordered by how much is shown: a level lets its own events pass and those of every graver level.
-/

namespace HookFlow.Log

/-- how important an event is -/
inductive Level where
  | error
  | warn
  | info
  | debug
  | trace
  deriving DecidableEq, Repr

/-- the word for a level -/
def Level.name : Level → String
  | .error => "ERROR"
  | .warn => "WARN"
  | .info => "INFO"
  | .debug => "DEBUG"
  | .trace => "TRACE"

/-- how much a level lets pass -/
def Level.rank : Level → Nat
  | .error => 1
  | .warn => 2
  | .info => 3
  | .debug => 4
  | .trace => 5

/-- the part of the program that an event comes from -/
inductive Origin where
  | program
  | command
  | content
  | actions
  | loader
  | package
  | deploy
  | azure
  | pipeline
  deriving DecidableEq, Repr

/-- the path by which filters name a part -/
def Origin.path : Origin → String
  | .program => "fsb"
  | .command => "fsb::cli::commands"
  | .content => "fsb::core::flows::content"
  | .actions => "fsb::core::flows::action"
  | .loader => "fsb::core::flows::loader"
  | .package => "fsb::core::package"
  | .deploy => "fsb::core::deploy"
  | .azure => "fsb::core::deploy::azure"
  | .pipeline => "fsb::core::pipeline"

/-- a value of an event: a text that is written in quotes, or one that is written as it is -/
inductive Value where
  | quoted (s : String)
  | bare (s : String)
  deriving DecidableEq, Repr

/-- a value without quotes -/
def Value.text : Value → String
  | .quoted s => s
  | .bare s => s

/-- a value as it stands in a line -/
def Value.render : Value → String
  | .quoted s => Text.shown s
  | .bare s => s

/-- a number as a value -/
def Value.count (n : Nat) : Value := .bare (toString n)

/-- something that happened -/
structure Event where
  level : Level
  origin : Origin
  message : String
  fields : List (String × Value) := []
  deriving DecidableEq, Repr

namespace Event

/-- an event as a line: the time, the level set right in five columns, the message, and the values in
order -/
def line (time : String) (e : Event) : String :=
  let level := e.level.name
  let pad := String.ofList (List.replicate (5 - level.length) ' ')
  time ++ " " ++ pad ++ level ++ " " ++ e.message
    ++ String.join (e.fields.map fun f => " " ++ f.1 ++ "=" ++ f.2.render)

end Event

end HookFlow.Log
