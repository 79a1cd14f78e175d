import HookFlow.Repository
/-!
Commands: what the program can be asked to do.
-/

namespace HookFlow

/-- how flows are listed -/
inductive Format where
  | text
  | json
  deriving DecidableEq, Repr

/-- the word for a format -/
def Format.name : Format → String
  | .text => "text"
  | .json => "json"

/-- the format of a word -/
def Format.ofName? (s : String) : Option Format := [Format.text, .json].find? (·.name == s)

/-- a command -/
inductive Command where
  /-- lists the flows of a repository -/
  | scan (repo : Repository) (format : Format)
  /-- writes the packages of a repository's flows into a directory -/
  | generate (repo : Repository) (out : String)
  /-- deploys the flows of a repository, into a resource group of its own if one is given -/
  | deploy (repo : Repository) (group : Option String)
  deriving DecidableEq, Repr

/-- whether the output of a command is for a machine -/
def Command.isMachineReadable : Command → Bool
  | .scan _ .json => true
  | _ => false

/-- one run of the program as it is asked for -/
structure Invocation where
  /-- the path of the configuration file, if it is given -/
  config : Option String := none
  verbose : Bool := false
  command : Command
  deriving DecidableEq, Repr

end HookFlow
