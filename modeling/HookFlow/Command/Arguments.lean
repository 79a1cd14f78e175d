import HookFlow.Command.Basic
import HookFlow.Text.Blank
/-!
Reading the command line.

The words before the name of a command belong to the program, those behind it to the command, and both
take the options that hold for the whole run. A value is looked at when the next thing begins, so of two
faults the one that comes first counts; but a word that fits nowhere is refused at once, whatever is
wrong with the value before it. What is given to the program itself is looked at last.
-/

namespace HookFlow

/-- why a command line is not followed -/
inductive Rejection where
  | helpShown
  | versionShown
  /-- nothing at all is asked for -/
  | nothingAsked
  | missingCommand
  | unknownCommand
  | unknownArgument
  | missingArgument
  /-- a value is missing, or it is none of the possible ones -/
  | invalidValue
  /-- a value cannot be read -/
  | malformedValue
  /-- a value is given where there is none -/
  | excessValue
  /-- something is given twice -/
  | repeated
  deriving DecidableEq, Repr

/-- the code that a run ends with if its command line is not followed -/
def Rejection.exitCode : Rejection → UInt32
  | .helpShown | .versionShown => 0
  | _ => 2

namespace Invocation

/-! ## What can be given -/

/-- the place of a value -/
inductive Slot where
  | config
  | verbose
  | repository
  | format
  | out
  | group
  deriving DecidableEq, Repr

/-- what takes words: the program, or one of its commands -/
inductive Level where
  | program
  | scan
  | generate
  | deploy
  deriving DecidableEq, Repr

/-- what an option of a level is for -/
inductive Meaning where
  | help
  | version
  | slot (s : Slot)
  deriving DecidableEq, Repr

namespace Slot

/-- whether a slot takes a value; the others are given or not -/
def takesValue (s : Slot) : Bool := s != .verbose

/-- what is wrong with the value of a slot -/
def fault? (s : Slot) (value : String) : Option Rejection :=
  match s with
  | .config | .out => if value.isEmpty then some .invalidValue else none
  | .format => if (Format.ofName? value).isNone then some .invalidValue else none
  | .repository => if (Repository.parse? value).isNone then some .malformedValue else none
  | .verbose | .group => none

end Slot

namespace Level

/-- the commands by their names -/
def commands : List (String × Level) :=
  [("scan", .scan), ("generate", .generate), ("deploy", .deploy)]

/-- the word that asks for help about a command -/
def helpWord : String := "help"

/-- the options of a level by their long names -/
def options (l : Level) : List (String × Meaning) :=
  [("config", .slot .config), ("verbose", .slot .verbose), ("help", .help)] ++
    match l with
    | .program => [("version", .version)]
    | .scan => [("format", .slot .format)]
    | .generate => [("out", .slot .out)]
    | .deploy => [("resource-group", .slot .group)]

/-- the options of a level by their letters -/
def letters (l : Level) : List (Char × Meaning) :=
  [('v', .slot .verbose), ('h', .help)] ++ if l = .program then [('V', .version)] else []

end Level

/-! ## What has been given -/

/-- what a level has been given so far -/
structure Given where
  settled : List (Slot × String) := []
  /-- what has been begun and not looked at, with its value if that has come -/
  open? : Option (Slot × Option String) := none
  deriving Repr

namespace Given

/-- whether a slot is given already -/
def has (g : Given) (s : Slot) : Bool :=
  (g.settled.lookup s).isSome || g.open?.any (·.1 == s)

/-- whether the value of what has been begun is still to come -/
def isWaiting (g : Given) : Bool := g.open?.any (·.2.isNone)

/-- the value of a slot -/
def value? (g : Given) (s : Slot) : Option String := g.settled.lookup s

/-- with one more value that has been looked at -/
def add (g : Given) (s : Slot) (value : String) : Except Rejection Given :=
  if (g.value? s).isSome then .error .repeated
  else
    match s.fault? value with
    | some r => .error r
    | none => .ok { g with settled := (s, value) :: g.settled }

/-- with what has been begun looked at -/
def settle (g : Given) : Except Rejection Given :=
  match g.open? with
  | none => .ok g
  | some (_, none) => .error .invalidValue
  | some (s, some value) => { g with open? := none }.add s value

/-- with a value begun, once everything before it has been looked at -/
def begin (g : Given) (s : Slot) (value : Option String) : Except Rejection Given := do
  return { ← g.settle with open? := some (s, value) }

/-- with something given that has no value, or that has its value with it -/
def give (g : Given) (s : Slot) (value : String) : Except Rejection Given := do
  (← g.settle).add s value

/-- with the value that is waited for -/
def fill (g : Given) (value : String) : Given :=
  { g with open? := g.open?.map fun o => (o.1, some value) }

end Given

/-! ## Words -/

/-- the kinds of words -/
inductive Word where
  /-- two dashes: only plain words follow -/
  | rest
  | long (name : String) (value : Option String)
  | letters (cs : List Char)
  | plain
  deriving DecidableEq, Repr

/-- the kind of a word; a lone dash is a plain one -/
def Word.ofString (s : String) : Word :=
  match s.toList with
  | ['-', '-'] => .rest
  | '-' :: '-' :: cs =>
    match cs.span (· ≠ '=') with
    | (name, _ :: value) => .long (String.ofList name) (some (String.ofList value))
    | (name, []) => .long (String.ofList name) none
  | '-' :: c :: cs => .letters (c :: cs)
  | _ => .plain

/-- what a level has been given behind an option -/
def takeOption (g : Given) (value : Option String) : Meaning → Except Rejection Given
  | .help => if value.isSome then .error .excessValue else g.settle.bind fun _ => .error .helpShown
  | .version =>
    if value.isSome then .error .excessValue else g.settle.bind fun _ => .error .versionShown
  | .slot s =>
    match s.takesValue, value with
    | true, some v => g.give s v
    | true, none => g.begin s none
    | false, some _ => .error .excessValue
    | false, none => g.give s ""

/-- what a level has been given behind some letters -/
def takeLetters (l : Level) (g : Given) : List Char → Except Rejection Given
  | [] => .ok g
  | c :: rest =>
    match l.letters.lookup c with
    | none => .error .unknownArgument
    | some meaning => do takeLetters l (← takeOption g none meaning) rest

/-- what a level has been given behind a plain word; a command takes one, and the program none -/
def takePlain (l : Level) (g : Given) (word : String) : Except Rejection Given :=
  if l = .program then .error .unknownCommand
  else if g.has .repository then .error .unknownArgument
  else g.begin .repository (some word)

/-- what a level has been given behind a word that is no name of a command -/
def takeWord (l : Level) (g : Given) (word : String) : Except Rejection Given :=
  match Word.ofString word with
  | .long name value =>
    match l.options.lookup name with
    | some meaning => takeOption g value meaning
    | none => .error .unknownArgument
  | .letters cs => takeLetters l g cs
  | .plain | .rest => if g.isWaiting then .ok (g.fill word) else takePlain l g word

/-! ## Levels -/

/-- what a command has been given by its words; `plainOnly` tells whether only plain words follow -/
def readCommand (l : Level) (plainOnly : Bool) (g : Given) : List String → Except Rejection Given
  | [] => do
    let g ← g.settle
    if g.has .repository then return g else throw .missingArgument
  | word :: rest =>
    if plainOnly then do readCommand l true (← takePlain l g word) rest
    else if Word.ofString word = .rest then readCommand l true g rest
    else do readCommand l false (← takeWord l g word) rest

/-- What asking for help with some words leads to. There are no commands below a command. -/
def readHelp : List String → Rejection
  | [] => .helpShown
  | [word] => if word = Level.helpWord || (Level.commands.lookup word).isSome then .helpShown
    else .unknownCommand
  | _ :: _ :: _ => .unknownCommand

/-- what the words of a command line give to the program and to a command -/
def readProgram (plainOnly : Bool) (g : Given) :
    List String → Except Rejection (Given × Level × Given)
  | [] => do
    let g ← g.settle
    throw (if g.settled.isEmpty then .nothingAsked else .missingCommand)
  | word :: rest =>
    let command := Level.commands.lookup word
    if plainOnly then
      .error (if command.isSome || word = Level.helpWord then .unknownArgument else .unknownCommand)
    else if !g.isWaiting && word = Level.helpWord then .error (readHelp rest)
    else
      match if g.isWaiting then none else command with
      | some l => do
        let below ← readCommand l false {} rest
        return (← g.settle, l, below)
      | none =>
        if Word.ofString word = .rest then readProgram true g rest
        else do readProgram false (← takeWord .program g word) rest

/-- the command that a level makes of what it has been given -/
def commandOf? (l : Level) (g : Given) : Option Command := do
  let repo ← (g.value? .repository).bind Repository.parse?
  match l with
  | .program => none
  | .scan => return .scan repo (((g.value? .format).bind Format.ofName?).getD .text)
  | .generate => return .generate repo ((g.value? .out).getD ".")
  | .deploy => return .deploy repo (g.value? .group)

/-- the run that a command line asks for -/
def parse (words : List String) : Except Rejection Invocation := do
  let (top, l, below) ← readProgram false {} words
  match commandOf? l below with
  | none => throw .missingArgument
  | some command =>
    return {
      config := (below.value? .config).or (top.value? .config)
      verbose := (below.value? .verbose).isSome || (top.value? .verbose).isSome
      command }

end Invocation

end HookFlow
