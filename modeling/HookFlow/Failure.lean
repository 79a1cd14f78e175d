import HookFlow.Ordered
import HookFlow.Text.Shown
/-!
Failures: what went wrong, in which part of a run, and where.

A failure has a category, a code, a message, a context of named texts that grows on the way up, and
the text of the failure below it, if there is one. Only a failure of category `deployment` is scoped
to a single workflow; every other category ends a whole batch.
-/

namespace HookFlow

/-- which part of a run failed -/
inductive Category where
  /-- a remote source could not be reached or refused to answer -/
  | fetch
  /-- a document is malformed -/
  | decode
  /-- the trigger declaration of a workflow is neither an event nor a mapping of events -/
  | unrecognizedShape
  | packaging
  | deployment
  | cancelled
  | validation
  | io
  | internal
  deriving DecidableEq, Repr

/-- the word for a category -/
def Category.name : Category → String
  | .fetch => "FetchError"
  | .decode => "DecodeError"
  | .unrecognizedShape => "UnrecognizedShapeError"
  | .packaging => "PackagingError"
  | .deployment => "DeploymentError"
  | .cancelled => "CancelledError"
  | .validation => "ValidationError"
  | .io => "IoError"
  | .internal => "InternalError"

/-- how grave a failure is -/
inductive Severity where
  | error
  | warning
  deriving DecidableEq, Repr

/-- the word for a severity -/
def Severity.name : Severity → String
  | .error => "Error"
  | .warning => "Warning"

/-- Cancellation is somebody's wish and so only a warning. -/
def Category.severity : Category → Severity
  | .cancelled => .warning
  | _ => .error

/-- what a failure is filed under: a fixed code, or one drawn at random for this failure alone -/
inductive Code where
  | fixed (text : String)
  | drawn
  deriving DecidableEq, Repr

/-- the text of a code; the random part of a drawn one is left open -/
def Code.text : Code → String
  | .fixed t => t
  | .drawn => "ERR-<uuid>"

/-- a failure of some part of a run -/
structure Failure where
  category : Category
  code : Code := .drawn
  message : String
  /-- named texts that say where it happened, sorted by name -/
  context : List (String × String) := []
  /-- the text of the failure underneath -/
  cause : Option String := none
  deriving DecidableEq, Repr

namespace Failure

def fetch (message : String) : Failure :=
  { category := .fetch, code := .fixed "FSB-FETCH-001", message }

def decode (message : String) : Failure :=
  { category := .decode, code := .fixed "FSB-DECODE-001", message }

def unrecognizedShape (message : String) : Failure :=
  { category := .unrecognizedShape, code := .fixed "FSB-SHAPE-001", message }

def packaging (message : String) : Failure :=
  { category := .packaging, code := .fixed "FSB-PACKAGE-001", message }

def deployment (message : String) : Failure :=
  { category := .deployment, code := .fixed "FSB-DEPLOY-001", message }

def cancelled : Failure :=
  { category := .cancelled, code := .fixed "FSB-CANCELLED", message := "operation cancelled" }

def validation (message : String) : Failure :=
  { category := .validation, message }

/-- a failure of the file system, known by its text alone -/
def io (text : String) : Failure :=
  { category := .io, code := .fixed "IO_ERROR", message := text, cause := some text }

/-- the failure with one more fact about where it happened -/
def within (f : Failure) (name value : String) : Failure :=
  { f with context := Ordered.putSorted name value f.context }

/-- the failure filed under another code -/
def withCode (f : Failure) (code : String) : Failure :=
  { f with code := .fixed code }

/-- how grave a failure is -/
def severity (f : Failure) : Severity := f.category.severity

/-- Deployment failures concern one workflow; everything else stops a batch. -/
def endsBatch (f : Failure) : Bool := f.category != .deployment

/-- whether the failure is a cancellation -/
def isCancelled (f : Failure) : Bool := f.category == .cancelled

/-- the context in brackets, texts shown in quotes -/
def contextText (context : List (String × String)) : String :=
  "[" ++ ", ".intercalate (context.map fun e => s!"({Text.shown e.1}, {Text.shown e.2})") ++ "]"

/-- the full text of a failure: code, category, message, context and cause -/
def text (f : Failure) : String :=
  s!"[{f.code.text}] {f.category.name}: {f.message}"
    ++ (if f.context.isEmpty then "" else s!" (Context: {contextText f.context})")
    ++ match f.cause with
      | some c => s!"\nCaused by: {c}"
      | none => ""

end Failure

end HookFlow
