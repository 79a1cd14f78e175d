import HookFlow.Text.Blank
/-!
References to published actions, of the form `owner/repo@ref`.

Owner and repository are runs of small letters and hyphens, the ref is a run of letters, digits,
dots and hyphens. Blanks around a reference do not count. Everything else a step may name (a local
path, a container image, an action in a subdirectory) is no reference, which is an expected outcome
and no failure.
-/

namespace HookFlow

/-- a published action at one of its refs -/
structure ActionReference where
  owner : String
  repo : String
  gitRef : String
  deriving DecidableEq, Repr

namespace ActionReference

/-- a character of an owner or of a repository -/
def isNameChar (c : Char) : Bool := c.isLower || c == '-'

/-- a character of a ref -/
def isRefChar (c : Char) : Bool := c.isAlphanum || c == '.' || c == '-'

/-- the leading run of name characters up to `stop`, and what follows `stop`; the run must not be
empty -/
def nameUpTo? (stop : Char) (cs : List Char) : Option (List Char × List Char) :=
  match cs.takeWhile isNameChar, cs.dropWhile isNameChar with
  | c :: name, d :: rest => if d = stop then some (c :: name, rest) else none
  | _, _ => none

/-- the reference that trimmed text writes -/
def ofChars? (cs : List Char) : Option ActionReference := do
  let (owner, cs) ← nameUpTo? '/' cs
  let (repo, cs) ← nameUpTo? '@' cs
  if cs.isEmpty || !cs.all isRefChar then none
  else some ⟨String.ofList owner, String.ofList repo, String.ofList cs⟩

/-- the reference that a `uses` text writes -/
def parse? (uses : String) : Option ActionReference :=
  ofChars? (Text.trimChars uses.toList)

/-- the written form of a reference -/
def render (r : ActionReference) : String :=
  r.owner ++ "/" ++ r.repo ++ "@" ++ r.gitRef

end ActionReference

end HookFlow
