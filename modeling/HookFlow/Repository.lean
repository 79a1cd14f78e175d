import HookFlow.Text.Blank
/-!
Repositories, written `owner/name`.

The text is trimmed, cut at its first slash, and both parts must be there; the name holds no further
slash. Nothing else is asked of the parts, so blanks next to the slash belong to them.
-/

namespace HookFlow

/-- a repository of a code host -/
structure Repository where
  owner : String
  name : String
  deriving DecidableEq, Repr

namespace Repository

/-- the written form of a repository -/
def render (r : Repository) : String :=
  r.owner ++ "/" ++ r.name

/-- the repository that trimmed text writes -/
def ofChars? (cs : List Char) : Option Repository :=
  let owner := cs.takeWhile (· != '/')
  match cs.dropWhile (· != '/') with
  | _ :: name =>
    if owner.isEmpty || name.isEmpty || name.contains '/' then none
    else some ⟨String.ofList owner, String.ofList name⟩
  | [] => none

/-- the repository that a text writes -/
def parse? (text : String) : Option Repository :=
  ofChars? (Text.trimChars text.toList)

/-- what is said about a text that writes no repository -/
def refusal (text : String) : String :=
  s!"invalid repository '{text}'; expected OWNER/NAME"

end Repository

end HookFlow
