import HookFlow.Supervisor
import HookFlow.Content.Basic
import HookFlow.Repository
import HookFlow.Text.Utf8
/-!
Sources of repository content: a code host, or anything that answers in its place.
-/

namespace HookFlow.Content

/-- where the content of repositories comes from -/
structure Source (m : Type → Type) where
  /-- the entries of a directory -/
  list (repo : Repository) (path : String) : m (Reply Fault (List Entry))
  /-- the bytes of a file at a ref, or at the default branch -/
  file (repo : Repository) (path : String) (gitRef : Option String) : m (Reply Fault Text.Bytes)

end HookFlow.Content
