import HookFlow.Text.Blank
/-!
Paths as they are written.

A path is kept as its text: joining does not tidy anything up. A path that starts with a slash is
absolute. Empty components and single dots do not count when a path is followed.
-/

namespace HookFlow.Path

/-- whether a path starts at the root -/
def isAbsolute (p : String) : Bool := p.toList.head? == some '/'

/-- `p` as seen from `base`: an absolute path stands for itself -/
def join (base p : String) : String :=
  if isAbsolute p || base.isEmpty then p
  else if base.toList.getLast? == some '/' then base ++ p
  else base ++ "/" ++ p

/-- the components of a path that count -/
def components (p : String) : List String :=
  ((Text.splitChars '/' p.toList).map String.ofList).filter fun c => c ≠ "" && c ≠ "."

/-- a reversed text without slashes and single dots at its front -/
def trimReversed : List Char → List Char
  | '/' :: rest => if rest.isEmpty then ['/'] else trimReversed rest
  | '.' :: '/' :: rest => trimReversed ('/' :: rest)
  | cs => cs

/-- the path without its last component; the root and the empty path have no parent -/
def parent? (p : String) : Option String :=
  let body := trimReversed p.toList.reverse
  if body.isEmpty || body == ['/'] then none
  else
    let above := body.dropWhile (· != '/')
    some (String.ofList (trimReversed above).reverse)

end HookFlow.Path
