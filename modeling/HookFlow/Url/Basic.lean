import HookFlow.Url.Host
/-!
URLs.

A text is read as an absolute URL: blanks around it and tabs and line ends in it do not count. The
schemes of the web have an authority, a path that starts with a slash, and take backslashes for
slashes. Every part is escaped as far as its place in the URL demands, escapes that are there stay as
they are, and the segments `.` and `..` of a path are worked off.
-/

namespace HookFlow

open Text (percentEncode splitChars)

/-- an absolute URL; the path keeps its escapes -/
structure Url where
  scheme : String
  /-- name and password in front of the host, as they are written -/
  credentials : Option String := none
  host : Option Url.Host := none
  /-- the port, unless it is the usual one of the scheme -/
  port : Option Nat := none
  path : String
  query : Option String := none
  fragment : Option String := none
  deriving DecidableEq, Repr

namespace Url

/-- the usual ports of the schemes of the web -/
def usualPorts : List (String × Nat) :=
  [("http", 80), ("https", 443), ("ws", 80), ("wss", 443), ("ftp", 21)]

/-- whether a scheme is one of the web, which file URLs are only in part -/
def isWeb (scheme : String) : Bool := (usualPorts.lookup scheme).isSome

/-- a slash, or a backslash that counts as one -/
def isSlash (web : Bool) (c : Char) : Bool := c == '/' || (web && c == '\\')

/-! ## Escapes -/

/-- what a fragment keeps as it is -/
def keepsInFragment (c : Char) : Bool :=
  ' ' < c && c < '\x7f' && !"\"<>`".toList.contains c

/-- what a path keeps as it is -/
def keepsInPath (c : Char) : Bool := keepsInFragment c && !"#?\x7b\x7d".toList.contains c

/-- what a query keeps as it is -/
def keepsInQuery (web : Bool) (c : Char) : Bool :=
  ' ' < c && c < '\x7f' && !"\"#<>".toList.contains c && !(web && c == '\'')

/-- what the path of a scheme without hierarchy keeps as it is -/
def keepsInPlainPath (c : Char) : Bool := ' ' ≤ c && c < '\x7f'

/-! ## Paths -/

/-- whether a segment stands for the same place -/
def isHere (cs : List Char) : Bool :=
  let s := (String.ofList cs).toLower
  s == "." || s == "%2e"

/-- whether a segment stands for the place above -/
def isAbove (cs : List Char) : Bool :=
  let s := (String.ofList cs).toLower
  s == ".." || s == ".%2e" || s == "%2e." || s == "%2e%2e"

/-- the segments of a path with the dots worked off; `done` is what stands before, in reverse -/
def settled (done : List (List Char)) : List (List Char) → List (List Char)
  | [] => done.reverse
  | s :: rest =>
    if isAbove s then
      settled (if rest.isEmpty then [] :: done.drop 1 else done.drop 1) rest
    else if isHere s then settled (if rest.isEmpty then [] :: done else done) rest
    else settled (s :: done) rest

/-- the path that some text writes, which starts with a slash or is empty -/
def pathText (web : Bool) (cs : List Char) : String :=
  let cs := if web then cs.map fun c => if c == '\\' then '/' else c else cs
  let below := match cs with
    | '/' :: rest => rest
    | cs => cs
  let segments := splitChars '/' below
  if cs.isEmpty && !web then ""
  else
    "/" ++ "/".intercalate
      ((settled [] segments).map fun s => String.ofList (percentEncode keepsInPath s))

/-! ## Parts -/

/-- a text without blanks and controls around it, and without tabs and line ends -/
def tidied (cs : List Char) : List Char :=
  let isEdge : Char → Bool := fun c => c ≤ ' '
  let cs := ((cs.dropWhile isEdge).reverse.dropWhile isEdge).reverse
  cs.filter fun c => c ≠ '\t' && c ≠ '\n' && c ≠ '\r'

/-- a text cut at the first character that satisfies `p`, which stays in front of the rest -/
def span (p : Char → Bool) (cs : List Char) : List Char × List Char :=
  (cs.takeWhile (!p ·), cs.dropWhile (!p ·))

/-- a scheme and what stands behind its colon -/
def scheme? (cs : List Char) : Option (String × List Char) :=
  let isPart : Char → Bool := fun c => c.isAlphanum || c == '+' || c == '-' || c == '.'
  let name := cs.takeWhile isPart
  match name, cs.drop name.length with
  | c :: _, ':' :: rest =>
    if c.isAlpha then some ((String.ofList name).toLower, rest) else none
  | _, _ => none

/-- a port up to the end of an authority; nothing behind the colon is no port -/
def port? (scheme : String) (cs : List Char) : Option (Option Nat) :=
  if cs.isEmpty then some none
  else if cs.all fun c => '0' ≤ c && c ≤ '9' then
    let n := cs.foldl (fun n c => n * 10 + (c.toNat - 48)) 0
    if 65535 < n then none
    else some (if usualPorts.lookup scheme == some n then none else some n)
  else none

/-- the host at the front of an authority, up to a colon outside of brackets -/
def hostChars (inside : Bool) : List Char → List Char
  | [] => []
  | c :: rest =>
    if c == ':' && !inside then []
    else if c == '[' then c :: hostChars true rest
    else if c == ']' then c :: hostChars false rest
    else c :: hostChars inside rest

/-- name and password, and what stands behind the last at sign of an authority -/
def cutCredentials (cs : List Char) : Option (List Char) × List Char :=
  if cs.contains '@' then
    let host := (cs.reverse.takeWhile (· ≠ '@')).reverse
    (some (cs.take (cs.length - host.length - 1)), host)
  else (none, cs)

/-- query and fragment, with the part in front of them -/
def tail (web : Bool) (cs : List Char) : List Char × Option String × Option String :=
  let (front, rest) := span (· == '#') cs
  let fragment := match rest with
    | _ :: f => some (String.ofList (percentEncode keepsInFragment f))
    | [] => none
  let (front, rest) := span (· == '?') front
  let query := match rest with
    | _ :: q => some (String.ofList (percentEncode (keepsInQuery web) q))
    | [] => none
  (front, query, fragment)

/-- a URL with an authority, given what stands behind the slashes in front of it -/
def withAuthority? (scheme : String) (cs : List Char) : Option Url := do
  let web := isWeb scheme
  let (front, query, fragment) := tail web cs
  let (authority, path) := span (isSlash web) front
  let (user, rest) := cutCredentials authority
  let hostText := hostChars false rest
  let portText := rest.drop hostText.length
  let port ← port? scheme (portText.drop 1)
  let host ← if hostText.isEmpty then some none
    else ((if web then webHost? hostText else plainHost? hostText).map some)
  let userGiven := user.any (!·.isEmpty)
  let cutOff := !path.isEmpty || query.isSome || fragment.isSome
  if host.isNone && (web || userGiven || !portText.isEmpty || (user.isSome && cutOff)) then none
  return { scheme, credentials := user.map String.ofList, host, port,
           path := pathText web path, query, fragment }

/-- whether a text is a drive letter -/
def isDrive (cs : List Char) : Bool :=
  match cs with
  | [c, d] => c.isAlpha && (d == ':' || d == '|')
  | _ => false

/-- the URL of a file, given what stands behind the scheme -/
def file? (cs : List Char) : Option Url := do
  let (front, query, fragment) := tail true cs
  match front with
  | a :: b :: rest =>
    if isSlash true a && isSlash true b then
      let (authority, path) := span (isSlash true) rest
      if authority.isEmpty then
        return { scheme := "file", path := pathText true path, query, fragment }
      if isDrive authority then
        return { scheme := "file", path := pathText true ('/' :: rest), query, fragment }
      let host ← webHost? authority
      let host := if host == .domain "localhost" then none else some host
      return { scheme := "file", host, path := pathText true path, query, fragment }
    else return { scheme := "file", path := pathText true front, query, fragment }
  | _ => return { scheme := "file", path := pathText true front, query, fragment }

/-- the URL that a text writes -/
def parse? (s : String) : Option Url := do
  let (scheme, rest) ← scheme? (tidied s.toList)
  if scheme == "file" then file? rest
  else if isWeb scheme then withAuthority? scheme (rest.dropWhile (isSlash true))
  else match rest with
    | '/' :: '/' :: rest => withAuthority? scheme rest
    | _ =>
      let (front, query, fragment) := tail false rest
      let path :=
        if front.head? == some '/' then pathText false front
        else String.ofList (percentEncode keepsInPlainPath front)
      return { scheme, path, query, fragment }

end Url

end HookFlow
