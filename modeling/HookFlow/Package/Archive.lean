import HookFlow.Files.Path
import HookFlow.Files.Tree
import HookFlow.Flow
import HookFlow.Failure
/-!
Archives: the packages that the function host runs from.

An archive holds the bindings and the handler in the directory of the function, three files of the
runtime, all files of its modules in ascending order of their paths, the source of every step once, and
an empty set of proxies. No name may come twice.
-/

namespace HookFlow

open Text (Bytes)

/-- named files in order; the names are slash-separated paths -/
structure Archive where
  entries : List (String × Bytes)
  deriving DecidableEq, Repr

/-- where the files of the runtime lie, and what is there -/
structure Runtime where
  /-- the path of the directory, as it is shown -/
  path : String
  /-- what a name right in the directory leads to -/
  entry (name : String) : Except OsFault FileTree

/-- the runtime in a directory, given what its path leads to -/
def Runtime.ofTree (path : String) (content : Except OsFault FileTree) : Runtime where
  path
  entry name := do (← content).child name

/-- how archives are made -/
structure Packager where
  runtime : Runtime
  functionName : String := "FuncSoulBrother"

namespace Packager

/-- the files of the runtime that every archive needs -/
def runtimeFiles : List String := ["host.json", "package.json", "package-lock.json"]

/-- the directory of the runtime's modules -/
def modulesName : String := "node_modules"

/-- the bindings of a function: a delivery comes in, a response goes out -/
def bindings : String := "\x7b
  \"bindings\": [
    \x7b
      \"authLevel\": \"anonymous\",
      \"type\": \"httpTrigger\",
      \"direction\": \"in\",
      \"name\": \"req\",
      \"methods\": [
        \"get\",
        \"post\"
      ]
    \x7d,
    \x7b
      \"type\": \"http\",
      \"direction\": \"out\",
      \"name\": \"res\"
    \x7d
  ]
\x7d"

/-- an empty set of proxies -/
def proxies : String := "\x7b
  \"$schema\": \"http://json.schemastore.org/proxies\",
  \"proxies\": \x7b\x7d
\x7d"

/-- what the host leaves out -/
def ignored : String := "*.js.map
*.ts
.git*
.vscode
local.settings.json
test
tsconfig.json"

/-- the path of a file as an archive names it -/
def entryName (path : List String) : String := "/".intercalate path

/-- a file of the runtime that cannot be read -/
def unreadable (path : String) (fault : OsFault) : Failure :=
  { category := .packaging, code := .fixed "FSB-PACKAGE-003",
    message := s!"reading {path}: {fault.message}", cause := some fault.message }

/-- a name that comes twice -/
def repeatedName : Failure :=
  { category := .packaging, code := .fixed "FSB-PACKAGE-002",
    message := "writing archive: repeated name", cause := some "repeated name" }

end Packager

namespace Runtime

/-- the bytes of a file right in the directory -/
def read (r : Runtime) (name : String) : Except OsFault Bytes := do
  (← r.entry name).bytes

/-- the files of the modules directory, in ascending order of their paths from the runtime; none if
there is no such directory -/
def modules (r : Runtime) : List (List String × Bytes) :=
  match r.entry Packager.modulesName with
  | .ok t => if t.isDirectory then t.files [Packager.modulesName] else []
  | .error _ => []

end Runtime

namespace Archive

/-- the archive with one more entry; a name that is taken is a failure -/
def add (a : Archive) (name : String) (bytes : Bytes) : Except Failure Archive :=
  if a.entries.any (·.1 == name) then .error Packager.repeatedName
  else .ok ⟨a.entries ++ [(name, bytes)]⟩

/-- the archive with some more entries, in order -/
def addAll (a : Archive) : List (String × Bytes) → Except Failure Archive
  | [] => .ok a
  | e :: rest => do
    let a ← a.add e.1 e.2
    a.addAll rest

end Archive

namespace Packager

/-- the sources of some steps by the names of their modules; steps with the same module count once,
and `seen` names the modules that are there already -/
def stepModules (seen : List String) : List Step → List (String × Bytes)
  | [] => []
  | s :: rest =>
    if seen.contains s.filename then stepModules seen rest
    else (s.filename, Text.encode s.source) :: stepModules (s.filename :: seen) rest

/-- the bindings and the handler of a function, and the list of what the host leaves out -/
def leadEntries (p : Packager) (handler : String) : List (String × Bytes) := [
  (p.functionName ++ "/function.json", Text.encode bindings),
  (p.functionName ++ "/index.js", Text.encode handler),
  (".funcignore", Text.encode ignored)]

/-- the archive with the files of the runtime that every archive needs; each is read right before it
is added -/
def addRuntimeFiles (p : Packager) (a : Archive) : List String → Except Failure Archive
  | [] => .ok a
  | name :: rest => do
    let bytes ← (p.runtime.read name).mapError (unreadable (Path.join p.runtime.path name))
    let a ← a.add name bytes
    p.addRuntimeFiles a rest

/-- the archive of a flow with its handler -/
def package (p : Packager) (handler : String) (flow : Flow) : Except Failure Archive := do
  let a ← (Archive.mk []).addAll (p.leadEntries handler)
  let a ← p.addRuntimeFiles a runtimeFiles
  let a ← a.addAll (p.runtime.modules.map fun f => (entryName f.1, f.2))
  let a ← a.addAll (stepModules [] flow.steps)
  a.add "proxies.json" (Text.encode proxies)

end Packager

end HookFlow
