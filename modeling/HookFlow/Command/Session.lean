import HookFlow.Azure.BlobStore
import HookFlow.Azure.Setup
import HookFlow.Content.Github
import HookFlow.Converter
import HookFlow.Deployment.Batch
import HookFlow.Files.Disk
/-!
Sessions: what a command works with.

A session has everything around a run that is not the program itself: environment and files, the network,
somebody who may cancel, and the clock. Everything else that a command needs is made from the session and
the configuration.
-/

namespace HookFlow

/-- what a command works with -/
structure Session (m : Type → Type) where
  environment : Config.Environment
  /-- the path of the current directory -/
  workspace : String
  disk : Disk m
  transport : Http.Transport m
  supervisor : Supervisor m
  /-- writes to the standard output -/
  print : String → m Unit
  /-- waits some milliseconds -/
  sleep : UInt64 → m Unit
  /-- tells the time -/
  now : m Instant

/-- why a command ends badly -/
inductive Command.Fault where
  | failure (f : Failure)
  | outputDirectory (path : String) (fault : OsFault)
  | output (path : String) (fault : OsFault)
  | undeployed (failed total : Nat)
  /-- the links to blobs would expire at a time that cannot be expressed -/
  | endlessLink
  deriving DecidableEq, Repr

namespace Command.Fault

/-- the wording of a fault without what lies underneath -/
def headline : Fault → String
  | .failure f => f.text
  | .outputDirectory path _ => s!"failed to create output directory {path}"
  | .output path _ => s!"failed to write {path}"
  | .undeployed failed total => s!"{failed} of {total} workflows failed to deploy"
  | .endlessLink => "links to blobs would never expire"

/-- the wording of a fault -/
def text (f : Fault) : String :=
  match f with
  | .outputDirectory _ fault | .output _ fault => s!"{f.headline}: {fault.message}"
  | _ => f.headline

end Command.Fault

namespace Session

variable {m : Type → Type} [Monad m] (s : Session m)

/-- the loader of a configuration -/
def loader (c : Config) : Except Failure (Loader m) := do
  let host ← Content.Github.create s.transport s.supervisor c.github.apiUrl c.github.token
  return { source := host.source, supervisor := s.supervisor, settings := c.loaderSettings }

/-- the flows of a repository -/
def flows (c : Config) (repo : Repository) : m (Except Failure (List Flow)) :=
  match s.loader c with
  | .error f => return .error f
  | .ok l => do
    let (result, _) ← ((l.load repo).run).run []
    return result

/-- the runtime in a directory as it is now; only what archives need is looked at -/
def runtime (path : String) : m Runtime := do
  let names := Packager.runtimeFiles ++ [Packager.modulesName]
  let found ← names.mapM fun name => do return (name, ← s.disk.look (Path.join path name))
  return { path, entry := fun name => (found.lookup name).getD (.error .notFound) }

/-- the converter of a configuration, with the runtime as it is now -/
def converter (c : Config) : m (Except Failure Converter) := do
  return Converter.ofConfig c (← s.runtime c.package.runtimeDir)

/-- a supervisor for runs that can also end with a fault -/
def supervisorOver : Supervisor (ExceptT Command.Fault m) where
  cancelled := ExceptT.lift s.supervisor.cancelled
  log e := ExceptT.lift (s.supervisor.log e)

/-- blobs and deployments; a link that would never expire ends the run -/
def cloud (client : Azure.Client m) (lifetime : Int) : Cloud (ExceptT Command.Fault m) where
  store c blob archive contentType := ExceptT.mk do
    let store : Azure.BlobStore m := { client, now := s.now, lifetime }
    match ← store.upload c blob archive.toZip contentType with
    | .ok url => return .ok (.answered (.ok url))
    | .error (.failure f) => return .ok (.answered (.error f))
    | .error .overflow => return .error .endlessLink
  deploy name template parameters := ExceptT.mk do
    return .ok (.answered (← client.deploy name template parameters))
  now := ExceptT.lift s.now

/-- the batch of a configuration -/
def batch (c : Config) (converter : Converter) :
    m (Except Command.Fault (Batch (ExceptT Command.Fault m))) := do
  match ← Azure.Client.ofConfig s.transport s.supervisor s.sleep c.azure with
  | .error f => return .error (.failure f)
  | .ok client =>
    match Azure.lifetime? c.azure.sasExpiryHours with
    | none => return .error .endlessLink
    | some lifetime =>
      return .ok {
        converter
        deployer := {
          cloud := s.cloud client lifetime
          supervisor := s.supervisorOver
          container := c.azure.container } }

end Session

end HookFlow
