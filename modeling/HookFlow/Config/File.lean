import HookFlow.Config.Basic
import HookFlow.Files.Path
import HookFlow.Files.Tree
import HookFlow.Toml.Parser
import HookFlow.Toml.Record
/-!
The configuration file.

The file is looked for in the working directory unless it is named. A file that is not there counts as
empty, but not if it was named.
-/

namespace HookFlow.Config

open Toml (Given withDefault optional asText? asTexts? asWord?)

/-- the settings of a code host in a file -/
def Github.ofToml? (v : Toml) : Option Github := do
  let d : Github := {}
  match ← v.record? ["api_url", "token", "workflows_path", "metadata_file"] with
  | [apiUrl, token, workflowsPath, metadataFile] =>
    return {
      apiUrl := ← withDefault d.apiUrl asText? apiUrl
      token := ← optional asText? token
      workflowsPath := ← withDefault d.workflowsPath asText? workflowsPath
      metadataFile := ← withDefault d.metadataFile asText? metadataFile }
  | _ => none

/-- the settings of handlers in a file -/
def Codegen.ofToml? (v : Toml) : Option Codegen := do
  let d : Codegen := {}
  match ← v.record? ["webhook_secret", "ignored_actors", "event_path", "secret_placeholder"] with
  | [secret, actors, eventPath, placeholder] =>
    return {
      webhookSecret := ← withDefault d.webhookSecret asText? secret
      options := {
        ignoredActors := ← withDefault d.options.ignoredActors asTexts? actors
        eventPath := ← withDefault d.options.eventPath asText? eventPath
        placeholder := ← withDefault d.options.placeholder asText? placeholder } }
  | _ => none

/-- the settings of deployments in a file -/
def Azure.ofToml? (v : Toml) : Option Azure := do
  let d : Azure := {}
  match ← v.record? ["subscription_id", "resource_group", "access_token", "management_url",
      "container", "sas_expiry_hours", "poll_interval_ms"] with
  | [subscription, group, token, url, container, hours, interval] =>
    return {
      subscription := ← withDefault d.subscription asText? subscription
      resourceGroup := ← withDefault d.resourceGroup asText? group
      accessToken := ← optional asText? token
      managementUrl := ← withDefault d.managementUrl asText? url
      container := ← withDefault d.container asText? container
      sasExpiryHours := ← withDefault d.sasExpiryHours asWord? hours
      pollInterval := ← withDefault d.pollInterval asWord? interval }
  | _ => none

/-- the settings of archives in a file -/
def Package.ofToml? (v : Toml) : Option Package := do
  let d : Package := {}
  match ← v.record? ["runtime_dir", "function_name"] with
  | [runtimeDir, functionName] =>
    return {
      runtimeDir := ← withDefault d.runtimeDir asText? runtimeDir
      functionName := ← withDefault d.functionName asText? functionName }
  | _ => none

/-- the configuration that the entries of a file write -/
def ofEntries? (entries : Toml.Entries) : Option Config := do
  match ← (Toml.table .header entries).record? ["github", "codegen", "azure", "package"] with
  | [github, codegen, azure, package] =>
    return {
      github := ← withDefault {} Github.ofToml? github
      codegen := ← withDefault {} Codegen.ofToml? codegen
      azure := ← withDefault {} Azure.ofToml? azure
      package := ← withDefault {} Package.ofToml? package }
  | _ => none

/-- the configuration that a text writes -/
def parse? (text : String) : Option Config := (Toml.parse? text).bind ofEntries?

/-- the name of the file in the working directory -/
def fileName : String := "fsb.toml"

/-- the path of the file -/
def filePath (workspace : String) (explicit : Option String) : String :=
  explicit.getD (Path.join workspace fileName)

/-- what reading the file at `path` gives: no configuration if there is no file -/
def ofFile (path : String) (content : Except OsFault Text.Bytes) :
    Except Failure (Option Config) :=
  let unreadable (fault : OsFault) : Failure :=
    { category := .io, message := s!"Failed to read config file {path}: {fault.message}" }
  match content with
  | .error .notFound | .error .notDirectory => .ok none
  | .error fault => .error (unreadable fault)
  | .ok bytes =>
    match Text.decode bytes with
    | .error _ => .error (unreadable .notText)
    | .ok text =>
      match parse? text with
      | some c => .ok (some c)
      | none => .error (.validation s!"Failed to parse config file {path}: malformed text")

/-- the configuration of a run: the file, then the environment, then the checks; `content` is what
reading the file gives -/
def load (env : Environment) (workspace : String) (explicit : Option String)
    (content : Except OsFault Text.Bytes) : Except Failure Config := do
  let path := filePath workspace explicit
  let given ← ofFile path content
  if given.isNone && explicit.isSome then
    throw (.validation s!"config file {path} does not exist")
  let c := override env (given.getD {})
  c.validate
  return c

end HookFlow.Config
