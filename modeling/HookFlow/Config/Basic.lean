import HookFlow.Handler.Basic
import HookFlow.Loader
import HookFlow.Url.Basic
/-!
The configuration of the program.

Every setting has a default. Settings can be given in a file, and eight of them also in the environment,
which wins over the file. What comes out is checked as a whole before anything runs.
-/

namespace HookFlow

/-- where workflows and actions are read from -/
structure Config.Github where
  apiUrl : String := "https://api.github.com"
  /-- reads repositories, and stands in for the placeholder in inputs -/
  token : Option String := none
  workflowsPath : String := ".github/workflows"
  metadataFile : String := "action.yml"
  deriving DecidableEq, Repr

/-- how handlers are generated -/
structure Config.Codegen where
  /-- the secret that deliveries are signed with -/
  webhookSecret : String := ""
  options : Handler.Options := {}
  deriving DecidableEq, Repr

/-- where functions are deployed to -/
structure Config.Azure where
  subscription : String := ""
  resourceGroup : String := "funcsoulbrother"
  accessToken : Option String := none
  managementUrl : String := "https://management.azure.com"
  container : String := "azureappservice-run-from-package"
  sasExpiryHours : UInt64 := 48
  /-- milliseconds between two questions about a deployment -/
  pollInterval : UInt64 := 1000
  deriving DecidableEq, Repr

/-- how archives are made -/
structure Config.Package where
  runtimeDir : String := "."
  functionName : String := "FuncSoulBrother"
  deriving DecidableEq, Repr

/-- the configuration -/
structure Config where
  github : Config.Github := {}
  codegen : Config.Codegen := {}
  azure : Config.Azure := {}
  package : Config.Package := {}
  deriving DecidableEq, Repr

namespace Config

/-- what the loader takes from a configuration -/
def loaderSettings (c : Config) : Loader.Settings where
  workflowsPath := c.github.workflowsPath
  metadataFile := c.github.metadataFile
  placeholder := c.codegen.options.placeholder

/-! ## The environment -/

/-- variables with their values -/
abbrev Environment := List (String × String)

/-- the value of a variable, unless it is blank -/
def given? (env : Environment) (name : String) : Option String :=
  (env.lookup name).filter fun v => !Text.allBlank v

/-- the names in a list with commas between them; blank ones do not count -/
def actorsOf (list : String) : List String :=
  ((Text.splitChars ',' list.toList).map fun cs => String.ofList (Text.trimChars cs)).filter
    fun a => !a.isEmpty

/-- the settings of a code host with what the environment gives -/
def Github.override (env : Environment) (g : Github) : Github :=
  { g with
    token := (given? env "GITHUB_TOKEN").or g.token
    apiUrl := (given? env "FSB_GITHUB_API_URL").getD g.apiUrl }

/-- the settings of handlers with what the environment gives; the list of actors counts even if it is
blank -/
def Codegen.override (env : Environment) (c : Codegen) : Codegen :=
  { webhookSecret := (given? env "FSB_WEBHOOK_SECRET").getD c.webhookSecret
    options := { c.options with
      ignoredActors := ((env.lookup "FSB_IGNORED_ACTORS").map actorsOf).getD
        c.options.ignoredActors } }

/-- the settings of deployments with what the environment gives -/
def Azure.override (env : Environment) (a : Azure) : Azure :=
  { a with
    subscription := (given? env "AZ_SUBSCRIPTION").getD a.subscription
    resourceGroup := (given? env "AZ_RESOURCE_GROUP").getD a.resourceGroup
    accessToken := (given? env "AZURE_ACCESS_TOKEN").or a.accessToken }

/-- the settings of archives with what the environment gives -/
def Package.override (env : Environment) (p : Package) : Package :=
  { p with runtimeDir := (given? env "FSB_RUNTIME_DIR").getD p.runtimeDir }

/-- a configuration with what the environment gives -/
def override (env : Environment) (c : Config) : Config where
  github := c.github.override env
  codegen := c.codegen.override env
  azure := c.azure.override env
  package := c.package.override env

/-- what the variables are for -/
def environmentNotes : List String := [
  "GITHUB_TOKEN - Token for repository reads, substituted for $\x7b\x7b secrets.GITHUB_TOKEN \x7d\x7d",
  "FSB_GITHUB_API_URL - Override the GitHub API base URL (default: https://api.github.com)",
  "FSB_WEBHOOK_SECRET - Shared secret checked against x-hub-signature",
  "FSB_IGNORED_ACTORS - Comma separated actors whose events are ignored",
  "AZ_SUBSCRIPTION - Azure subscription to deploy into",
  "AZ_RESOURCE_GROUP - Azure resource group (default: funcsoulbrother)",
  "AZURE_ACCESS_TOKEN - Bearer token for the Azure management API",
  "FSB_RUNTIME_DIR - Directory with host.json, package.json and node_modules"]

/-! ## Checks -/

/-- the first fault of a configuration -/
def fault? (c : Config) : Option String :=
  if Text.allBlank c.github.workflowsPath then some "github.workflows_path cannot be empty"
  else if Text.allBlank c.github.metadataFile then some "github.metadata_file cannot be empty"
  else if (Url.parse? c.github.apiUrl).isNone then
    some s!"github.api_url is not a valid URL: {c.github.apiUrl}"
  else if !Text.contains c.codegen.options.placeholder Placeholder.marker then
    some "codegen.secret_placeholder must be an interpolation expression"
  else if c.azure.sasExpiryHours == 0 then some "azure.sas_expiry_hours must be >= 1"
  else if Text.allBlank c.package.functionName then some "package.function_name cannot be empty"
  else none

/-- refuses a configuration with a fault -/
def validate (c : Config) : Except Failure Unit :=
  match fault? c with
  | some text => .error (.validation text)
  | none => .ok ()

end Config

end HookFlow
