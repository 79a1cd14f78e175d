import HookFlow.Azure.Client
import HookFlow.Config.Basic
import HookFlow.Content.Github
/-!
Clients made from a configuration.

A client of the management interface needs a subscription and a token to show; without either there is
nothing to deploy with.
-/

namespace HookFlow.Azure.Client

/-- what a configuration lacks for a deployment -/
def lack? (c : Config.Azure) : Option String :=
  if Text.allBlank c.subscription then
    some "azure.subscription_id (or AZ_SUBSCRIPTION) is required to deploy"
  else if c.accessToken.isNone then
    some "azure.access_token (or AZURE_ACCESS_TOKEN) is required to deploy"
  else none

/-- the client of a configuration, where `sleep` waits some milliseconds -/
def ofConfig {m : Type → Type} [Monad m] (transport : Http.Transport m) (supervisor : Supervisor m)
    (sleep : UInt64 → m Unit) (c : Config.Azure) : m (Except Failure (Client m)) := do
  match lack? c with
  | some text => return .error (.validation text)
  | none =>
    let client : Client m := {
      transport, supervisor
      pause := sleep c.pollInterval
      managementUrl := Content.Github.withoutTrailingSlashes c.managementUrl
      subscription := c.subscription
      resourceGroup := c.resourceGroup
      accessToken := c.accessToken.getD "" }
    client.note "Initializing uploader"
      [("subscription_id", .bare c.subscription), ("rg_name", .bare c.resourceGroup)]
    return .ok client

end HookFlow.Azure.Client
