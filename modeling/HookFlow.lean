import HookFlow.Action.Metadata
import HookFlow.Action.Resolver
import HookFlow.Azure.BlobStore
import HookFlow.Azure.Client
import HookFlow.Azure.Sas
import HookFlow.Azure.Setup
import HookFlow.Command.Arguments
import HookFlow.Command.Basic
import HookFlow.Command.Run
import HookFlow.Command.Session
import HookFlow.Config.Basic
import HookFlow.Config.File
import HookFlow.Content.Basic
import HookFlow.Content.Github
import HookFlow.Content.Source
import HookFlow.Converter
import HookFlow.Decimal.Literal
import HookFlow.Decimal.Shortest
import HookFlow.Declaration
import HookFlow.Deployment.Batch
import HookFlow.Deployment.Cloud
import HookFlow.Deployment.Name
import HookFlow.Deployment.Template
import HookFlow.Failure
import HookFlow.Files.Disk
import HookFlow.Files.Path
import HookFlow.Files.System
import HookFlow.Files.Tree
import HookFlow.Flow
import HookFlow.Handler.Basic
import HookFlow.Handler.Filter
import HookFlow.Handler.Script
import HookFlow.Hash.Crc32
import HookFlow.Hash.Hmac
import HookFlow.Hash.Sha256
import HookFlow.Http.Basic
import HookFlow.Http.Status
import HookFlow.Http.Wire
import HookFlow.Instant
import HookFlow.Json.Basic
import HookFlow.Json.Parser
import HookFlow.Json.Printer
import HookFlow.Loader
import HookFlow.Log
import HookFlow.Log.Filter
import HookFlow.Log.Recorder
import HookFlow.Log.Settings
import HookFlow.Main
import HookFlow.Ordered
import HookFlow.Package.Archive
import HookFlow.Package.Zip
import HookFlow.Placeholder
import HookFlow.Program
import HookFlow.Reference
import HookFlow.Repository
import HookFlow.Supervisor
import HookFlow.Text.Base64
import HookFlow.Text.Blank
import HookFlow.Text.Capital
import HookFlow.Text.Hidden
import HookFlow.Text.Percent
import HookFlow.Text.Quoted
import HookFlow.Text.Shown
import HookFlow.Text.Utf8
import HookFlow.Toml.Basic
import HookFlow.Toml.Parser
import HookFlow.Toml.Record
import HookFlow.Toml.Scalar
import HookFlow.Trigger
import HookFlow.Url.Basic
import HookFlow.Url.Host
import HookFlow.Url.Punycode
import HookFlow.Workflow
import HookFlow.Yaml.Cursor
import HookFlow.Yaml.Event
import HookFlow.Yaml.Node
import HookFlow.Yaml.Read
import HookFlow.Yaml.Token
import HookFlow.Yaml.Token.Scalar
import HookFlow.Yaml.Token.Scan
import HookFlow.Yaml.Token.Tag
import HookFlow.Yaml.Value
import HookFlow.Proofs.Except
import HookFlow.Proofs.Distinct
import HookFlow.Proofs.Config
import HookFlow.Proofs.Converter
import HookFlow.Proofs.Wire
import HookFlow.Proofs.Azure.Surroundings
import HookFlow.Proofs.Azure.Upload
import HookFlow.Proofs.Dialogue
import HookFlow.Proofs.Action.Resolving
import HookFlow.Proofs.Surroundings
import HookFlow.Proofs.Deployment.Reports
import HookFlow.Proofs.Action.Cache
import HookFlow.Proofs.Cancellation
import HookFlow.Proofs.Deployment.Turns
import HookFlow.Proofs.Deployment.Cancellation
import HookFlow.Proofs.Deployment.Failures
import HookFlow.Proofs.Deployment.Isolation
import HookFlow.Proofs.Text.Utf8
import HookFlow.Proofs.Yaml.Record
import HookFlow.Proofs.Loader.Reference
import HookFlow.Proofs.Action.Resolution
import HookFlow.Proofs.Action.Failures
import HookFlow.Proofs.Action.Memory
import HookFlow.Proofs.Loader.Closure
import HookFlow.Proofs.Loader.Session
import HookFlow.Proofs.Loader.Cancellation
import HookFlow.Proofs.Loader.Decision
import HookFlow.Proofs.Ordered
import HookFlow.Proofs.Yaml.Collection
import HookFlow.Proofs.Json.Spelling
import HookFlow.Proofs.Flow
import HookFlow.Proofs.Workflow
import HookFlow.Proofs.Loader.Inputs
import HookFlow.Proofs.Loader.Names
import HookFlow.Proofs.Script.Lexer
import HookFlow.Proofs.Script.Literal
import HookFlow.Proofs.Script.Program
import HookFlow.Proofs.Script.Outline
import HookFlow.Proofs.Script.Run
import HookFlow.Proofs.Text.Order
import HookFlow.Proofs.Text.Split
import HookFlow.Proofs.Text.Percent
import HookFlow.Proofs.Url.Path
import HookFlow.Proofs.Url.Origin
import HookFlow.Proofs.Http.Pairs
import HookFlow.Proofs.Content.Address
import HookFlow.Proofs.Content.Requests
import HookFlow.Proofs.Files.Tree
import HookFlow.Proofs.Files.Walk
import HookFlow.Proofs.Package.Archive
import HookFlow.Proofs.Handler.Filter
import HookFlow.Proofs.Handler.Tokens
import HookFlow.Proofs.Handler.Outline
import HookFlow.Proofs.Handler.Skeleton
import HookFlow.Proofs.Handler.Bindings
import HookFlow.Proofs.Handler.Substitution
import HookFlow.Proofs.Handler.Modules
import HookFlow.Proofs.Handler.Environment
import HookFlow.Proofs.Azure.Settlement
import HookFlow.Proofs.Instant
import HookFlow.Proofs.Text.Base64
import HookFlow.Proofs.Azure.Grants
import HookFlow.Proofs.Files.System
import HookFlow.Proofs.Loader.Questions
import HookFlow.Proofs.Command.Surroundings
import HookFlow.Proofs.Command.Generate
import HookFlow.Proofs.Command.Scan
import HookFlow.Proofs.Declaration
import HookFlow.Proofs.Content.File
import HookFlow.Proofs.Url.Query
import HookFlow.Proofs.Azure.Delivery
import HookFlow.Proofs.Loader.Failures
import HookFlow.Proofs.Loader.Culprit
import HookFlow.Proofs.Text.Trim
import HookFlow.Proofs.Text.Ascii
import HookFlow.Proofs.Reference
import HookFlow.Proofs.Repository
import HookFlow.Proofs.Config.Environment
import HookFlow.Proofs.Command.Failures
import HookFlow.Proofs.Deployment.Name
import HookFlow.Proofs.Package.Reordering
