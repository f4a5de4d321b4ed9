import SafactoryServer.Effect.Run
import SafactoryServer.Net
import SafactoryServer.Job
import SafactoryServer.ControlStore
import SafactoryServer.Concurrency
import SafactoryServer.Binding
import SafactoryServer.RJob
import SafactoryServer.Specs
import SafactoryServer.Orchestrator
import SafactoryServer.World
import SafactoryServer.Script
import SafactoryServer.Protocol
import SafactoryServer.Calls
import SafactoryServer.Cleanup
import SafactoryServer.Turn
import SafactoryServer.Pass
import SafactoryServer.Lifecycle
import SafactoryServer.Success
import SafactoryServer.Gate
import SafactoryServer.Deadlines
import SafactoryServer.Isolation
import SafactoryServer.Ledger
import SafactoryServer.CleanupOrder
import SafactoryServer.Once
import SafactoryServer.LeftBehind
import SafactoryServer.Retry
import SafactoryServer.Polling
import SafactoryServer.Finality
import SafactoryServer.Scope
import SafactoryServer.Ownership
import SafactoryServer.Catalog
import SafactoryServer.Effect.Coupled
import SafactoryServer.Repository
import SafactoryServer.Backend
import SafactoryServer.Commands
import SafactoryServer.Results
import SafactoryServer.Redaction
import SafactoryServer.Secrets
import SafactoryServer.FileManager
import SafactoryServer.Storage
import SafactoryServer.Rendering
import SafactoryServer.Publish
import SafactoryServer.Auth
import SafactoryServer.BindingCodec
import SafactoryServer.Names
import SafactoryServer.Mounts
import SafactoryServer.Uri
import SafactoryServer.Route
import SafactoryServer.Published
import SafactoryServer.Filename
import SafactoryServer.Lines
import SafactoryServer.Dataset
import SafactoryServer.Chronology
import SafactoryServer.Effect.Log
import SafactoryServer.Waiting
import SafactoryServer.Regex
import SafactoryServer.Payload
import SafactoryServer.Addresses
import SafactoryServer.SdkObjects
import SafactoryServer.StatusLog
import SafactoryServer.JsonLoads
import SafactoryServer.JsonLoads.RoundTrip
import SafactoryServer.ToolCalls
import SafactoryServer.Rollout
import SafactoryServer.HarborResult
import SafactoryServer.Yaml
import SafactoryServer.Expansion
import SafactoryServer.CanonicalJson
import SafactoryServer.Initialization
import SafactoryServer.Startup
import SafactoryServer.EpisodeScripts
import SafactoryServer.Web.Percent
import SafactoryServer.FixedWidth
import SafactoryServer.Calendar
import SafactoryServer.Strings
import SafactoryServer.Timestamps
import SafactoryServer.PythonLiteral
import SafactoryServer.Quoting
import SafactoryServer.Effect.EventLoop
import SafactoryServer.Wakeup
import SafactoryServer.Effect.Monitor
import SafactoryServer.Audit
import SafactoryServer.Api
import SafactoryServer.Location
