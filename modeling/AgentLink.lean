import AgentLink.Text.Blank
import AgentLink.Text.Digit
import AgentLink.Text.Integer
import AgentLink.Text.Utf8
import AgentLink.Text.Ranges
import AgentLink.Text.Surrogate
import AgentLink.Text.Cased
import AgentLink.Text.Case
import AgentLink.Text.Combining
import AgentLink.Text.Punycode
import AgentLink.Idna.Class
import AgentLink.Idna.Host
import AgentLink.Idna.Label
import AgentLink.Idna.Joining
import AgentLink.Text.Lines
import AgentLink.Text.Real
import AgentLink.Text.Find
import AgentLink.Sse.Record
import AgentLink.Sse.Parser
import AgentLink.Decimal.Shortest
import AgentLink.Decimal.Layout
import AgentLink.Json.Value
import AgentLink.Json.Reader
import AgentLink.Json.Writer
import AgentLink.Text.Printable
import AgentLink.Text.Quote
import AgentLink.Json.Literal
import AgentLink.Decimal.Integral
import AgentLink.Resource.Decode
import AgentLink.Resource.Time
import AgentLink.Resource.Session
import AgentLink.Resource.Project
import AgentLink.Resource.Health
import AgentLink.Resource.Permission
import AgentLink.Resource.Part
import AgentLink.Resource.Message
import AgentLink.Resource.Snapshot
import AgentLink.Event.Basic
import AgentLink.Event.Decode
import AgentLink.Event.Snapshot
import AgentLink.ErrorKind
import AgentLink.Terminal.Color
import AgentLink.Terminal.Describe
import AgentLink.Terminal.Console
import AgentLink.Terminal.Table
import AgentLink.Text.Ascii
import AgentLink.Text.Base64
import AgentLink.Http.Method
import AgentLink.Http.Url
import AgentLink.Http.Header
import AgentLink.Http.Exchange
import AgentLink.Http.Script
import AgentLink.Http.Transport
import AgentLink.Http.Streams
import AgentLink.Http.Address
import AgentLink.Channel
import AgentLink.Client.Error
import AgentLink.Client.Basic
import AgentLink.Client.Api
import AgentLink.Client.Events
import AgentLink.Client.Lifecycle
import AgentLink.Client.Handle
import AgentLink.Config.Options
import AgentLink.Config.Ini
import AgentLink.Config.Dotenv
import AgentLink.Config.Load
import AgentLink.Supervisor.Options
import AgentLink.Supervisor.Readiness
import AgentLink.Supervisor.Machine
import AgentLink.Supervisor.Startup
import AgentLink.Supervisor.Server
import AgentLink.Supervisor.Fleet
import AgentLink.Client.Connect
import AgentLink.Cli.Args
import AgentLink.Cli.Run
import AgentLink.Main
import AgentLink.Proofs.Text.Integer
import AgentLink.Proofs.Text.Utf8
import AgentLink.Proofs.Text.Utf8Replace
import AgentLink.Proofs.Sse.Chunking
import AgentLink.Proofs.Sse.Lines
import AgentLink.Proofs.Sse.Wire
import AgentLink.Proofs.Channel
import AgentLink.Proofs.Resource.Numbers
import AgentLink.Proofs.Event.Outcome
import AgentLink.Proofs.Client.Subscription
import AgentLink.Proofs.Client.Streaming
import AgentLink.Proofs.Client.Parts
import AgentLink.Proofs.Client.Calls
import AgentLink.Proofs.Http.KeepAlive
import AgentLink.Proofs.Http.Stream
import AgentLink.Proofs.Http.Handlers
import AgentLink.Proofs.Http.Percent
import AgentLink.Proofs.Http.Refusals
import AgentLink.Proofs.Http.Call
import AgentLink.Proofs.Http.Streams
import AgentLink.Proofs.Supervisor.Machine
import AgentLink.Proofs.Supervisor.Startup
import AgentLink.Proofs.Supervisor.Start
import AgentLink.Proofs.Supervisor.Stops
import AgentLink.Proofs.Supervisor.Ownership
import AgentLink.Proofs.Supervisor.Readiness
import AgentLink.Proofs.Http.Origin
import AgentLink.Proofs.Config.Load
import AgentLink.Proofs.Config.Options
import AgentLink.Proofs.Text.CodePoints
import AgentLink.Proofs.Terminal.Describe
import AgentLink.Proofs.Supervisor.Fallback
import AgentLink.Proofs.Client.Segment
import AgentLink.Proofs.Client.Lifecycle
