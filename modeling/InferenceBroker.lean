import InferenceBroker.Bench.Document
import InferenceBroker.Bench.Remote
import InferenceBroker.Bench.Scrub
import InferenceBroker.Bench.Shell
import InferenceBroker.Bench.Transport
import InferenceBroker.Cli.Command
import InferenceBroker.Cli.Flag
import InferenceBroker.Cli.Infer
import InferenceBroker.Cli.Layers
import InferenceBroker.Cli.Perf
import InferenceBroker.Cli.Plugins
import InferenceBroker.Cli.Process
import InferenceBroker.Cli.Program
import InferenceBroker.Cli.Serve
import InferenceBroker.Cli.Table
import InferenceBroker.Config.Dotenv
import InferenceBroker.Config.Journal
import InferenceBroker.Config.LogLevel
import InferenceBroker.Config.Settings
import InferenceBroker.Config.Toml.Decode
import InferenceBroker.Config.Toml.Seen
import InferenceBroker.Config.Toml.Syntax
import InferenceBroker.Config.Value
import InferenceBroker.Config.Yaml.Compose
import InferenceBroker.Config.Yaml.Decode
import InferenceBroker.Config.Yaml.Parser
import InferenceBroker.Config.Yaml.Resolve
import InferenceBroker.Config.Yaml.Scanner
import InferenceBroker.Core.Bytes
import InferenceBroker.Core.Code
import InferenceBroker.Core.Event
import InferenceBroker.Core.Exchange
import InferenceBroker.Core.Failure
import InferenceBroker.Core.Key
import InferenceBroker.Dispatch.Basic
import InferenceBroker.Dispatch.Manager
import InferenceBroker.Dispatch.Requests
import InferenceBroker.Dispatch.Worker
import InferenceBroker.Engine.Basic
import InferenceBroker.Engine.Counters
import InferenceBroker.Engine.Notifier
import InferenceBroker.Engine.State
import InferenceBroker.Engine.Teardown
import InferenceBroker.Future.Status
import InferenceBroker.Future.Table
import InferenceBroker.Host.Directory
import InferenceBroker.Json.Parse
import InferenceBroker.Json.Value
import InferenceBroker.Main
import InferenceBroker.Message.Basic
import InferenceBroker.Message.Binary
import InferenceBroker.Message.Format
import InferenceBroker.Message.Gob
import InferenceBroker.Message.GobDecode
import InferenceBroker.Message.Json
import InferenceBroker.Plugin.Basic
import InferenceBroker.Plugin.Call
import InferenceBroker.Plugin.Descriptor
import InferenceBroker.Plugin.Echo
import InferenceBroker.Plugin.Loader
import InferenceBroker.Plugin.Module
import InferenceBroker.Pool.Basic
import InferenceBroker.Pool.Queues
import InferenceBroker.Pool.Thread
import InferenceBroker.Queue.Bounded
import InferenceBroker.Queue.Channel
import InferenceBroker.Queue.Outbox
import InferenceBroker.Remote.Client
import InferenceBroker.Remote.Stats
import InferenceBroker.Server.Broker
import InferenceBroker.Server.Serve
import InferenceBroker.Text.Base64
import InferenceBroker.Text.Columns
import InferenceBroker.Text.Csv
import InferenceBroker.Text.Decimal
import InferenceBroker.Text.Duration
import InferenceBroker.Text.Fold
import InferenceBroker.Text.Numeral
import InferenceBroker.Text.Printable
import InferenceBroker.Text.Quote
import InferenceBroker.Text.Timestamp
import InferenceBroker.Text.Utf8
import InferenceBroker.Text.Wrap
import InferenceBroker.Transport.Address
import InferenceBroker.Transport.Client
import InferenceBroker.Transport.Frame
import InferenceBroker.Transport.Link
import InferenceBroker.Transport.Network
import InferenceBroker.Transport.Reflector
import InferenceBroker.Transport.Script
import InferenceBroker.Transport.Server
import InferenceBroker.Wasm.Code
import InferenceBroker.Wasm.Decode
import InferenceBroker.Wasm.Float
import InferenceBroker.Wasm.Host
import InferenceBroker.Wasm.Instance
import InferenceBroker.Wasm.Lanes
import InferenceBroker.Wasm.Machine
import InferenceBroker.Wasm.Mnemonic
import InferenceBroker.Wasm.Numeric
import InferenceBroker.Wasm.Reader
import InferenceBroker.Wasm.Store
import InferenceBroker.Wasm.Syntax
import InferenceBroker.Wasm.Typing
import InferenceBroker.Wasm.Validate
import InferenceBroker.Wasm.Vector
import InferenceBroker.Proofs.Dispatch.Run
import InferenceBroker.Proofs.Dispatch.Workers
import InferenceBroker.Proofs.Dispatch.Lifecycle
import InferenceBroker.Proofs.Dispatch.Invariant
import InferenceBroker.Proofs.Dispatch.Consistency
import InferenceBroker.Proofs.Dispatch.Reachable
import InferenceBroker.Proofs.Dispatch.Atomicity
import InferenceBroker.Proofs.Dispatch.Protocol
import InferenceBroker.Proofs.Future.Sequence
import InferenceBroker.Proofs.Dispatch.Ledger
import InferenceBroker.Proofs.Dispatch.Balance
import InferenceBroker.Proofs.Dispatch.Bookkeeping
import InferenceBroker.Proofs.Dispatch.Accounting
import InferenceBroker.Proofs.Dispatch.Queues
import InferenceBroker.Proofs.Dispatch.Futures
import InferenceBroker.Proofs.Dispatch.Direct
import InferenceBroker.Proofs.Dispatch.Completion
import InferenceBroker.Proofs.Dispatch.Bindings
import InferenceBroker.Proofs.Dispatch.Routing
import InferenceBroker.Proofs.Remote.Replies
import InferenceBroker.Proofs.Message.RoundTrip
import InferenceBroker.Proofs.Message.Failures
import InferenceBroker.Proofs.Server.Disconnect
import InferenceBroker.Proofs.Transport.Exchange
import InferenceBroker.Proofs.Server.Service
import InferenceBroker.Proofs.Remote.Refinement
import InferenceBroker.Proofs.Future.Allocation
import InferenceBroker.Proofs.Transport.Framing
import InferenceBroker.Proofs.Transport.Correlation
import InferenceBroker.Proofs.Transport.Records
import InferenceBroker.Proofs.Transport.Serving
import InferenceBroker.Proofs.Transport.Settling
import InferenceBroker.Proofs.Transport.Closing
import InferenceBroker.Proofs.Transport.Connections
import InferenceBroker.Proofs.Pool.Lending
import InferenceBroker.Proofs.Future.Delivery
import InferenceBroker.Proofs.Message.Grammar
import InferenceBroker.Proofs.Plugin.Handles
import InferenceBroker.Proofs.Server.Answers
import InferenceBroker.Proofs.Dispatch.Closing
import InferenceBroker.Proofs.Dispatch.Statistics
import InferenceBroker.Proofs.Outbox.Invariant
import InferenceBroker.Proofs.Outbox.Progress
import InferenceBroker.Proofs.Outbox.Delivery
import InferenceBroker.Proofs.Core.KeyOrder
import InferenceBroker.Proofs.Dispatch.Listings
import InferenceBroker.Proofs.Text.Wrapping
import InferenceBroker.Proofs.Pool.Threads
import InferenceBroker.Proofs.Pool.Queues
import InferenceBroker.Proofs.Dispatch.Stock
import InferenceBroker.Proofs.Dispatch.Recycling
import InferenceBroker.Proofs.Engine.Teardown
