import Testbed.Bytes
import Testbed.Text.Utf8
import Testbed.Text.Blank
import Testbed.Json.Printer
import Testbed.Json.Reader
import Testbed.Program
import Testbed.Journal
import Testbed.Argument.Access
import Testbed.Protocol.Request
import Testbed.Protocol.Reply
import Testbed.Method.Collections
import Testbed.Connection.Serve
import Testbed.Service.Supervisor
import Testbed.Endpoint.Basic
import Testbed.Config.Text
import Testbed.Config.Toml
import Testbed.Listener.Basic
import Testbed.Host.Machine
import Testbed.Connection.Peer
import Testbed.Method.Services
import Testbed.Config.Environment
import Testbed.Config.Flags
import Testbed.Config.Layer
import Testbed.Config.Load
import Testbed.Log.Filter
import Testbed.Log.Line
import Testbed.Daemon.Error
import Testbed.Daemon.Transcript
import Testbed.Daemon.Basic
import Testbed.Daemon.Run
import Testbed.Host.Bench
import Testbed.Daemon.Command
import Testbed.Host.Gate
import Testbed.Host.Run
import Testbed.Log.Mask
import Testbed.Main
import Testbed.Proofs.Entries
import Testbed.Proofs.Program
import Testbed.Proofs.Handle
import Testbed.Proofs.Registry.History
import Testbed.Proofs.Argument.Check
import Testbed.Proofs.Argument.Resolve
import Testbed.Proofs.Dispatcher.History
import Testbed.Proofs.Argument.Read
import Testbed.Proofs.Collection.Represents
import Testbed.Proofs.Collection.Arguments
import Testbed.Proofs.Collection.Handlers
import Testbed.Proofs.Method.Refusal
import Testbed.Proofs.Collection.Refinement
import Testbed.Proofs.Service.Refusal
import Testbed.Proofs.Method.Services
import Testbed.Proofs.Daemon.Refusal
import Testbed.Proofs.Connection.Framing
import Testbed.Proofs.Connection.Line
import Testbed.Proofs.Connection.Serve
import Testbed.Proofs.Argument.Image
import Testbed.Proofs.Argument.Priority
import Testbed.Proofs.Argument.Rendering
import Testbed.Proofs.Registry.Account
import Testbed.Proofs.Argument.Mention
import Testbed.Proofs.Service.Transcript
import Testbed.Proofs.Service.Process
import Testbed.Proofs.Service.Course
import Testbed.Proofs.Service.Account
import Testbed.Proofs.Service.History
import Testbed.Proofs.Service.Supervision
import Testbed.Proofs.Service.Consistency
import Testbed.Proofs.Bytes
import Testbed.Proofs.Method.Installation
import Testbed.Proofs.Dispatcher.Watch
import Testbed.Proofs.Service.Change
import Testbed.Proofs.Service.Episodes
import Testbed.Proofs.Service.Readiness
import Testbed.Proofs.Service.Timing
import Testbed.Proofs.Service.Escalation
import Testbed.Proofs.Service.Signals
import Testbed.Proofs.Service.FailedStart
import Testbed.Proofs.Service.Shutdown
import Testbed.Proofs.Connection.Padding
import Testbed.Proofs.Json.Lexemes
import Testbed.Proofs.Json.Reading
import Testbed.Proofs.Protocol.Line
import Testbed.Proofs.Service.Telling
import Testbed.Proofs.Connection.Invariant
import Testbed.Proofs.Daemon.Open
import Testbed.Proofs.Daemon.Serving
import Testbed.Proofs.Daemon.Shutdown
import Testbed.Proofs.Decimal.Finite
import Testbed.Proofs.Json.Nesting
import Testbed.Proofs.Argument.Nesting
import Testbed.Proofs.Collection.Nesting
import Testbed.Proofs.Daemon.Nesting
import Testbed.Proofs.Decimal.Rounding
import Testbed.Proofs.Decimal.Shortest
import Testbed.Proofs.Argument.Declared
import Testbed.Proofs.Collection.Installed
import Testbed.Proofs.Collection.Calls
import Testbed.Proofs.Collection.Failure
import Testbed.Proofs.Collection.Keys
import Testbed.Proofs.Collection.Canonical
import Testbed.Proofs.Collection.Copy
import Testbed.Proofs.Json.Numeral
import Testbed.Proofs.Json.Quoted
import Testbed.Proofs.Json.Grammar
import Testbed.Proofs.Json.Repeated
import Testbed.Proofs.Protocol.Request
import Testbed.Proofs.Method.Replacement
import Testbed.Proofs.Service.Activity
import Testbed.Proofs.Config.Settings
import Testbed.Proofs.Config.Decoding
import Testbed.Proofs.Net.Ipv6
import Testbed.Proofs.Endpoint.Encoding
import Testbed.Proofs.Endpoint.Host
import Testbed.Proofs.Endpoint.Path
import Testbed.Proofs.Endpoint.RoundTrip
