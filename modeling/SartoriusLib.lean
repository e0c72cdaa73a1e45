import SartoriusLib.Lib.Program
import SartoriusLib.Lib.Run
import SartoriusLib.Lib.Dict
import SartoriusLib.Errors
import SartoriusLib.Devices.Models
import SartoriusLib.Text
import SartoriusLib.Protocol.Xbpi.Framing
import SartoriusLib.Protocol.Xbpi.Tlv
import SartoriusLib.Protocol.Xbpi.Parser
import SartoriusLib.Lib.Regex
import SartoriusLib.Numbers
import SartoriusLib.Protocol.Sbi.Tables
import SartoriusLib.Protocol.Sbi.Framing
import SartoriusLib.Protocol.Sbi.Parser
import SartoriusLib.Protocol.Sbi.Lines
import SartoriusLib.Protocol.Sbi.Midline
import SartoriusLib.Sinks.Schema
import SartoriusLib.Sinks.LockedTypes
import SartoriusLib.Transport.Base
import SartoriusLib.Transport.Serial
import SartoriusLib.Protocol.Xbpi.Client
import SartoriusLib.Protocol.Xbpi.Pairing
import SartoriusLib.Protocol.Detect
import SartoriusLib.Protocol.Sbi.Client
import SartoriusLib.Commands.Base
import SartoriusLib.Commands.Specs
import SartoriusLib.Devices.Session
import SartoriusLib.Devices.Balance
import SartoriusLib.Devices.Frame
import SartoriusLib.Devices.Gates
import SartoriusLib.Devices.Confirm
import SartoriusLib.Devices.Dispatch
import SartoriusLib.Devices.Switching
import SartoriusLib.Devices.Availability
import SartoriusLib.Protocol.Xbpi.Codec
import SartoriusLib.Transport.Reads
import SartoriusLib.Protocol.Xbpi.Stream
import SartoriusLib.Transport.Fake
import SartoriusLib.Protocol.Sbi.Lockstep
import SartoriusLib.Lib.Fifo
import SartoriusLib.Protocol.Sbi.Records
import SartoriusLib.Devices.Delivery
import SartoriusLib.Devices.Cache
import SartoriusLib.Devices.Rollback
import SartoriusLib.Lib.Resumption
import SartoriusLib.Streaming.StreamSession
import SartoriusLib.Devices.Callers
import SartoriusLib.Devices.Interleaving
import SartoriusLib.Devices.Broken
import SartoriusLib.Transport.Traced
import SartoriusLib.Protocol.Xbpi.Drain
import SartoriusLib.Protocol.Passive
import SartoriusLib.Devices.Invalidation
import SartoriusLib.Devices.Identity
import SartoriusLib.Streaming.Sample
import SartoriusLib.Streaming.Recorder
import SartoriusLib.Streaming.Accounting
import SartoriusLib.Sinks.Pipe
import SartoriusLib.Sinks.Backend
import SartoriusLib.Sinks.Refusal
import SartoriusLib.Sinks.Sqlite
import SartoriusLib.Sinks.Drivers
import SartoriusLib.Manager.Registry
import SartoriusLib.Manager.Opening
import SartoriusLib.Manager.Outcomes
import SartoriusLib.Manager.Bookkeeping
import SartoriusLib.Manager.Reconfiguring
import SartoriusLib.Manager.SharedClients
import SartoriusLib.Manager.Framing
import SartoriusLib.Manager.Dispatch
import SartoriusLib.Streaming.Cadence
import SartoriusLib.Lib.Join
import SartoriusLib.Sinks.Inference
import SartoriusLib.Sinks.Atomicity
import SartoriusLib.Sinks.Lifecycle
import SartoriusLib.Sinks.Agreement
import SartoriusLib.Streaming.Stream
import SartoriusLib.Streaming.Timestamps
import SartoriusLib.Streaming.Reentry
import SartoriusLib.Streaming.Finalising
import SartoriusLib.Manager.Requests
import SartoriusLib.Transport.Interrupted
import SartoriusLib.Protocol.Sbi.Documented
import SartoriusLib.Devices.Surprise
import SartoriusLib.Cli.Jitter
import SartoriusLib.Registry.Aliases
import SartoriusLib.Devices.Discovery
import SartoriusLib.Devices.Factory
import SartoriusLib.Transport.Responder
import SartoriusLib.Devices.Sensors
import SartoriusLib.Devices.Readdress
import SartoriusLib.Testing.Lines
import SartoriusLib.Testing.Fixtures
import SartoriusLib.Devices.Exclusive
import SartoriusLib.Lib.Csv
import SartoriusLib.FloatText
import SartoriusLib.Sinks.Written
import SartoriusLib.Sinks.Csv
import SartoriusLib.Lib.Json
import SartoriusLib.Sinks.Jsonl
import SartoriusLib.Sinks.PipedFiles
import SartoriusLib.Registry.Parameters
import SartoriusLib.Devices.Accessors
import SartoriusLib.Devices.OpeningTrace
import SartoriusLib.Devices.RequestTrace
import SartoriusLib.Devices.Scoped
import SartoriusLib.Devices.ReadOnly
import SartoriusLib.Devices.Maintenance
import SartoriusLib.Cli.Common
import SartoriusLib.Cli.Diagnostics
import SartoriusLib.Cli.Raw
import SartoriusLib.Cli.Configure
import SartoriusLib.Transport.Scripted
import SartoriusLib.Devices.ScriptedBalance
import SartoriusLib.Cli.Fixture
import SartoriusLib.Testing.Scripts
