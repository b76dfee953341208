import Interception.Action
import Interception.Audit
import Interception.Call
import Interception.Cli.Arguments
import Interception.Cli.Command
import Interception.Cli.Help
import Interception.Cli.Run
import Interception.Config.Basic
import Interception.Config.Decode
import Interception.Config.Load
import Interception.Document.Basic
import Interception.Document.Fields
import Interception.Document.JsonReader
import Interception.Document.JsonWriter
import Interception.Document.Path
import Interception.Document.TomlReader
import Interception.Document.TomlText
import Interception.Document.TomlWriter
import Interception.Double.Basic
import Interception.Double.Shortest
import Interception.Duration
import Interception.Errno
import Interception.Event
import Interception.Filter.ActionLog
import Interception.Filter.Chain
import Interception.Filter.Degraded
import Interception.Host.Examine
import Interception.Host.Hooks
import Interception.Host.Instruments
import Interception.Host.Rounds
import Interception.Host.Service
import Interception.Host.Settings
import Interception.Host.State
import Interception.Host.Syscalls
import Interception.Host.Threads
import Interception.Identifier
import Interception.Kernel.Mounts
import Interception.Kernel.Natives
import Interception.Kernel.Slot
import Interception.Main
import Interception.NameSet
import Interception.Operation
import Interception.Patch.Entry
import Interception.Patch.Table
import Interception.Proofs.Control.Calls
import Interception.Proofs.Control.Closing
import Interception.Proofs.Control.Departing
import Interception.Proofs.Control.Numbering
import Interception.Proofs.Control.Staffing
import Interception.Proofs.Filter.History
import Interception.Proofs.Filter.Passing
import Interception.Proofs.Host.Accounting
import Interception.Proofs.Host.Attending
import Interception.Proofs.Host.Auditing
import Interception.Proofs.Host.Booking
import Interception.Proofs.Host.Calling
import Interception.Proofs.Host.Courses
import Interception.Proofs.Host.Discovering
import Interception.Proofs.Host.Ending
import Interception.Proofs.Host.Enforcing
import Interception.Proofs.Host.Errands
import Interception.Proofs.Host.Examining
import Interception.Proofs.Host.FileCalls
import Interception.Proofs.Host.Gauging
import Interception.Proofs.Host.Ledger
import Interception.Proofs.Host.Lenience
import Interception.Proofs.Host.Mediation
import Interception.Proofs.Host.Metering
import Interception.Proofs.Host.Mimicking
import Interception.Proofs.Host.MountCalls
import Interception.Proofs.Host.Overseeing
import Interception.Proofs.Host.Probing
import Interception.Proofs.Host.Reckoning
import Interception.Proofs.Host.Refusing
import Interception.Proofs.Host.Releasing
import Interception.Proofs.Host.Scenes
import Interception.Proofs.Host.Serving
import Interception.Proofs.Host.Shadowing
import Interception.Proofs.Host.Shielding
import Interception.Proofs.Host.Tending
import Interception.Proofs.Host.Tracing
import Interception.Proofs.Host.Turns
import Interception.Proofs.Host.Walking
import Interception.Proofs.Host.Watching
import Interception.Proofs.Kernel.Assembling
import Interception.Proofs.Kernel.Building
import Interception.Proofs.Kernel.Furnishing
import Interception.Proofs.Kernel.Mounting
import Interception.Proofs.Kernel.Resolving
import Interception.Proofs.Patch.Attempting
import Interception.Proofs.Patch.Counting
import Interception.Proofs.Patch.Custody
import Interception.Proofs.Patch.Failing
import Interception.Proofs.Patch.FileHooks
import Interception.Proofs.Patch.Flagging
import Interception.Proofs.Patch.Hooking
import Interception.Proofs.Patch.Idling
import Interception.Proofs.Patch.Keeping
import Interception.Proofs.Patch.Lending
import Interception.Proofs.Patch.Listing
import Interception.Proofs.Patch.LookupFaults
import Interception.Proofs.Patch.LookupHooks
import Interception.Proofs.Patch.LookupRuns
import Interception.Proofs.Patch.Preparing
import Interception.Proofs.Patch.Recording
import Interception.Proofs.Patch.Repatching
import Interception.Proofs.Patch.Replaying
import Interception.Proofs.Patch.Representing
import Interception.Proofs.Patch.Rostering
import Interception.Proofs.Patch.Running
import Interception.Proofs.Patch.Shaping
import Interception.Proofs.Patch.Shifting
import Interception.Proofs.Patch.Sparing
import Interception.Proofs.Patch.Turning
import Interception.Proofs.Patch.Upholding
import Interception.Proofs.Scenario.Transparency
import Interception.Proofs.Settings.Adjusting
import Interception.Proofs.Settings.Protecting
import Interception.Proofs.Settings.Reconfiguring
import Interception.Proofs.Settings.Rendering
import Interception.Proofs.Settings.Validating
import Interception.Proofs.Text.Components
import Interception.Proofs.Text.Trimming
import Interception.Proofs.Transport.Framing
import Interception.Proofs.Transport.Listening
import Interception.Proofs.Transport.Retrying
import Interception.Proofs.Transport.Writing
import Interception.Proofs.Vetting.Directing
import Interception.Proofs.Vetting.Fetching
import Interception.Proofs.Vetting.Moves
import Interception.Proofs.Vetting.Precedence
import Interception.Proofs.Vetting.Protocol
import Interception.Proofs.Vetting.Queueing
import Interception.Proofs.Vetting.RuleTexts
import Interception.Proofs.Vetting.Waiting
import Interception.Proofs.Wire.Characters
import Interception.Proofs.Wire.Grammar
import Interception.Proofs.Wire.Reading
import Interception.Report
import Interception.Retry
import Interception.Scenario.Basic
import Interception.Scenario.Decode
import Interception.Scenario.Replay
import Interception.Settings
import Interception.Span
import Interception.Switch
import Interception.Tally
import Interception.Text.Blank
import Interception.Text.Hex
import Interception.Text.Number
import Interception.Text.Printable
import Interception.Text.Quoted
import Interception.Text.Terminal
import Interception.Transport.Client
import Interception.Transport.Process
import Interception.Transport.Server
import Interception.Transport.Stream
import Interception.Vetting.Board
import Interception.Vetting.Clients
import Interception.Vetting.Controller
import Interception.Vetting.Groups
import Interception.Vetting.PathPolicy
import Interception.Vetting.Request
import Interception.Vetting.Routing
import Interception.View.Failures
import Interception.View.Hosts
import Interception.View.Messages
import Interception.View.Values
import Interception.Wire.Body
import Interception.Wire.Codec
import Interception.Wire.Packet
import Interception.Wire.Utf8
