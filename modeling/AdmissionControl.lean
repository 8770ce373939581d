import AdmissionControl.Power
import AdmissionControl.Binary64.Basic
import AdmissionControl.Binary64.Bits
import AdmissionControl.Binary64.Arithmetic
import AdmissionControl.Binary64.Decimal
import AdmissionControl.Text.Numeral
import AdmissionControl.Text.Blank
import AdmissionControl.Text.Printable
import AdmissionControl.Text.Quoted
import AdmissionControl.Text.Bytes
import AdmissionControl.Text.Cased
import AdmissionControl.Text.LowerCase
import AdmissionControl.Text.Terminal
import AdmissionControl.Limiter.Basic
import AdmissionControl.Wire.Fault
import AdmissionControl.Wire.Fields
import AdmissionControl.Wire.Request
import AdmissionControl.Wire.Reply
import AdmissionControl.Answer
import AdmissionControl.Session.Basic
import AdmissionControl.Session.Intake
import AdmissionControl.Pool.Basic
import AdmissionControl.Pool.Crew
import AdmissionControl.Pool.Shift
import AdmissionControl.Client.Basic
import AdmissionControl.Client.Callers
import AdmissionControl.Client.Script
import AdmissionControl.Daemon.Basic
import AdmissionControl.Daemon.Clientele
import AdmissionControl.Files.Socket
import AdmissionControl.Daemon.Server
import AdmissionControl.Settings.Basic
import AdmissionControl.Json.Reader
import AdmissionControl.Settings.Variables
import AdmissionControl.Settings.Library
import AdmissionControl.Settings.Load
import AdmissionControl.Settings.Standard
import AdmissionControl.CommandLine.Program
import AdmissionControl.Gate.Conduct
import AdmissionControl.Gate.Traffic
import AdmissionControl.Gate.Crowd
import AdmissionControl.Gate.Lobby
import AdmissionControl.Http.Target
import AdmissionControl.Main
import AdmissionControl.Proofs.Binary64.Rounding
import AdmissionControl.Proofs.Binary64.Order
import AdmissionControl.Proofs.Binary64.Whole
import AdmissionControl.Proofs.Binary64.Monotone
import AdmissionControl.Proofs.Binary64.WholePart
import AdmissionControl.Proofs.Binary64.Scaling
import AdmissionControl.Proofs.Limiter.Steps
import AdmissionControl.Proofs.Limiter.Invariant
import AdmissionControl.Proofs.Limiter.Recovery
import AdmissionControl.Proofs.Limiter.Cycles
import AdmissionControl.Proofs.Limiter.Comparison
import AdmissionControl.Proofs.Limiter.Overtaking
import AdmissionControl.Proofs.Limiter.BackOff
import AdmissionControl.Proofs.Limiter.NineTenths
import AdmissionControl.Proofs.Limiter.Ledger
import AdmissionControl.Proofs.Text.Words
import AdmissionControl.Proofs.Text.Spacing
import AdmissionControl.Proofs.Text.Pieces
import AdmissionControl.Proofs.Wire.Lines
import AdmissionControl.Proofs.Wire.RequestCodec
import AdmissionControl.Proofs.Wire.ReplyCodec
import AdmissionControl.Proofs.Wire.RoundTrip
import AdmissionControl.Proofs.Wire.Relevance
import AdmissionControl.Proofs.Wire.Refusals
import AdmissionControl.Proofs.Session.Framing
import AdmissionControl.Proofs.Session.Carriage
import AdmissionControl.Proofs.Session.Division
import AdmissionControl.Proofs.Session.Course
import AdmissionControl.Proofs.Session.Pieces
import AdmissionControl.Proofs.Session.Reference
import AdmissionControl.Proofs.Session.Idle
import AdmissionControl.Proofs.Session.Shutdown
import AdmissionControl.Proofs.Pool.Serving
import AdmissionControl.Proofs.Pool.Accounts
import AdmissionControl.Proofs.Daemon.Calls
import AdmissionControl.Proofs.Daemon.Sharing
import AdmissionControl.Proofs.Client.Calls
import AdmissionControl.Proofs.Client.Replies
import AdmissionControl.Proofs.Client.Channels
import AdmissionControl.Proofs.Client.RoundTrips
import AdmissionControl.Proofs.Client.Interleaving
import AdmissionControl.Proofs.Client.Pairing
import AdmissionControl.Proofs.Daemon.Order
import AdmissionControl.Proofs.Daemon.Clientele
import AdmissionControl.Proofs.Gate.Metering
import AdmissionControl.Proofs.Gate.Slots
import AdmissionControl.Proofs.Gate.Solitary
import AdmissionControl.Proofs.Gate.Standing
import AdmissionControl.Proofs.Gate.Moves
import AdmissionControl.Proofs.Gate.Drops
import AdmissionControl.Proofs.Gate.Proceeding
import AdmissionControl.Proofs.Gate.Reports
import AdmissionControl.Proofs.Gate.AtOnce
import AdmissionControl.Proofs.Gate.Showing
import AdmissionControl.Proofs.Gate.Verdicts
import AdmissionControl.Proofs.Gate.Throttling
import AdmissionControl.Proofs.Gate.Cookies
import AdmissionControl.Proofs.Gate.Transparency
import AdmissionControl.Proofs.Gate.Latencies
import AdmissionControl.Proofs.Pool.Waiting
import AdmissionControl.Proofs.Daemon.Waiting
import AdmissionControl.Proofs.Pool.Schedule
import AdmissionControl.Proofs.Pool.Staffing
import AdmissionControl.Proofs.Pool.Phases
import AdmissionControl.Proofs.Pool.Closing
import AdmissionControl.Proofs.Shift.Moves
import AdmissionControl.Proofs.Shift.Faithful
import AdmissionControl.Proofs.Shift.Accounts
import AdmissionControl.Proofs.Shift.CatchingUp
import AdmissionControl.Proofs.Shift.Showing
import AdmissionControl.Proofs.Shift.Stopping
import AdmissionControl.Proofs.Shift.Linear
import AdmissionControl.Proofs.Shift.Winding
import AdmissionControl.Proofs.Shift.Course
import AdmissionControl.Proofs.Shift.Shutdown
import AdmissionControl.Proofs.Limiter.Doubling
import AdmissionControl.Proofs.Text.Numerals
import AdmissionControl.Proofs.Settings.Trees
import AdmissionControl.Proofs.Settings.Keys
import AdmissionControl.Proofs.Settings.Reading
import AdmissionControl.Proofs.Settings.Documented
import AdmissionControl.Proofs.Settings.Layers
import AdmissionControl.Proofs.Settings.Standard
import AdmissionControl.Proofs.Settings.Origins
import AdmissionControl.Proofs.Settings.Loading
import AdmissionControl.Proofs.Settings.Verbatim
import AdmissionControl.Proofs.Files.Ways
import AdmissionControl.Proofs.Files.Preparing
import AdmissionControl.Proofs.Daemon.Binding
import AdmissionControl.Proofs.Daemon.Closing
import AdmissionControl.Proofs.Daemon.Hosting
import AdmissionControl.Proofs.Daemon.Sites
