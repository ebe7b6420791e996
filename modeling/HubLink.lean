import HubLink.Command.Arguments
import HubLink.Command.Files
import HubLink.Command.Load
import HubLink.Command.Program
import HubLink.Command.Send
import HubLink.Command.Surroundings
import HubLink.Config.Basic
import HubLink.Config.Decode
import HubLink.Config.Render
import HubLink.Credential.ConnectionString
import HubLink.Credential.Error
import HubLink.Credential.Redaction
import HubLink.Credential.Signer
import HubLink.Credential.Token
import HubLink.Digest.Base64
import HubLink.Digest.Hmac
import HubLink.Digest.Sha256
import HubLink.Log.Directive
import HubLink.Log.Filter
import HubLink.Log.Layout
import HubLink.Log.Line
import HubLink.Log.Settings
import HubLink.Log.Span
import HubLink.Main
import HubLink.Mqtt.Frame
import HubLink.Mqtt.Packet
import HubLink.Mqtt.Window
import HubLink.Number.Binary64
import HubLink.Proofs.Command.Delivery
import HubLink.Proofs.Command.Dispatch
import HubLink.Proofs.Command.Loading
import HubLink.Proofs.Command.Mirror
import HubLink.Proofs.Command.Report
import HubLink.Proofs.Command.Scripted
import HubLink.Proofs.Command.Stages
import HubLink.Proofs.Config.Showing
import HubLink.Proofs.Credential.Expiry
import HubLink.Proofs.Credential.Faults
import HubLink.Proofs.Credential.Hiding
import HubLink.Proofs.Credential.KeyLayout
import HubLink.Proofs.Credential.Masking
import HubLink.Proofs.Credential.Reading
import HubLink.Proofs.Credential.Signature
import HubLink.Proofs.Credential.TokenFields
import HubLink.Proofs.Credential.Writing
import HubLink.Proofs.Machine.Calls
import HubLink.Proofs.Machine.Confirming
import HubLink.Proofs.Machine.Custody
import HubLink.Proofs.Machine.Dialogue
import HubLink.Proofs.Machine.Fates
import HubLink.Proofs.Machine.Identities
import HubLink.Proofs.Machine.Ledger
import HubLink.Proofs.Machine.Life
import HubLink.Proofs.Machine.Observers
import HubLink.Proofs.Machine.Order
import HubLink.Proofs.Machine.Outcomes
import HubLink.Proofs.Machine.Passage
import HubLink.Proofs.Machine.Prompt
import HubLink.Proofs.Machine.Refusal
import HubLink.Proofs.Machine.Shape
import HubLink.Proofs.Machine.Simulation
import HubLink.Proofs.Machine.Timeline
import HubLink.Proofs.Machine.Transitions
import HubLink.Proofs.Machine.Turns
import HubLink.Proofs.Session.Alignment
import HubLink.Proofs.Session.Announcements
import HubLink.Proofs.Session.Binding
import HubLink.Proofs.Session.Correlation
import HubLink.Proofs.Session.Device
import HubLink.Proofs.Session.DeviceRun
import HubLink.Proofs.Session.Exchange
import HubLink.Proofs.Session.Follow
import HubLink.Proofs.Session.Host
import HubLink.Proofs.Session.Identity
import HubLink.Proofs.Session.Interleaving
import HubLink.Proofs.Session.Line
import HubLink.Proofs.Session.Logbook
import HubLink.Proofs.Session.Numbering
import HubLink.Proofs.Session.Row
import HubLink.Proofs.Session.RowRun
import HubLink.Proofs.Session.Tracking
import HubLink.Proofs.Session.Work
import HubLink.Proofs.Task.Answers
import HubLink.Proofs.Task.Attendance
import HubLink.Proofs.Task.Chronicle
import HubLink.Proofs.Task.Lives
import HubLink.Proofs.Task.Quiescence
import HubLink.Proofs.Task.Receipts
import HubLink.Proofs.Task.Refinement
import HubLink.Proofs.Task.Rest
import HubLink.Proofs.Task.Settling
import HubLink.Proofs.Task.Tickets
import HubLink.Proofs.Task.Waiting
import HubLink.Proofs.Task.Watch
import HubLink.Proofs.Text.Decimal
import HubLink.Proofs.Text.Form
import HubLink.Proofs.Text.Padding
import HubLink.Proofs.Toml.Document
import HubLink.Proofs.Toml.Quoting
import HubLink.Proofs.Toml.Scalar
import HubLink.Proofs.Toml.Written
import HubLink.Session.Address
import HubLink.Session.Broker
import HubLink.Session.Connection
import HubLink.Session.Draft
import HubLink.Session.Options
import HubLink.Session.PacketIds
import HubLink.Session.Provider
import HubLink.Session.Reader
import HubLink.Session.Setup
import HubLink.Text.Alphanumeric
import HubLink.Text.Blank
import HubLink.Text.Bytes
import HubLink.Text.CaseRuns
import HubLink.Text.Category
import HubLink.Text.CharSet
import HubLink.Text.Decimal
import HubLink.Text.Fold
import HubLink.Text.Form
import HubLink.Text.Hex
import HubLink.Text.Hidden
import HubLink.Text.Pattern
import HubLink.Text.Pattern.Automaton
import HubLink.Text.Pattern.Bracket
import HubLink.Text.Pattern.Escape
import HubLink.Text.Pattern.Options
import HubLink.Text.Pattern.Place
import HubLink.Text.Pattern.Reader
import HubLink.Text.Pattern.Search
import HubLink.Text.Quoted
import HubLink.Text.Segments
import HubLink.Toml.Quoting
import HubLink.Toml.Reader
import HubLink.Toml.Scalar
import HubLink.Toml.Tree
import HubLink.Toml.Value
import HubLink.Transport.Error
import HubLink.Transport.Handle
import HubLink.Transport.Machine
import HubLink.Transport.Mailbox
import HubLink.Transport.Remark
import HubLink.Transport.Signing
import HubLink.Transport.StandIn
import HubLink.Transport.State
import HubLink.Transport.Task
import HubLink.Transport.Trace
import HubLink.Transport.Waiting
