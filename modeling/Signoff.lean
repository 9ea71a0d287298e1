import Signoff.Text.Utf8
import Signoff.Text.Blank
import Signoff.Duration.Parser
import Signoff.Duration.Printer
import Signoff.Table.Lemmas
import Signoff.Json.Shortest
import Signoff.Json.Basic
import Signoff.Instant.Parser
import Signoff.Instant.Printer
import Signoff.Text.Printable
import Signoff.Text.Combining
import Signoff.Text.Lowercase
import Signoff.Json.Error
import Signoff.Json.Printer
import Signoff.Json.Cursor
import Signoff.Json.Number
import Signoff.Json.String
import Signoff.Json.Reader
import Signoff.Json.Schema.Reader
import Signoff.Definition.Validity
import Signoff.Timer.Queue
import Signoff.Message.Response
import Signoff.Message.Params
import Signoff.Store.Memory
import Signoff.Store.Plain
import Signoff.Store.Files
import Signoff.Service.Handler
import Signoff.Service.Lines
import Signoff.Settings.Environment
import Signoff.Main
import Signoff.Proofs.Service.Moves
import Signoff.Proofs.Service.Refusal
import Signoff.Proofs.Service.Timers
import Signoff.Proofs.Engine.Availability
import Signoff.Proofs.Service.Transcript
import Signoff.Proofs.Workflow.Acceptance
import Signoff.Proofs.Instant.Calendar
import Signoff.Proofs.Reader
import Signoff.Proofs.Instant.RoundTrip
import Signoff.Proofs.Text.Utf8
import Signoff.Proofs.Json.Shape
import Signoff.Proofs.Json.Spelling
import Signoff.Proofs.Json.Tokens
import Signoff.Proofs.Json.Values
import Signoff.Proofs.Json.Skipping
import Signoff.Proofs.Json.Records
import Signoff.Proofs.Json.Schema
import Signoff.Proofs.Definition.RoundTrip
import Signoff.Proofs.Store.Records
import Signoff.Proofs.Disk.Folders
import Signoff.Proofs.Disk.Replacing
import Signoff.Proofs.Store.Joining
import Signoff.Proofs.Store.Paths
import Signoff.Proofs.Store.Writing
import Signoff.Proofs.Store.ReadBack
import Signoff.Proofs.Store.Agreement
import Signoff.Proofs.Store.Archive
import Signoff.Proofs.Engine.Agreement
import Signoff.Proofs.Service.Agreement
import Signoff.Proofs.Service.Mirrors
import Signoff.Proofs.Service.Backends
import Signoff.Proofs.Service.Immutability
import Signoff.Proofs.Message.RoundTrip
import Signoff.Proofs.Json.Depth
import Signoff.Proofs.Engine.Placement
import Signoff.Proofs.Workflow.Times
import Signoff.Proofs.Store.Vetting
import Signoff.Proofs.Service.Internal
import Signoff.Proofs.Engine.Blindness
import Signoff.Proofs.Service.Restarts
import Signoff.Proofs.Engine.Authority
import Signoff.Proofs.Service.Payloads
import Signoff.Proofs.Service.Answers
import Signoff.Proofs.Disk.Locality
import Signoff.Proofs.Disk.Footprint
import Signoff.Proofs.Store.Apart
import Signoff.Proofs.Store.Shelf
import Signoff.Proofs.Store.Modifying
import Signoff.Proofs.Store.Calls
import Signoff.Proofs.Store.Footprint
import Signoff.Proofs.Store.Confinement
import Signoff.Proofs.Timer.Alike
import Signoff.Proofs.Service.Commuting
import Signoff.Proofs.Duration.RoundTrip
import Signoff.Proofs.Timer.Answers
import Signoff.Proofs.Timer.Slicing
import Signoff.Proofs.Engine.Outcome
import Signoff.Proofs.Engine.Accepting
import Signoff.Proofs.Engine.Reporting
import Signoff.Proofs.Service.Submission
import Signoff.Proofs.Encodings
import Signoff.Proofs.Json.Members
import Signoff.Proofs.Json.Passing
import Signoff.Proofs.Json.Soundness
import Signoff.Proofs.Json.Wording
import Signoff.Proofs.Definition.Content
import Signoff.Proofs.Message.Responses
import Signoff.Proofs.Message.Envelopes
import Signoff.Proofs.Store.Unknown
import Signoff.Proofs.Service.Unknown
import Signoff.Proofs.Service.Envelopes
import Signoff.Duration.Scanner
import Signoff.Proofs.Duration.Scanning
import Signoff.Proofs.RoleSet.Canonical
import Signoff.Proofs.Timer.Index
import Signoff.Proofs.Settings.Layers
