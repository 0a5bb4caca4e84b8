import Kapsel.Interaction.Program
import Kapsel.Interaction.Interleaving
import Kapsel.Interaction.Fallible
import Kapsel.Interaction.Methods
import Kapsel.Bytes.BigEndian
import Kapsel.Bytes.Framing
import Kapsel.Bytes.Readers
import Kapsel.Bytes.Canonical
import Kapsel.Bytes.Stepping
import Kapsel.Bytes.Separated
import Kapsel.Authority.Grammar
import Kapsel.Authority.Images
import Kapsel.Authority.Record
import Kapsel.Authority.Crypto
import Kapsel.Authority.Grant
import Kapsel.Authority.GitGrant
import Kapsel.Authority.ReceiptTrust
import Kapsel.Authority.Codec
import Kapsel.Gateway.Request
import Kapsel.Gateway.Facts
import Kapsel.Gateway.Adapter
import Kapsel.Gateway.Observation
import Kapsel.Gateway.Rollout
import Kapsel.Receipt.Format
import Kapsel.Receipt.Statement
import Kapsel.Receipt.Git
import Kapsel.Receipt.RoundTrip
import Kapsel.Receipt.Inspection
import Kapsel.Receipt.Separation
import Kapsel.Receipt.Canonical
import Kapsel.Receipt.Records
import Kapsel.Relational.Relation
import Kapsel.Relational.Paging
import Kapsel.Relational.Recent
import Kapsel.Journal.Schema
import Kapsel.Journal.Records
import Kapsel.Journal.CompareAndSet
import Kapsel.Journal.Operation
import Kapsel.Journal.Lifecycle
import Kapsel.Journal.Phases
import Kapsel.Journal.Decoding
import Kapsel.Journal.Bounds
import Kapsel.Journal.Git
import Kapsel.Journal.Reads
import Kapsel.Journal.Capacity
import Kapsel.Journal.Hostile
import Kapsel.Journal.Errors
import Kapsel.Gateway.Calls
import Kapsel.Gateway.Storage
import Kapsel.Gateway.Passes
import Kapsel.Gateway.Inquiries
import Kapsel.Application.Service
import Kapsel.Application.Reports
import Kapsel.Gateway.Entries
import Kapsel.Gateway.Protocol
import Kapsel.Gateway.Sessions
import Kapsel.Gateway.Advances
import Kapsel.Gateway.World
import Kapsel.Gateway.History
import Kapsel.Gateway.Healthy
import Kapsel.Gateway.Dispatch
import Kapsel.Gateway.Provenance
import Kapsel.Gateway.WriteOnce
import Kapsel.Gateway.Readable
import Kapsel.Gateway.Completion
import Kapsel.Gateway.Operator
import Kapsel.Gateway.GitCompletion
import Kapsel.Gateway.GitResult
import Kapsel.Gateway.Readings
import Kapsel.Gateway.Acting
import Kapsel.Gateway.Admission
import Kapsel.Gateway.Serving
import Kapsel.Gateway.Acknowledgement
import Kapsel.Gateway.Capacity
import Kapsel.Gateway.Namespace
import Kapsel.Gateway.Original
import Kapsel.Gateway.Frozen
import Kapsel.Gateway.Browsing
import Kapsel.Gateway.Standing
import Kapsel.Gateway.Agreement
import Kapsel.Gateway.Replacement
import Kapsel.Gateway.Progress
import Kapsel.Gateway.Reconciling
import Kapsel.Gateway.Porcelain
import Kapsel.Gateway.Lease
import Kapsel.Application.Appointments
import Kapsel.Application.Provisioning
import Kapsel.Json.Document
import Kapsel.Json.Reader
import Kapsel.Json.Measure
import Kapsel.Application.Disposition
import Kapsel.Daemon.Protocol
import Kapsel.Daemon.Documents
import Kapsel.Daemon.Submission
import Kapsel.Daemon.Disclosure
import Kapsel.Daemon.Results
import Kapsel.Daemon.Answers
import Kapsel.Daemon.Requests
import Kapsel.Daemon.Receipts
import Kapsel.Daemon.OperatorDocument
import Kapsel.Interaction.Execution
import Kapsel.Interaction.Actions
import Kapsel.Filesystem.Directory
import Kapsel.Daemon.Publication
import Kapsel.Daemon.Jobs
import Kapsel.Daemon.Runtime
import Kapsel.Daemon.Turns
import Kapsel.Daemon.Selections
import Kapsel.Daemon.Observations
import Kapsel.Daemon.Diagnostics
import Kapsel.Daemon.Contention
import Kapsel.Daemon.Permits
import Kapsel.Daemon.Frames
import Kapsel.Daemon.Bridge
import Kapsel.Bytes.Stream
import Kapsel.Daemon.Transport
import Kapsel.Daemon.ToolCalls
import Kapsel.Bytes.Lines
import Kapsel.Daemon.Session
