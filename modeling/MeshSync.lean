import MeshSync.Admin
import MeshSync.Base64
import MeshSync.Binary64
import MeshSync.Bytes
import MeshSync.Certificates.Directory
import MeshSync.Certificates.Paths
import MeshSync.Certificates.Store
import MeshSync.CommandLine
import MeshSync.Config.Basic
import MeshSync.Config.Loader
import MeshSync.Config.Problem
import MeshSync.Dataplane.Client
import MeshSync.Dataplane.Connection
import MeshSync.Dataplane.Error
import MeshSync.Dataplane.Model
import MeshSync.Dataplane.Object
import MeshSync.Dataplane.Operation
import MeshSync.Dataplane.Recorder
import MeshSync.Dataplane.Request
import MeshSync.Dataplane.Session
import MeshSync.Dataplane.Store
import MeshSync.Decimal
import MeshSync.Dialogue
import MeshSync.Http.Message
import MeshSync.Http.Target
import MeshSync.Identifier
import MeshSync.Json.Basic
import MeshSync.Json.Parser
import MeshSync.Json.Printer
import MeshSync.Json.Record
import MeshSync.Json.Source
import MeshSync.LogFilter
import MeshSync.LogFilter.Directive
import MeshSync.LogFilter.Field
import MeshSync.LogFilter.Level
import MeshSync.LogFilter.Pattern
import MeshSync.Main
import MeshSync.Mesh.Client
import MeshSync.Mesh.Decode
import MeshSync.Mesh.Error
import MeshSync.Mesh.Health
import MeshSync.Mesh.Query
import MeshSync.Mesh.Registration
import MeshSync.Metrics
import MeshSync.Net.Ip
import MeshSync.Net.SocketAddress
import MeshSync.Numeral
import MeshSync.Pem
import MeshSync.Proofs.Text.Splitting
import MeshSync.Proofs.Url.Unreserved
import MeshSync.Reconcile.Feed
import MeshSync.Reconcile.Listener
import MeshSync.Reconcile.Loop
import MeshSync.Reconcile.Pass
import MeshSync.Reconcile.Plan
import MeshSync.Reconcile.Status
import MeshSync.Rehearsal.Chain
import MeshSync.Rehearsal.ControlPlane
import MeshSync.Rehearsal.Trial
import MeshSync.Rehearsal.Wire
import MeshSync.Rehearsal.World
import MeshSync.Shutdown
import MeshSync.Snapshot
import MeshSync.SortedMap
import MeshSync.Text.Alphanumeric
import MeshSync.Text.Blank
import MeshSync.Text.CombiningClass
import MeshSync.Text.Composed
import MeshSync.Text.Decomposition
import MeshSync.Text.Mark
import MeshSync.Text.Quoted
import MeshSync.Text.Search
import MeshSync.Text.Table
import MeshSync.Text.Unseen
import MeshSync.Toml.Document
import MeshSync.Toml.Number
import MeshSync.Toml.Table
import MeshSync.Toml.Text
import MeshSync.Toml.Value
import MeshSync.Url.Basic
import MeshSync.Url.Direction
import MeshSync.Url.Domain
import MeshSync.Url.Error
import MeshSync.Url.Form
import MeshSync.Url.Host
import MeshSync.Url.Joining
import MeshSync.Url.Mapping
import MeshSync.Url.Parser
import MeshSync.Url.Percent
import MeshSync.Url.Punycode
import MeshSync.Wait
import MeshSync.Watch.Cursor
import MeshSync.Watch.Definition
import MeshSync.Watch.Gate
import MeshSync.Watch.State
import MeshSync.Watch.Track
import MeshSync.Watch.Watcher
import MeshSync.Proofs.Dataplane.Routing
import MeshSync.Proofs.Dataplane.Objects
import MeshSync.Proofs.Dialogue
import MeshSync.Proofs.Dataplane.WellFormed
import MeshSync.Proofs.Dataplane.Answers
import MeshSync.Proofs.Dataplane.Performing
import MeshSync.Proofs.Dataplane.Exchange
import MeshSync.Proofs.Reconcile.Ownership
import MeshSync.Proofs.Reconcile.Building
import MeshSync.Proofs.Reconcile.Replacing
import MeshSync.Proofs.Reconcile.Serving
import MeshSync.Proofs.Reconcile.Planning
import MeshSync.Proofs.Reconcile.Passes
import MeshSync.Proofs.Reconcile.Convergence
import MeshSync.Proofs.Reconcile.Recovery
import MeshSync.Proofs.Watch.Steps
import MeshSync.Proofs.Watch.Coalescing
import MeshSync.Proofs.Watch.Ledger
import MeshSync.Proofs.Watch.Declaring
import MeshSync.Proofs.Watch.Mirroring
import MeshSync.Proofs.Watch.Registry
import MeshSync.Proofs.Watch.Tracking
import MeshSync.Proofs.Watch.Assembly
import MeshSync.Proofs.Watch.Attending
import MeshSync.Proofs.Footprint
import MeshSync.Proofs.Dataplane.Numbering
import MeshSync.Proofs.Dataplane.Journal
import MeshSync.Proofs.Dataplane.Serial
import MeshSync.Proofs.Dataplane.Honesty
import MeshSync.Proofs.Dataplane.Sharing
import MeshSync.Proofs.Reconcile.Course
import MeshSync.Proofs.Reconcile.Site
import MeshSync.Proofs.Reconcile.Atomicity
import MeshSync.Proofs.Reconcile.Closing
import MeshSync.Proofs.Reconcile.Tidy
import MeshSync.Proofs.Reconcile.Sole
import MeshSync.Proofs.Reconcile.Likeness
import MeshSync.Proofs.Reconcile.Skipping
import MeshSync.Proofs.Certificates.Keeping
import MeshSync.Proofs.Reconcile.Citing
import MeshSync.Proofs.Reconcile.Filing
import MeshSync.Proofs.Reconcile.Losing
import MeshSync.Proofs.Watch.Naming
import MeshSync.Proofs.Node.Steps
import MeshSync.Proofs.Node.AtRest
import MeshSync.Proofs.Reconcile.Reporting
import MeshSync.Proofs.Watch.Polling
import MeshSync.Proofs.Reconcile.Undoing
import MeshSync.Proofs.Reconcile.Sequencing
import MeshSync.Proofs.Pem.Joining
import MeshSync.Proofs.Certificates.Bundles
import MeshSync.Proofs.Watch.Trusting
import MeshSync.Proofs.Certificates.Caching
import MeshSync.Proofs.Reconcile.Apart
import MeshSync.Proofs.Watch.Shaping
import MeshSync.Proofs.Dataplane.Conflicts
import MeshSync.Proofs.Dataplane.Intending
import MeshSync.Proofs.Reconcile.Rebuilding
import MeshSync.Proofs.Reconcile.Isolating
import MeshSync.Proofs.Mesh.Selecting
import MeshSync.Proofs.Mesh.Asking
import MeshSync.Proofs.Config.Addresses
import MeshSync.Proofs.Certificates.Failing
import MeshSync.Proofs.Dataplane.Transcribing
import MeshSync.Proofs.Admin.Guarding
