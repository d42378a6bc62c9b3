import ShardControl.Config.Basic
import ShardControl.Config.Form
import ShardControl.Config.Load
import ShardControl.Config.Reader
import ShardControl.ControlPlane.Basic
import ShardControl.Deploy.Control
import ShardControl.Deploy.Draft
import ShardControl.Deploy.Error
import ShardControl.Deploy.Form
import ShardControl.Deploy.Plan
import ShardControl.Deploy.Runner
import ShardControl.Deploy.Task
import ShardControl.Diagnosis
import ShardControl.Document.Basic
import ShardControl.Document.Form
import ShardControl.Fault.Basic
import ShardControl.Fault.Classification
import ShardControl.Fault.Coordinator
import ShardControl.Fault.Form
import ShardControl.Fault.Handler
import ShardControl.Fault.Shutdown
import ShardControl.Files.Path
import ShardControl.Files.Tree
import ShardControl.Hash.Sha256
import ShardControl.Id
import ShardControl.Json.Basic
import ShardControl.Json.Form
import ShardControl.Json.Printer
import ShardControl.Json.Reader
import ShardControl.KeyOrder
import ShardControl.KeyedMap.Basic
import ShardControl.Log.Event
import ShardControl.Log.Filter
import ShardControl.Log.Level
import ShardControl.Log.Report
import ShardControl.Parameters.Basic
import ShardControl.Parameters.ParameterMap
import ShardControl.Parameters.Sizing
import ShardControl.Pattern.Basic
import ShardControl.Pattern.CharSet
import ShardControl.Pattern.ClassReader
import ShardControl.Pattern.Encoding
import ShardControl.Pattern.Escape
import ShardControl.Pattern.Fault
import ShardControl.Pattern.Machine
import ShardControl.Pattern.Matching
import ShardControl.Pattern.Nesting
import ShardControl.Pattern.Ranges
import ShardControl.Pattern.Reader
import ShardControl.Pattern.Scan
import ShardControl.Pattern.Sharing
import ShardControl.Pattern.Size
import ShardControl.Pattern.WordTree
import ShardControl.Port.Ledger
import ShardControl.Program.Basic
import ShardControl.Proofs.Contention.Conduct
import ShardControl.Proofs.Contention.Overtaken
import ShardControl.Proofs.Contention.Pool
import ShardControl.Proofs.Contention.Race
import ShardControl.Proofs.Contention.Remedies
import ShardControl.Proofs.ControlPlane.Restart
import ShardControl.Proofs.Deploy.Accounts
import ShardControl.Proofs.Deploy.Agents
import ShardControl.Proofs.Deploy.Choice
import ShardControl.Proofs.Deploy.Compensation
import ShardControl.Proofs.Deploy.Conduct
import ShardControl.Proofs.Deploy.Conflict
import ShardControl.Proofs.Deploy.Contact
import ShardControl.Proofs.Deploy.Draft
import ShardControl.Proofs.Deploy.Electors
import ShardControl.Proofs.Deploy.Errands
import ShardControl.Proofs.Deploy.FollowUp
import ShardControl.Proofs.Deploy.Independence
import ShardControl.Proofs.Deploy.Memory
import ShardControl.Proofs.Deploy.MetadataFirst
import ShardControl.Proofs.Deploy.NewReplica
import ShardControl.Proofs.Deploy.Passes
import ShardControl.Proofs.Deploy.Past
import ShardControl.Proofs.Deploy.Preparation
import ShardControl.Proofs.Deploy.Renumbering
import ShardControl.Proofs.Deploy.Rerun
import ShardControl.Proofs.Deploy.Retry
import ShardControl.Proofs.Deploy.Setback
import ShardControl.Proofs.Deploy.Solo
import ShardControl.Proofs.Deploy.TaskList
import ShardControl.Proofs.Document.Arrangement
import ShardControl.Proofs.Document.Digest
import ShardControl.Proofs.Document.Form
import ShardControl.Proofs.Document.RoundTrip
import ShardControl.Proofs.Fault.Cause
import ShardControl.Proofs.Fault.Coordinator
import ShardControl.Proofs.Fault.Exit
import ShardControl.Proofs.Fault.Handler
import ShardControl.Proofs.Files.Tree
import ShardControl.Proofs.Json.Arrangement
import ShardControl.Proofs.Json.Form
import ShardControl.Proofs.Json.Scalars
import ShardControl.Proofs.Json.Values
import ShardControl.Proofs.KeyedMap.Equality
import ShardControl.Proofs.KeyedMap.Lookup
import ShardControl.Proofs.Parameters.Budget
import ShardControl.Proofs.Parameters.Sharing
import ShardControl.Proofs.Port.Allotment
import ShardControl.Proofs.Port.Ledger
import ShardControl.Proofs.Program.Dialogue
import ShardControl.Proofs.Repair.Attempts
import ShardControl.Proofs.Repair.Convergence
import ShardControl.Proofs.Repair.Outcome
import ShardControl.Proofs.Repair.Removal
import ShardControl.Proofs.Retry.Course
import ShardControl.Proofs.Service.History
import ShardControl.Proofs.Store.Adoption
import ShardControl.Proofs.Store.Coherence
import ShardControl.Proofs.Store.Commit
import ShardControl.Proofs.Store.Persistence
import ShardControl.Proofs.Store.Serialization
import ShardControl.Proofs.Telemetry.Aggregate
import ShardControl.Proofs.Telemetry.Calls
import ShardControl.Proofs.Telemetry.Conservation
import ShardControl.Proofs.Telemetry.Monitor
import ShardControl.Proofs.Telemetry.Repository
import ShardControl.Proofs.Telemetry.Retirement
import ShardControl.Proofs.Text.Decimal
import ShardControl.Proofs.Topology.Changes
import ShardControl.Proofs.Topology.Integrity
import ShardControl.Proofs.Topology.Members
import ShardControl.Proofs.Topology.Numbering
import ShardControl.Proofs.Topology.Orderly
import ShardControl.Rehearsal.Answer
import ShardControl.Rehearsal.Basic
import ShardControl.Rehearsal.Cleanup
import ShardControl.Rehearsal.Clock
import ShardControl.Rehearsal.Form
import ShardControl.Rehearsal.Hosting
import ShardControl.Rehearsal.Operations
import ShardControl.Rehearsal.Planning
import ShardControl.Rehearsal.Shutdown
import ShardControl.Repair.Basic
import ShardControl.Repair.Check
import ShardControl.Repair.Cleanup
import ShardControl.Retry.Cancellation
import ShardControl.Retry.Loop
import ShardControl.Retry.Policy
import ShardControl.Service.Monitored
import ShardControl.Service.Status
import ShardControl.Store.Basic
import ShardControl.Store.Edit
import ShardControl.Store.Interface
import ShardControl.Store.Persist
import ShardControl.Telemetry.Form
import ShardControl.Telemetry.Measurement
import ShardControl.Telemetry.Monitor
import ShardControl.Telemetry.Repository
import ShardControl.Telemetry.Ring
import ShardControl.Text.Blank
import ShardControl.Text.Decimal
import ShardControl.Text.Glyph
import ShardControl.Text.Letter
import ShardControl.Text.Plain
import ShardControl.Text.Split
import ShardControl.Topology.Basic
import ShardControl.Topology.Change
import ShardControl.Topology.InPlace
import ShardControl.Word
import ShardControl.Yaml.Basic
import ShardControl.Yaml.BlockScalar
import ShardControl.Yaml.Cursor
import ShardControl.Yaml.Lexer
import ShardControl.Yaml.Reader
import ShardControl.Yaml.Scalar
import ShardControl.Yaml.Tag
import ShardControl.Yaml.Token
