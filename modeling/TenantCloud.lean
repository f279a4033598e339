import TenantCloud.Api.Client
import TenantCloud.Api.EventRecord
import TenantCloud.Api.Exchange
import TenantCloud.Api.Reply
import TenantCloud.Api.Request
import TenantCloud.Api.Target
import TenantCloud.Cluster.Basic
import TenantCloud.Cluster.ObjectKey
import TenantCloud.Controller.Follower
import TenantCloud.Controller.Owners
import TenantCloud.Controller.Roster
import TenantCloud.Controller.Rounds
import TenantCloud.Controller.Stage
import TenantCloud.Controller.Watch
import TenantCloud.Data.Binary
import TenantCloud.Data.Dict
import TenantCloud.Data.Timestamp
import TenantCloud.Data.Uuid
import TenantCloud.Effect.Call
import TenantCloud.Effect.Pass
import TenantCloud.Effect.World
import TenantCloud.Error
import TenantCloud.Json.Basic
import TenantCloud.Json.Number
import TenantCloud.Json.Parser
import TenantCloud.Json.Printer
import TenantCloud.Json.Wire
import TenantCloud.Main
import TenantCloud.Object.Metadata
import TenantCloud.Object.Namespace
import TenantCloud.Object.NetworkPolicy
import TenantCloud.Object.Patch
import TenantCloud.Object.ResourceQuota
import TenantCloud.Object.TemplateInstance
import TenantCloud.Object.VirtualMachine
import TenantCloud.Proofs.Api.Replacement
import TenantCloud.Proofs.Api.Traffic
import TenantCloud.Proofs.Cluster.Elsewhere
import TenantCloud.Proofs.Cluster.Isolation
import TenantCloud.Proofs.Cluster.Plot
import TenantCloud.Proofs.Controller.Disappearance
import TenantCloud.Proofs.Controller.Following
import TenantCloud.Proofs.Data.Calendar
import TenantCloud.Proofs.Data.Dict
import TenantCloud.Proofs.Data.Timestamp
import TenantCloud.Proofs.Data.Uuid
import TenantCloud.Proofs.Effect.Always
import TenantCloud.Proofs.Effect.Calm
import TenantCloud.Proofs.Effect.Idle
import TenantCloud.Proofs.Effect.Logs
import TenantCloud.Proofs.Effect.Pairs
import TenantCloud.Proofs.Effect.Race
import TenantCloud.Proofs.Effect.Rounds
import TenantCloud.Proofs.Effect.Runs
import TenantCloud.Proofs.Effect.Trying
import TenantCloud.Proofs.Effect.Turns
import TenantCloud.Proofs.Json.Columns
import TenantCloud.Proofs.Json.Merge
import TenantCloud.Proofs.Json.Normal
import TenantCloud.Proofs.Json.Records
import TenantCloud.Proofs.Json.Shape
import TenantCloud.Proofs.Json.Values
import TenantCloud.Proofs.Object.Convergence
import TenantCloud.Proofs.Object.Metadata
import TenantCloud.Proofs.Object.Minimality
import TenantCloud.Proofs.Object.Patches
import TenantCloud.Proofs.Object.Quotas
import TenantCloud.Proofs.Object.Records
import TenantCloud.Proofs.Object.Rewriting
import TenantCloud.Proofs.Quantity
import TenantCloud.Proofs.Quantity.Denotation
import TenantCloud.Proofs.Quantity.Exactness
import TenantCloud.Proofs.Quantity.Mebibytes
import TenantCloud.Proofs.Quantity.Overflow
import TenantCloud.Proofs.Quantity.Parts
import TenantCloud.Proofs.Quantity.Signs
import TenantCloud.Proofs.Quantity.Spelling
import TenantCloud.Proofs.Quantity.Truncation
import TenantCloud.Proofs.Reconcile.Abandoned
import TenantCloud.Proofs.Reconcile.Additions
import TenantCloud.Proofs.Reconcile.Commuting
import TenantCloud.Proofs.Reconcile.Convergence
import TenantCloud.Proofs.Reconcile.Deployment
import TenantCloud.Proofs.Reconcile.Disabling
import TenantCloud.Proofs.Reconcile.Disappearance
import TenantCloud.Proofs.Reconcile.Discovery
import TenantCloud.Proofs.Reconcile.Duties
import TenantCloud.Proofs.Reconcile.Errands
import TenantCloud.Proofs.Reconcile.Finality
import TenantCloud.Proofs.Reconcile.Flagging
import TenantCloud.Proofs.Reconcile.Freshness
import TenantCloud.Proofs.Reconcile.Growth
import TenantCloud.Proofs.Reconcile.Halves
import TenantCloud.Proofs.Reconcile.Histories
import TenantCloud.Proofs.Reconcile.Honesty
import TenantCloud.Proofs.Reconcile.Injectivity
import TenantCloud.Proofs.Reconcile.Isolation
import TenantCloud.Proofs.Reconcile.Keeping
import TenantCloud.Proofs.Reconcile.Labels
import TenantCloud.Proofs.Reconcile.Limits
import TenantCloud.Proofs.Reconcile.MachineCalls
import TenantCloud.Proofs.Reconcile.Membership
import TenantCloud.Proofs.Reconcile.Ordering
import TenantCloud.Proofs.Reconcile.OwnerCalls
import TenantCloud.Proofs.Reconcile.Provenance
import TenantCloud.Proofs.Reconcile.Quiescence
import TenantCloud.Proofs.Reconcile.Reporting
import TenantCloud.Proofs.Reconcile.Resolution
import TenantCloud.Proofs.Reconcile.Retention
import TenantCloud.Proofs.Reconcile.Retrying
import TenantCloud.Proofs.Reconcile.Scanning
import TenantCloud.Proofs.Reconcile.Sheltered
import TenantCloud.Proofs.Reconcile.Staleness
import TenantCloud.Proofs.Reconcile.Stamping
import TenantCloud.Proofs.Reconcile.Sweeping
import TenantCloud.Proofs.Reconcile.Teardown
import TenantCloud.Proofs.Reconcile.Underway
import TenantCloud.Proofs.Reconcile.Vanishing
import TenantCloud.Proofs.Store.Ledger
import TenantCloud.Proofs.Store.Operations
import TenantCloud.Proofs.Store.Unique
import TenantCloud.Proofs.Text.Digits
import TenantCloud.Proofs.VApp.Lifecycle
import TenantCloud.Proofs.VirtualMachine.Facts
import TenantCloud.Proofs.VirtualMachine.Planning
import TenantCloud.Proofs.VirtualMachine.Processors
import TenantCloud.Proofs.WorkQueue.Claims
import TenantCloud.Proofs.WorkQueue.Course
import TenantCloud.Proofs.WorkQueue.Draining
import TenantCloud.Proofs.WorkQueue.Events
import TenantCloud.Proofs.WorkQueue.Failures
import TenantCloud.Proofs.WorkQueue.Loop
import TenantCloud.Proofs.WorkQueue.Ownership
import TenantCloud.Proofs.WorkQueue.Phases
import TenantCloud.Proofs.WorkQueue.Progress
import TenantCloud.Proofs.WorkQueue.Retries
import TenantCloud.Quantity
import TenantCloud.Reconcile.Binding
import TenantCloud.Reconcile.Namespace
import TenantCloud.Reconcile.Organization
import TenantCloud.Reconcile.VApp
import TenantCloud.Reconcile.Vdc
import TenantCloud.Reconcile.VirtualMachine
import TenantCloud.Rows.Organization
import TenantCloud.Rows.VApp
import TenantCloud.Rows.Vdc
import TenantCloud.Rows.Vm
import TenantCloud.Settings
import TenantCloud.Store.Basic
import TenantCloud.Store.Table
import TenantCloud.Telemetry
import TenantCloud.Text.Blank
import TenantCloud.Text.Digits
import TenantCloud.Text.Form
import TenantCloud.Text.Quoted
import TenantCloud.Text.Utf8
import TenantCloud.Text.Visible
import TenantCloud.Timeline.Agenda
import TenantCloud.Timeline.Periodic
import TenantCloud.VApp.Delivery
import TenantCloud.VApp.Diagram
import TenantCloud.VApp.Lifecycle
import TenantCloud.VirtualMachine.Facts
import TenantCloud.VirtualMachine.Lifecycle
import TenantCloud.Vocabulary
import TenantCloud.WorkQueue.Basic
import TenantCloud.WorkQueue.Loop
import TenantCloud.WorkQueue.Plan
