import EidolonAdmin.Foundation.Transition
import EidolonAdmin.Foundation.Table
import EidolonAdmin.Foundation.Dict
import EidolonAdmin.Foundation.Leases
import EidolonAdmin.Foundation.Journal
import EidolonAdmin.Foundation.Json
import EidolonAdmin.Foundation.Rowid
import EidolonAdmin.Foundation.Sql
import EidolonAdmin.Foundation.Connection
import EidolonAdmin.Foundation.Layout
import EidolonAdmin.Foundation.Fits
import EidolonAdmin.Foundation.Schema
import EidolonAdmin.Foundation.Lines
import EidolonAdmin.Foundation.Traverse
import EidolonAdmin.Foundation.StableSort
import EidolonAdmin.Foundation.Quota
import EidolonAdmin.Foundation.Paging
import EidolonAdmin.Foundation.Binary64
import EidolonAdmin.Foundation.Text
import EidolonAdmin.Foundation.EventSource
import EidolonAdmin.Foundation.Base64
import EidolonAdmin.Foundation.JsonText
import EidolonAdmin.Foundation.JsonScalars
import EidolonAdmin.Foundation.JsonRoundtrip
import EidolonAdmin.Foundation.JsonProgress
import EidolonAdmin.Foundation.JsonSize
import EidolonAdmin.Foundation.Model
import EidolonAdmin.Bootstrap.Domain
import EidolonAdmin.Bootstrap.StatePort
import EidolonAdmin.Bootstrap.SqliteStore
import EidolonAdmin.Bootstrap.MemoryStore
import EidolonAdmin.Bootstrap.StoreKeys
import EidolonAdmin.Bootstrap.ClaimInvariant
import EidolonAdmin.Bootstrap.SessionLinearity
import EidolonAdmin.Bootstrap.ClaimWindow
import EidolonAdmin.Bootstrap.CommissioningService
import EidolonAdmin.Bootstrap.Service
import EidolonAdmin.Bootstrap.Host
import EidolonAdmin.Bootstrap.NetworkOperations
import EidolonAdmin.Bootstrap.NetworkPhase
import EidolonAdmin.Bootstrap.Lockout
import EidolonAdmin.Bootstrap.NetworkManager
import EidolonAdmin.Bootstrap.NetworkAgreement
import EidolonAdmin.Bootstrap.EpochFencing
import EidolonAdmin.Bootstrap.LanChallenges
import EidolonAdmin.Bootstrap.CommissioningProtocol
import EidolonAdmin.Bootstrap.ProtocolAuthorization
import EidolonAdmin.Bootstrap.Migration
import EidolonAdmin.Bootstrap.InterruptedMigration
import EidolonAdmin.Bootstrap.StoredRows
import EidolonAdmin.Bootstrap.Refusals
import EidolonAdmin.Bootstrap.AdapterEquivalence
import EidolonAdmin.Bootstrap.CanonicalBase64
import EidolonAdmin.Bootstrap.TlsSession
import EidolonAdmin.Bootstrap.LinkFraming
import EidolonAdmin.Bootstrap.Endpoint
import EidolonAdmin.Audit.Index
import EidolonAdmin.Audit.Tail
import EidolonAdmin.Audit.Indexer
import EidolonAdmin.Removal.Contracts
import EidolonAdmin.Removal.Ledger
import EidolonAdmin.Removal.IntentStores
import EidolonAdmin.Removal.LedgerMigration
import EidolonAdmin.Removal.LedgerReopening
import EidolonAdmin.Removal.Workflow
import EidolonAdmin.Removal.Submission
import EidolonAdmin.Removal.Mounts
import EidolonAdmin.Removal.Capability
import EidolonAdmin.Removal.Brokered
import EidolonAdmin.Removal.Delegation
import EidolonAdmin.Removal.ConcurrentRemovals
import EidolonAdmin.LifecycleWorkflow.Messages
import EidolonAdmin.LifecycleWorkflow.Frames
import EidolonAdmin.ControlPlane.Errors
import EidolonAdmin.ControlPlane.Http
import EidolonAdmin.ControlPlane.Clients
import EidolonAdmin.ControlPlane.Reporting
import EidolonAdmin.Admission.DecisionLedger
import EidolonAdmin.Admission.DecisionWorkflow
import EidolonAdmin.Admission.DecisionReplay
import EidolonAdmin.Admission.CommissioningStanding
import EidolonAdmin.LocalApi.ControllerRevocation
import EidolonAdmin.LocalApi.ControllerSessions
import EidolonAdmin.LocalApi.DeviceInventory
import EidolonAdmin.Management.CompanionLifecycle
import EidolonAdmin.Management.OperatorAdmission
import EidolonAdmin.Management.RequestIds
import EidolonAdmin.Tools.SerialPorts
import EidolonAdmin.Tools.Cancellation
import EidolonAdmin.Tools.LogStreams
import EidolonAdmin.Tools.NvsBackups
import EidolonAdmin.Tools.StreamFrames
import EidolonAdmin.Tools.MobileJobs
import EidolonAdmin.Gateway.Relay
import EidolonAdmin.Gateway.Forwarding
import EidolonAdmin.Web.MissionControlStream
import EidolonAdmin.MissionControl.Schemas
import EidolonAdmin.MissionControl.Activities
import EidolonAdmin.MissionControl.Lanes
import EidolonAdmin.MissionControl.OwnerRuntime
import EidolonAdmin.MissionControl.Devices
import EidolonAdmin.MissionControl.Turns
import EidolonAdmin.MissionControl.TurnConservation
import EidolonAdmin.MissionControl.ActivityHistory
import EidolonAdmin.MissionControl.StageLatencies
import EidolonAdmin.MissionControl.Redaction
import EidolonAdmin.Configs.Backups
import EidolonAdmin.SystemHealth.Auditor
