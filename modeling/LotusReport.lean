import LotusReport.Aggregation.Allocation
import LotusReport.Allocation.Buckets
import LotusReport.Allocation.Coverage
import LotusReport.Allocation.Disclosure
import LotusReport.Allocation.Presentation
import LotusReport.Allocation.Retained
import LotusReport.Allocation.Source
import LotusReport.Batch.ActiveCap
import LotusReport.Batch.Changes
import LotusReport.Batch.Creation
import LotusReport.Batch.Dispatch
import LotusReport.Batch.Execution
import LotusReport.Batch.FinalItems
import LotusReport.Batch.ItemKeys
import LotusReport.Batch.Ledger
import LotusReport.Batch.Lifecycle
import LotusReport.Batch.OneJob
import LotusReport.Batch.Reported
import LotusReport.Batch.Runnable
import LotusReport.Batch.Selector
import LotusReport.Batch.Settled
import LotusReport.Batch.Tenancy
import LotusReport.Caller
import LotusReport.Composite.Authority
import LotusReport.Composite.BoundReads
import LotusReport.Composite.Capture
import LotusReport.Composite.Documents
import LotusReport.Composite.Eligibility.Admission
import LotusReport.Composite.Eligibility.CompleteProjection
import LotusReport.Composite.Eligibility.Contract
import LotusReport.Composite.Eligibility.Corrections
import LotusReport.Composite.Eligibility.Lineage
import LotusReport.Composite.Eligibility.MembershipDocument
import LotusReport.Composite.Eligibility.Source
import LotusReport.Composite.Horizon
import LotusReport.Composite.Payloads
import LotusReport.Composite.Request
import LotusReport.Composite.Selection
import LotusReport.Composite.Tables.Contract
import LotusReport.Composite.Tables.Display
import LotusReport.Composite.Tables.MethodOrder
import LotusReport.Composite.Tables.Months
import LotusReport.Composite.Tables.PairIndex
import LotusReport.Composite.Tables.Pooled
import LotusReport.Composite.Tables.SourceContext
import LotusReport.Composite.Tables.Workbook
import LotusReport.Corrections.ArchiveLineage
import LotusReport.Corrections.Attempts
import LotusReport.Corrections.Calls
import LotusReport.Corrections.Linkage
import LotusReport.Corrections.OneCorrection
import LotusReport.Corrections.OutstandingPairs
import LotusReport.Corrections.Services
import LotusReport.Decimals.Arithmetic
import LotusReport.Decimals.HalfEven
import LotusReport.Decimals.Quotient
import LotusReport.Decimals.Special
import LotusReport.Encoding.Calendar
import LotusReport.Encoding.Date
import LotusReport.Encoding.DateTime
import LotusReport.Encoding.DayCount
import LotusReport.Encoding.Days
import LotusReport.Encoding.Disclosure
import LotusReport.Encoding.Equality
import LotusReport.Encoding.Fields
import LotusReport.Encoding.InstantTexts
import LotusReport.Encoding.Json
import LotusReport.Encoding.Leaves
import LotusReport.Encoding.Lines
import LotusReport.Encoding.Runtime
import LotusReport.Encoding.Schema
import LotusReport.Encoding.Separators
import LotusReport.Encoding.Spaced
import LotusReport.Encoding.Text
import LotusReport.Encoding.Timestamp
import LotusReport.Encoding.Updates
import LotusReport.Encoding.Validation
import LotusReport.Encoding.Written
import LotusReport.Fallible.Checks
import LotusReport.Identity.CaptureBinding
import LotusReport.Identity.JobSeries
import LotusReport.Identity.Revision
import LotusReport.Identity.SeriesKey
import LotusReport.Intake.Attribution
import LotusReport.Intake.Idempotency
import LotusReport.Intake.Ledger
import LotusReport.Intake.Transfer
import LotusReport.Jobs.Admission
import LotusReport.Jobs.Budget
import LotusReport.Jobs.Calls
import LotusReport.Jobs.ClientIdentity
import LotusReport.Jobs.Create
import LotusReport.Jobs.Custody
import LotusReport.Jobs.CustodyPorts
import LotusReport.Jobs.CustodyProtection
import LotusReport.Jobs.DispatchBudget
import LotusReport.Jobs.DocumentContract
import LotusReport.Jobs.EventContract
import LotusReport.Jobs.Execution
import LotusReport.Jobs.Fencing
import LotusReport.Jobs.FileStep
import LotusReport.Jobs.History
import LotusReport.Jobs.Idempotency
import LotusReport.Jobs.JobFile
import LotusReport.Jobs.KeyedEvents
import LotusReport.Jobs.Leases
import LotusReport.Jobs.Lifecycle
import LotusReport.Jobs.Listing
import LotusReport.Jobs.OpenOutcomes
import LotusReport.Jobs.Produced
import LotusReport.Jobs.Refinement
import LotusReport.Jobs.ReplayLineage
import LotusReport.Jobs.Requests
import LotusReport.Jobs.Retention
import LotusReport.Jobs.Schema
import LotusReport.Jobs.Settlement
import LotusReport.Jobs.Store
import LotusReport.Jobs.StoredTimestamps
import LotusReport.Jobs.Transitions
import LotusReport.Jobs.WorkQueue
import LotusReport.Jobs.Worker
import LotusReport.Lineage.Chain
import LotusReport.Memory.EventTime
import LotusReport.Memory.PortfolioMemoryEvents
import LotusReport.Operations.Attention
import LotusReport.Persistence.ConnectionLeases
import LotusReport.Persistence.ConnectionProvider
import LotusReport.Persistence.Migrations
import LotusReport.Persistence.SqlSplitter
import LotusReport.Persistence.SqlTokens
import LotusReport.Relational.Dictionary
import LotusReport.Relational.Forest
import LotusReport.Relational.Intervals
import LotusReport.Relational.Kept
import LotusReport.Relational.Query
import LotusReport.Relational.Ranking
import LotusReport.Relational.Summaries
import LotusReport.Relational.Table
import LotusReport.Rendering.AttributionBridge
import LotusReport.Rendering.ContributionRanking
import LotusReport.Rendering.EarningsBlocks
import LotusReport.Rendering.Figures
import LotusReport.Rendering.PublishedFigures
import LotusReport.Replay.Calls
import LotusReport.Replay.ClonedLineage
import LotusReport.Replay.DerivedKeys
import LotusReport.Replay.OneRecovery
import LotusReport.Replay.Services
import LotusReport.Schedules.AuditTrail
import LotusReport.Schedules.Definitions
import LotusReport.Schedules.OneCycle
import LotusReport.Schedules.OwedPeriods
import LotusReport.Schedules.Scheduler
import LotusReport.Snapshots.Store
import LotusReport.Snapshots.WriteOnce
import LotusReport.StateMachine.Labels
import LotusReport.StateMachine.Program
import LotusReport.StateMachine.Run
import LotusReport.Transactions.EarningsStatement
import LotusReport.Transactions.MergedEvidence
import LotusReport.Transactions.Paging
import LotusReport.Transactions.Window
