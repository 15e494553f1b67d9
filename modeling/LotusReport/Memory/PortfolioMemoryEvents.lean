import LotusReport.Encoding.DateTime
import LotusReport.Jobs.JobFile
import LotusReport.Snapshots.Store

/-!
# Portfolio-memory events

`build_report_portfolio_memory_events` presents the status events of a job to
the portfolio memory. It runs at the time of the read, on the stored status
events, the current record of the job and the snapshot stored for it.
-/

namespace LotusReport.Memory

open Encoding Jobs Snapshots

section Records

/-- `ReportStatusEvent`: a stored event with its identifier. -/
structure StatusEvent where
  statusEventId : String
  row : EventRow

/-- `ReportPortfolioMemorySourceRef`. -/
structure SourceRef where
  sourceSystem : String
  sourceType : String
  sourceId : String
  contentHash : Option String
deriving DecidableEq, Repr

/-- `ReportPortfolioMemoryArtifactRef`. -/
structure ArtifactRef where
  artifactSystem : String
  artifactType : String
  artifactId : String
  contentHash : Option String
deriving DecidableEq, Repr

/-- `ReportPortfolioMemorySupportabilityState`. -/
inductive SupportabilityState where
  | ready
  | degraded
  | pendingReview
  | empty
deriving DecidableEq, Repr

/-- The name of a supportability state on the wire. -/
def SupportabilityState.text : SupportabilityState → String
  | ready => "READY"
  | degraded => "DEGRADED"
  | pendingReview => "PENDING_REVIEW"
  | empty => "EMPTY"

/-- `ReportPortfolioMemoryEvent`. -/
structure MemoryEvent where
  eventId : String
  eventIdentity : String
  eventType : String
  eventTime : Instant
  actor : String
  sourceSystem : String
  sourceType : String
  sourceId : String
  portfolioId : Option String
  reportJobId : String
  reportType : String
  status : ReportJobStatus
  supportabilityState : SupportabilityState
  summary : String
  reasonCodes : List String
  sourceRefs : List SourceRef
  artifactRefs : List ArtifactRef
  contentHash : String
  metadata : List (String × String)
deriving DecidableEq

/-- `ReportPortfolioMemoryGovernancePolicy`. -/
structure GovernancePolicy where
  eventIdentityScheme : String :=
    "source_system:source_type:source_id:content_hash_or_content_hash_unavailable"
  retentionPolicy : String := "DPM_PORTFOLIO_MEMORY_SOURCE_LINEAGE_7Y"
  redactionPolicy : String := "NO_RAW_PAYLOADS"
  auditPolicy : String := "AUDIT_READ_AND_EXPORT"
  accessClassification : String := "CLIENT_CONFIDENTIAL_INTERNAL"
deriving DecidableEq, Repr

/-- `ReportPortfolioMemoryEventsResponse`. -/
structure MemoryEventsResponse where
  reportJobId : String
  portfolioId : Option String
  reportType : String
  eventCount : Nat
  supportabilityState : SupportabilityState
  sourceSystems : List String
  reasonCodes : List String
  governancePolicy : GovernancePolicy
  contentHash : String
  generatedAt : Instant
  events : List MemoryEvent

end Records

section Builder

variable (py : Runtime) (record : JobFile) (event : StatusEvent) (snapshot : Option SnapshotRow)

/-- `_hash_payload`. -/
def hashPayload (payload : Fields) : String := "sha256:" ++ py.digest (.obj payload)

/-- `_primary_portfolio_id`. -/
def primaryPortfolioId : Option String :=
  match Json.lookup record.job.portfolioScope "portfolio_ids" with
  | some (.arr (first :: _)) => some (pyStr py first)
  | _ => none

/-- `_SNAPSHOT_BEARING_STATUSES`. -/
def snapshotBearingStatuses : List ReportJobStatus :=
  [.dataReady, .rendering, .completed, .completedWithWarnings, .archiving, .archived, .failed,
    .cancelled]

/-- `_snapshot_existed_at`. -/
def snapshotExistedAt (row : EventRow) (snapshot : SnapshotRow) : Bool :=
  decide (snapshot.createdAt.instant ≤ row.createdAt.instant) ||
    decide (row.toStatus ∈ snapshotBearingStatuses)

/-- `REPORT_EVENT_TYPE_BY_LEDGER_EVENT`. -/
def reportEventTypeByLedgerEvent : List (String × String) :=
  [ ("job_accepted", "REPORT_JOB_ACCEPTED"),
    ("job_collecting_data", "REPORT_DATA_COLLECTION_STARTED"),
    ("job_data_ready", "REPORT_SNAPSHOT_CAPTURED"),
    ("job_rendering", "REPORT_RENDER_STARTED"),
    ("job_completed", "REPORT_RENDER_COMPLETED"),
    ("job_archiving", "REPORT_ARCHIVE_HANDOFF_STARTED"),
    ("job_archived", "REPORT_ARCHIVED"),
    ("job_failed", "REPORT_JOB_FAILED"),
    ("job_cancelled", "REPORT_JOB_CANCELLED"),
    ("job_rerender_requested", "REPORT_RERENDER_REQUESTED"),
    ("job_rerender_archived", "REPORT_RERENDER_ARCHIVED"),
    ("job_rerender_failed", "REPORT_RERENDER_FAILED"),
    ("job_regenerate_requested", "REPORT_REGENERATE_REQUESTED"),
    ("job_regenerate_created", "REPORT_REGENERATE_CREATED"),
    ("job_regenerate_failed", "REPORT_REGENERATE_FAILED"),
    ("job_replay_requested", "REPORT_REPLAY_REQUESTED"),
    ("job_replay_created", "REPORT_REPLAY_CREATED"),
    ("job_replay_failed", "REPORT_REPLAY_FAILED") ]

/-- The reported type of a stored event. -/
def reportEventType (row : EventRow) : String :=
  (reportEventTypeByLedgerEvent.lookup row.eventType).getD "REPORT_LIFECYCLE_EVENT"

/-- `text.replace("_", " ").title()` of a text of Latin capitals. -/
def titled (text : String) : String :=
  " ".intercalate ((text.splitToList (· == '_')).map fun word =>
    match word.toList with
    | [] => ""
    | first :: rest => String.ofList (first :: rest.map Char.toLower))

/-- `_event_supportability`. -/
def eventSupportability (row : EventRow) : SupportabilityState :=
  if row.toStatus ∈ [ReportJobStatus.dataReady, .completed, .archived] then .ready
  else if row.toStatus ∈ [ReportJobStatus.failed, .cancelled, .completedWithWarnings] then .degraded
  else .pendingReview

/-- `_event_summary`. -/
def eventSummary (eventType : String) : String :=
  match event.row.message with
  | some message => if message = "" then titled eventType ++ " for " ++ record.job.reportType ++ "."
      else message
  | none => titled eventType ++ " for " ++ record.job.reportType ++ "."

/-- The payload whose hash identifies the event: facts that are fixed when it is written. -/
def safePayload : Fields :=
  [ ("identity_preimage_version", .str "eip2"),
    ("report_job_id", .str record.job.reportJobId),
    ("report_type", .str record.job.reportType),
    ("status_event_id", .str event.statusEventId),
    ("event_type", .str event.row.eventType),
    ("status", .str event.row.toStatus.text),
    ("portfolio_id", .ofText? (primaryPortfolioId py record)),
    ("created_at", .str (isoText event.row.createdAt.instant)) ]

/-- The references to the job and to the status event. -/
def ownRefs : List SourceRef :=
  [ { sourceSystem := "lotus-report"
      sourceType := "REPORT_JOB"
      sourceId := record.job.reportJobId
      contentHash := some ("sha256:" ++ record.request.requestHash) },
    { sourceSystem := "lotus-report"
      sourceType := "REPORT_STATUS_EVENT"
      sourceId := event.statusEventId
      contentHash := some (hashPayload py
        [ ("status_event_id", .str event.statusEventId),
          ("event_type", .str event.row.eventType),
          ("to_status", .str event.row.toStatus.text),
          ("created_at", .str (isoText event.row.createdAt.instant)) ]) } ]

/-- The references to a snapshot and to the revision it presents. -/
def snapshotRefs (snapshot : SnapshotRow) : List SourceRef :=
  { sourceSystem := "lotus-report"
    sourceType := "REPORT_INPUT_SNAPSHOT"
    sourceId := snapshot.snapshotId
    contentHash := some snapshot.snapshotHash } ::
  match snapshot.reportRevisionId with
  | some revisionId =>
      if revisionId = "" then []
      else
        [{ sourceSystem := "lotus-report"
           sourceType := "REPORT_REVISION"
           sourceId := revisionId
           contentHash := snapshot.factualContentDigest }]
  | none => []

/-- `_source_refs`. -/
def sourceRefs : List SourceRef :=
  match snapshot with
  | some snapshot =>
      if snapshotExistedAt event.row snapshot then
        ownRefs py record event ++ snapshotRefs snapshot
      else ownRefs py record event
  | none => ownRefs py record event

/-- The reference to the render job of the record. -/
def renderRef (job : JobRow) : List ArtifactRef :=
  match job.render.jobId with
  | some renderJobId =>
      if renderJobId = "" then []
      else
        [{ artifactSystem := "lotus-render"
           artifactType := "RENDERED_REPORT_ARTIFACT"
           artifactId := renderJobId
           contentHash := job.render.artifactSha256 }]
  | none => []

/-- The reference to the archived document of the record. -/
def documentRef (job : JobRow) : List ArtifactRef :=
  match job.archiveDocumentId with
  | some documentId =>
      if documentId = "" then []
      else
        [{ artifactSystem := "lotus-archive"
           artifactType := "ARCHIVED_REPORT_DOCUMENT"
           artifactId := documentId
           contentHash := job.render.artifactSha256 }]
  | none => []

/-- `_artifact_refs`. -/
def artifactRefs : List ArtifactRef :=
  (if event.row.toStatus ∈ [ReportJobStatus.completed, .archiving, .archived] then
    renderRef record.job else []) ++
  (if event.row.toStatus = .archived then documentRef record.job else [])

/-- `_build_event`. -/
def buildEvent : MemoryEvent :=
  let eventType := reportEventType event.row
  let contentHash := hashPayload py (safePayload py record event)
  { eventId := "report-memory:" ++ record.job.reportJobId ++ ":" ++ event.statusEventId
    eventIdentity := "lotus-report:REPORT_STATUS_EVENT:" ++ event.statusEventId ++ ":" ++ contentHash
    eventType := eventType
    eventTime := event.row.createdAt.instant
    actor := event.row.actor
    sourceSystem := "lotus-report"
    sourceType := "REPORT_STATUS_EVENT"
    sourceId := event.statusEventId
    portfolioId := primaryPortfolioId py record
    reportJobId := record.job.reportJobId
    reportType := record.job.reportType
    status := event.row.toStatus
    supportabilityState := eventSupportability event.row
    summary := eventSummary record event eventType
    reasonCodes := [eventType]
    sourceRefs := sourceRefs py record event snapshot
    artifactRefs := artifactRefs record event
    contentHash := contentHash
    metadata :=
      [ ("correlation_id", event.row.correlationId),
        ("trace_id", event.row.traceId),
        ("report_request_id", record.request.reportRequestId),
        ("idempotency_key", record.request.idempotencyKey) ] }

/-- `_aggregate_supportability`. -/
def aggregateSupportability (events : List MemoryEvent) : SupportabilityState :=
  let states := events.map (·.supportabilityState)
  if events.isEmpty then .empty
  else if .degraded ∈ states then .degraded
  else if .pendingReview ∈ states ∧ .ready ∉ states then .pendingReview
  else .ready

/-- `_response_reason_code`. -/
def responseReasonCode : SupportabilityState → String
  | .ready => "REPORT_EVENT_FAMILY_READY"
  | .degraded => "REPORT_EVENT_FAMILY_DEGRADED"
  | .empty => "REPORT_EVENT_FAMILY_EMPTY"
  | .pendingReview => "REPORT_EVENT_FAMILY_PENDING_REVIEW"

/-- `build_report_portfolio_memory_events`. -/
def buildReportPortfolioMemoryEvents (statusEvents : List StatusEvent) (generatedAt : Instant) :
    MemoryEventsResponse :=
  let events := statusEvents.map fun event => buildEvent py record event snapshot
  let state := aggregateSupportability events
  { reportJobId := record.job.reportJobId
    portfolioId := primaryPortfolioId py record
    reportType := record.job.reportType
    eventCount := events.length
    supportabilityState := state
    sourceSystems := ["lotus-report"]
    reasonCodes := [responseReasonCode state]
    governancePolicy := {}
    contentHash := hashPayload py
      [ ("report_job_id", .str record.job.reportJobId),
        ("event_hashes", .arr (events.map fun event => .str event.contentHash)),
        ("supportability_state", .str state.text) ]
    generatedAt := generatedAt
    events := events }

example : titled "REPORT_LIFECYCLE_EVENT" = "Report Lifecycle Event" := by decide +kernel

end Builder

end LotusReport.Memory
