import LotusReport.Encoding.Runtime
import LotusReport.Encoding.Timestamp
import LotusReport.Relational.Table
import LotusReport.StateMachine.Program

/-!
# The store of report input snapshots

`ReportInputSnapshotStore` keeps one snapshot for each report job and the
upstream calls behind it. Its connections open a transaction at the first
write only: the queries of a call before that write each see the latest
committed tables, and from that write on the call runs alone until it commits
or is rolled back. A call is therefore a program of queries with at most one
transaction at its end.
-/

namespace LotusReport.Snapshots

open Encoding Relational StateMachine

/-- `SnapshotPosture`. -/
inductive SnapshotPosture where
  | complete
  | partially
  | unavailable
  | notSupported
  | redacted
  | error
deriving DecidableEq, Repr

/-- `UpstreamFailureCategory`. -/
inductive UpstreamFailureCategory where
  | none
  | partialData
  | unsupportedInput
  | upstreamUnavailable
  | upstreamError
  | timeout
  | redacted
deriving DecidableEq, Repr

/-- `ReportInputSnapshotCreateRequest`. -/
structure ReportInputSnapshotCreateRequest where
  reportJobId : String
  reportType : String
  reportDataContractVersion : String
  portfolioScope : Fields
  asOfDate : String
  snapshotPayload : Fields
  snapshotStorageRef : Option String := none
  reportRevisionId : Option String := none
  seriesDigest : Option String := none
  sourceRevisionDigest : Option String := none
  factualContentDigest : Option String := none
  factualBoundaryVersion : Option String := none
  sourceRevisionVector : Option Fields := none
  sourceCutCoherence : Option Fields := none
  lifecycle : Option Fields := none
  supportabilityStatus : SnapshotPosture
  completenessStatus : SnapshotPosture
  lineageSummary : Fields
  capturedAt : Instant
  correlationId : String
  traceId : String

/-- `ReportUpstreamCallCreateRequest`. -/
structure ReportUpstreamCallCreateRequest where
  serviceName : String
  endpoint : String
  method : String
  contractVersion : String
  requestHash : String
  responseHash : Option String := none
  responseRef : Option String := none
  statusCode : Int
  latencyMs : Int
  supportabilityStatus : SnapshotPosture
  completenessStatus : SnapshotPosture
  failureCategory : UpstreamFailureCategory
  failureMessage : Option String := none
  correlationId : String
  traceId : String
  capturedAt : Instant
deriving DecidableEq

/-- The lineage metadata of a snapshot: the columns that a repair rewrites. -/
structure LineageMetadata where
  supportabilityStatus : SnapshotPosture
  completenessStatus : SnapshotPosture
  lineageSummaryJson : String
deriving DecidableEq, Repr

/-- A row of `report_input_snapshot`. -/
structure SnapshotRow where
  snapshotId : String
  reportJobId : String
  reportType : String
  reportDataContractVersion : String
  portfolioScopeJson : String
  asOfDate : String
  snapshotPayloadJson : String
  snapshotHash : String
  snapshotStorageRef : Option String
  reportRevisionId : Option String
  seriesDigest : Option String
  sourceRevisionDigest : Option String
  factualContentDigest : Option String
  factualBoundaryVersion : Option String
  sourceRevisionVectorJson : Option String
  sourceCutCoherenceJson : Option String
  lifecycleJson : Option String
  lineage : LineageMetadata
  capturedAt : Timestamp
  createdAt : Timestamp
  correlationId : String
  traceId : String
deriving DecidableEq

/-- A row of `report_upstream_call`: the call as it was requested, under its own identifier. -/
structure UpstreamCallRow where
  upstreamCallId : String
  snapshotId : String
  call : ReportUpstreamCallCreateRequest
  createdAt : Timestamp
deriving DecidableEq

/-- `ReportInputSnapshotStore`. -/
structure SnapshotStore where
  snapshots : Table SnapshotRow.snapshotId SnapshotRow.reportJobId
  calls : Table UpstreamCallRow.upstreamCallId UpstreamCallRow.upstreamCallId

/-- The store before any call. -/
def SnapshotStore.empty : SnapshotStore := ⟨.empty, .empty⟩

/-- The exceptions of the store. -/
inductive SnapshotError where
  | alreadyCaptured (detail : String)
  | notFound (detail : String)
  | lineageConflict (detail : String)
  | integrityError
  | assertionError
deriving DecidableEq, Repr

section Values

/-- `compute_snapshot_hash`. -/
def computeSnapshotHash (py : Runtime) (snapshotPayload : Fields) : String :=
  "sha256:" ++ py.digest (.obj snapshotPayload)

/-- The lineage metadata that a request writes. -/
def ReportInputSnapshotCreateRequest.lineage (request : ReportInputSnapshotCreateRequest) :
    LineageMetadata :=
  ⟨request.supportabilityStatus, request.completenessStatus,
    Json.canonicalJson (.obj request.lineageSummary)⟩

/-- The row that a request inserts. -/
def ReportInputSnapshotCreateRequest.row (request : ReportInputSnapshotCreateRequest)
    (py : Runtime) (snapshotId : String) (now : Instant) : SnapshotRow where
  snapshotId := snapshotId
  reportJobId := request.reportJobId
  reportType := request.reportType
  reportDataContractVersion := request.reportDataContractVersion
  portfolioScopeJson := Json.canonicalJson (.obj request.portfolioScope)
  asOfDate := request.asOfDate
  snapshotPayloadJson := Json.canonicalJson (.obj request.snapshotPayload)
  snapshotHash := computeSnapshotHash py request.snapshotPayload
  snapshotStorageRef := request.snapshotStorageRef
  reportRevisionId := request.reportRevisionId
  seriesDigest := request.seriesDigest
  sourceRevisionDigest := request.sourceRevisionDigest
  factualContentDigest := request.factualContentDigest
  factualBoundaryVersion := request.factualBoundaryVersion
  sourceRevisionVectorJson := request.sourceRevisionVector.map fun v => Json.canonicalJson (.obj v)
  sourceCutCoherenceJson := request.sourceCutCoherence.map fun c => Json.canonicalJson (.obj c)
  lifecycleJson := request.lifecycle.map fun l => Json.canonicalJson (.obj l)
  lineage := request.lineage
  capturedAt := dtToText request.capturedAt
  createdAt := dtToText now
  correlationId := request.correlationId
  traceId := request.traceId

/-- `_snapshot_lineage_matches`. The summary of a stored row is read from its canonical text, so
it is written again as that text. -/
def snapshotLineageMatches (existing : SnapshotRow) (requested : ReportInputSnapshotCreateRequest) :
    Bool :=
  existing.lineage == requested.lineage

/-- The fields that `_upstream_call_signature` compares. -/
structure UpstreamCallSignature where
  serviceName : String
  endpoint : String
  method : String
  contractVersion : String
  requestHash : String
  responseHash : Option String
  responseRef : Option String
  statusCode : Int
  supportabilityStatus : SnapshotPosture
  completenessStatus : SnapshotPosture
  failureCategory : UpstreamFailureCategory
  failureMessage : Option String
  correlationId : String
  traceId : String
deriving DecidableEq, Repr

/-- `_upstream_call_signature` of a requested call. -/
def upstreamCallSignature (call : ReportUpstreamCallCreateRequest) : UpstreamCallSignature where
  serviceName := call.serviceName
  endpoint := call.endpoint
  method := call.method
  contractVersion := call.contractVersion
  requestHash := call.requestHash
  responseHash := call.responseHash
  responseRef := call.responseRef
  statusCode := call.statusCode
  supportabilityStatus := call.supportabilityStatus
  completenessStatus := call.completenessStatus
  failureCategory := call.failureCategory
  failureMessage := call.failureMessage
  correlationId := call.correlationId
  traceId := call.traceId

/-- `str(value) if value else None`. -/
def textOrNone (value : Option String) : Option String := value.filter (· ≠ "")

/-- `_upstream_call_signature` of a recorded call, as `_upstream_call_from_row` reads it. -/
def UpstreamCallRow.signature (row : UpstreamCallRow) : UpstreamCallSignature :=
  upstreamCallSignature
    { row.call with
      responseHash := textOrNone row.call.responseHash
      responseRef := textOrNone row.call.responseRef
      failureMessage := textOrNone row.call.failureMessage }

/-- `_upstream_calls_match`: the signatures agree as multisets. -/
def upstreamCallsMatch (existing : List UpstreamCallRow)
    (requested : List ReportUpstreamCallCreateRequest) : Bool :=
  (existing.map UpstreamCallRow.signature).isPerm (requested.map upstreamCallSignature)

end Values

namespace SnapshotStore

/-- `ORDER BY created_at ASC, upstream_call_id ASC`. -/
def recordedBefore (a b : UpstreamCallRow) : Bool :=
  a.createdAt.lt b.createdAt ||
    (a.createdAt == b.createdAt && decide (a.upstreamCallId ≤ b.upstreamCallId))

/-- `_list_upstream_calls`. -/
def listUpstreamCalls (s : SnapshotStore) (snapshotId : String) : List UpstreamCallRow :=
  (s.calls.rows.filter fun row => row.snapshotId == snapshotId).insertionSort
    fun a b => recordedBefore a b = true

/-- What a call writes besides its arguments: the generated identifiers and the time. -/
structure Stamp where
  snapshotId : String
  upstreamCallIds : Nat → String
  now : Instant

/-- `_insert_upstream_calls`, from a position of the list on. -/
def insertUpstreamCalls (s : SnapshotStore) (snapshotId : String) (stamp : Stamp) :
    Nat → List ReportUpstreamCallCreateRequest → Except SnapshotError SnapshotStore
  | _, [] => .ok s
  | n, call :: rest =>
      match s.calls.insert? ⟨stamp.upstreamCallIds n, snapshotId, call, dtToText stamp.now⟩ with
      | none => .error .integrityError
      | some calls => insertUpstreamCalls { s with calls := calls } snapshotId stamp (n + 1) rest

/-- `INSERT INTO report_input_snapshot`. -/
def insertSnapshot (s : SnapshotStore) (row : SnapshotRow) : Except SnapshotError SnapshotStore :=
  match s.snapshots.insert? row with
  | none => .error .integrityError
  | some snapshots => .ok { s with snapshots := snapshots }

/-- `UPDATE report_input_snapshot` with the lineage metadata of a request. -/
def updateLineage (s : SnapshotStore) (snapshotId : String) (lineage : LineageMetadata) :
    SnapshotStore :=
  { s with
    snapshots := s.snapshots.update (fun row => row.snapshotId == snapshotId)
      ⟨fun row => { row with lineage := lineage }, fun _ => rfl, fun _ => rfl⟩ }

end SnapshotStore

/-- What a call returns: the snapshot record, where it returns one, and the recorded calls. -/
structure Captured where
  snapshot : Option SnapshotRow
  upstreamCalls : List UpstreamCallRow

/-- `_get_or_create_upstream_calls` with the recorded calls that were read. -/
inductive CallsDecision where
  | conflict
  | recorded (existing : List UpstreamCallRow)
  | record

/-- The branches of `_get_or_create_upstream_calls`. -/
def decideUpstreamCalls (existing : List UpstreamCallRow)
    (calls : List ReportUpstreamCallCreateRequest) : CallsDecision :=
  if existing ≠ [] then
    if upstreamCallsMatch existing calls then .recorded existing else .conflict
  else if calls = [] then .recorded []
  else .record

/-- The refusal of `_get_or_create_upstream_calls`. -/
def callsConflict : SnapshotError := .lineageConflict "report_input_snapshot_lineage_conflict"

/-- The refusal of `create_capture` for another lineage summary. -/
def summaryConflict : SnapshotError :=
  .lineageConflict "report_input_snapshot_lineage_summary_conflict"

/-- The part of a call from its first write on. -/
inductive Transaction where
  | createSnapshot (row : SnapshotRow)
  | createCapture (row : SnapshotRow) (request : ReportInputSnapshotCreateRequest)
      (calls : List ReportUpstreamCallCreateRequest) (stamp : SnapshotStore.Stamp)
  | repairLineage (snapshotId : String) (request : ReportInputSnapshotCreateRequest)
      (calls : List ReportUpstreamCallCreateRequest) (stamp : SnapshotStore.Stamp)
  | recordCalls (snapshot : Option SnapshotRow) (snapshotId : String)
      (calls : List ReportUpstreamCallCreateRequest) (stamp : SnapshotStore.Stamp)

namespace SnapshotStore

/-- `_get_or_create_upstream_calls` inside a transaction. -/
def getOrCreateUpstreamCalls (s : SnapshotStore) (snapshotId : String)
    (calls : List ReportUpstreamCallCreateRequest) (stamp : Stamp) :
    Except SnapshotError (List UpstreamCallRow × SnapshotStore) :=
  match decideUpstreamCalls (s.listUpstreamCalls snapshotId) calls with
  | .conflict => .error callsConflict
  | .recorded existing => .ok (existing, s)
  | .record => do
      let s ← s.insertUpstreamCalls snapshotId stamp 0 calls
      return (s.listUpstreamCalls snapshotId, s)

/-- `_repair_snapshot_lineage_metadata`. -/
def repairSnapshotLineageMetadata (s : SnapshotStore) (snapshotId : String)
    (request : ReportInputSnapshotCreateRequest) :
    Except SnapshotError (SnapshotRow × SnapshotStore) :=
  let s := s.updateLineage snapshotId request.lineage
  match s.snapshots.find? snapshotId with
  | none => .error .assertionError
  | some row => .ok (row, s)

/-- The repair that `create_capture` makes of the snapshot it has read or written. -/
def completeCapture (s : SnapshotStore) (row : SnapshotRow)
    (request : ReportInputSnapshotCreateRequest) (calls : List ReportUpstreamCallCreateRequest) :
    Except SnapshotError (SnapshotRow × SnapshotStore) :=
  if s.listUpstreamCalls row.snapshotId ≠ [] ∧ snapshotLineageMatches row request = false then
    .error summaryConflict
  else if s.listUpstreamCalls row.snapshotId = [] ∧ calls ≠ [] ∧
      snapshotLineageMatches row request = false then
    s.repairSnapshotLineageMetadata row.snapshotId request
  else .ok (row, s)

end SnapshotStore

/-- The writes of a transaction. -/
def Transaction.body (s : SnapshotStore) :
    Transaction → Except SnapshotError (Captured × SnapshotStore)
  | createSnapshot row => do
      let s ← s.insertSnapshot row
      return (⟨some row, []⟩, s)
  | createCapture row request calls stamp => do
      let s ← s.insertSnapshot row
      let (row, s) ← s.completeCapture row request calls
      let (recorded, s) ← s.getOrCreateUpstreamCalls row.snapshotId calls stamp
      return (⟨some row, recorded⟩, s)
  | repairLineage snapshotId request calls stamp => do
      let (row, s) ← s.repairSnapshotLineageMetadata snapshotId request
      let (recorded, s) ← s.getOrCreateUpstreamCalls snapshotId calls stamp
      return (⟨some row, recorded⟩, s)
  | recordCalls snapshot snapshotId calls stamp => do
      let s ← s.insertUpstreamCalls snapshotId stamp 0 calls
      return (⟨snapshot, s.listUpstreamCalls snapshotId⟩, s)

/-- The queries and transactions of the store. -/
inductive StoreOp where
  | selectByJob (reportJobId : String)
  | selectById (snapshotId : String)
  | listUpstreamCalls (snapshotId : String)
  | transaction (body : Transaction)

/-- What a query or a transaction answers. -/
abbrev StoreOp.Result : StoreOp → Type
  | selectByJob _ => Option SnapshotRow
  | selectById _ => Option SnapshotRow
  | listUpstreamCalls _ => List UpstreamCallRow
  | transaction _ => Except SnapshotError Captured

/-- One query, or one transaction; a transaction that raises is rolled back. -/
def perform (s : SnapshotStore) : (op : StoreOp) → SnapshotStore × op.Result
  | .selectByJob reportJobId => (s, s.snapshots.lookup? reportJobId)
  | .selectById snapshotId => (s, s.snapshots.find? snapshotId)
  | .listUpstreamCalls snapshotId => (s, s.listUpstreamCalls snapshotId)
  | .transaction body =>
      match body.body s with
      | .ok (captured, s') => (s', .ok captured)
      | .error error => (s, .error error)

/-- A call under way. -/
abbrev StoreProgram := Program StoreOp StoreOp.Result (Except SnapshotError Captured)

section Calls

/-- `_get_or_create_upstream_calls` before any write of the call. -/
def getOrCreateUpstreamCalls (snapshot : Option SnapshotRow) (snapshotId : String)
    (calls : List ReportUpstreamCallCreateRequest) (stamp : SnapshotStore.Stamp) : StoreProgram :=
  .call (.listUpstreamCalls snapshotId) fun existing =>
    match decideUpstreamCalls existing calls with
    | .conflict => .done (.error callsConflict)
    | .recorded existing => .done (.ok ⟨snapshot, existing⟩)
    | .record => .call (.transaction (.recordCalls snapshot snapshotId calls stamp)) .done

/-- `_get_or_create_snapshot`: with a snapshot of the job, only under its hash. -/
def getOrCreateSnapshot (py : Runtime) (request : ReportInputSnapshotCreateRequest)
    (missing : StoreProgram) (found : SnapshotRow → StoreProgram) : StoreProgram :=
  .call (.selectByJob request.reportJobId) fun
    | some row =>
        if row.snapshotHash = computeSnapshotHash py request.snapshotPayload then found row
        else .done (.error (.alreadyCaptured "report_input_snapshot_already_captured"))
    | none => missing

/-- `create_snapshot`. -/
def createSnapshot (py : Runtime) (request : ReportInputSnapshotCreateRequest)
    (stamp : SnapshotStore.Stamp) : StoreProgram :=
  getOrCreateSnapshot py request
    (.call (.transaction (.createSnapshot (request.row py stamp.snapshotId stamp.now))) .done)
    fun row => .done (.ok ⟨some row, []⟩)

/-- `create_capture` for a job whose snapshot exists. -/
def completeCapture (row : SnapshotRow) (request : ReportInputSnapshotCreateRequest)
    (calls : List ReportUpstreamCallCreateRequest) (stamp : SnapshotStore.Stamp) : StoreProgram :=
  .call (.listUpstreamCalls row.snapshotId) fun existingCalls =>
    if existingCalls ≠ [] ∧ snapshotLineageMatches row request = false then
      .done (.error summaryConflict)
    else if existingCalls = [] ∧ calls ≠ [] ∧ snapshotLineageMatches row request = false then
      .call (.transaction (.repairLineage row.snapshotId request calls stamp)) .done
    else getOrCreateUpstreamCalls (some row) row.snapshotId calls stamp

/-- `create_capture`. -/
def createCapture (py : Runtime) (request : ReportInputSnapshotCreateRequest)
    (calls : List ReportUpstreamCallCreateRequest) (stamp : SnapshotStore.Stamp) : StoreProgram :=
  getOrCreateSnapshot py request
    (.call (.transaction (.createCapture (request.row py stamp.snapshotId stamp.now) request calls
      stamp)) .done)
    fun row => completeCapture row request calls stamp

/-- `create_upstream_calls`. -/
def createUpstreamCalls (snapshotId : String) (calls : List ReportUpstreamCallCreateRequest)
    (stamp : SnapshotStore.Stamp) : StoreProgram :=
  if calls = [] then .done (.ok ⟨none, []⟩)
  else
    .call (.selectById snapshotId) fun
      | none => .done (.error (.notFound "report_input_snapshot_not_found"))
      | some _ => getOrCreateUpstreamCalls none snapshotId calls stamp

/-- The calls on the store. -/
inductive StoreCall where
  | createSnapshot (request : ReportInputSnapshotCreateRequest) (stamp : SnapshotStore.Stamp)
  | createCapture (snapshot : ReportInputSnapshotCreateRequest)
      (upstreamCalls : List ReportUpstreamCallCreateRequest) (stamp : SnapshotStore.Stamp)
  | createUpstreamCalls (snapshotId : String) (calls : List ReportUpstreamCallCreateRequest)
      (stamp : SnapshotStore.Stamp)

/-- The program of a call. -/
def StoreCall.program (py : Runtime) : StoreCall → StoreProgram
  | createSnapshot request stamp => Snapshots.createSnapshot py request stamp
  | createCapture snapshot upstreamCalls stamp =>
      Snapshots.createCapture py snapshot upstreamCalls stamp
  | createUpstreamCalls snapshotId calls stamp =>
      Snapshots.createUpstreamCalls snapshotId calls stamp

/-- The store with the calls under way. -/
abbrev SnapshotSystem := System SnapshotStore StoreOp StoreOp.Result (Except SnapshotError Captured)

/-- One step of the system: a call starts, or one of the calls makes its next query or its
transaction. -/
def systemStep (py : Runtime) : SnapshotSystem → Event StoreCall → SnapshotSystem :=
  System.step perform (StoreCall.program py)

/-- The system after a run of events from the empty store. -/
def systemRun (py : Runtime) (events : List (Event StoreCall)) : SnapshotSystem :=
  run (systemStep py) (System.initial .empty) events

end Calls

end LotusReport.Snapshots
