import LotusReport.Batch.Lifecycle
import LotusReport.Batch.Selector
import LotusReport.Encoding.Timestamp
import LotusReport.Relational.Table
import LotusReport.StateMachine.Run

/-!
# The batch ledger

The two tables of `ReportBatchLedger` and its operations. Every operation is
one transaction: an error leaves the tables as they were. Clock readings,
generated identifiers and lease tokens are arguments.
-/

namespace LotusReport.Batch

open Encoding Relational

/-- A row of `report_batch`. -/
structure BatchRow where
  batchId : String
  selectorMode : BatchSelectorMode
  tenantId : String
  region : String
  materializedPortfolioIds : List String
  requestedOutputFormats : List String
  asOfDate : String
  reportingCurrency : Option String
  options : Json
  triggerType : TriggerType
  triggeredBy : String
  callerApplication : String
  bookingCenterCode : Option String
  role : Option String
  idempotencyKey : String
  requestHash : String
  status : BatchStatus
  itemCount : Nat
  correlationId : String
  traceId : String
  createdAt : Timestamp
  updatedAt : Option Timestamp
  startedAt : Option Timestamp := none
  completedAt : Option Timestamp := none
  cancelledAt : Option Timestamp := none
  failedAt : Option Timestamp := none
deriving DecidableEq

/-- The lease columns of an item. -/
structure ItemLease where
  owner : Option String := none
  token : Option String := none
  acquiredAt : Option Timestamp := none
  expiresAt : Option Timestamp := none
  lastHeartbeatAt : Option Timestamp := none
deriving DecidableEq

/-- A row of `report_batch_item`. -/
structure BatchItemRow where
  batchItemId : String
  batchId : String
  itemPosition : Nat
  portfolioId : String
  itemIdempotencyKey : String
  status : BatchItemStatus
  sourceSystem : String
  sourceObject : String
  createdAt : Timestamp
  reportJobId : Option String := none
  lease : ItemLease := {}
  dispatchedAt : Option Timestamp := none
  attemptCount : Nat := 0
  retryEligible : Bool := false
  nextRetryAt : Option Timestamp := none
  lastErrorCategory : Option String := none
  lastErrorSummary : Option String := none
  startedAt : Option Timestamp := none
  completedAt : Option Timestamp := none
  cancelledAt : Option Timestamp := none
deriving DecidableEq

/-- A change of item rows. -/
abbrev ItemAssignment :=
  Table.Assignment BatchItemRow.batchItemId BatchItemRow.itemIdempotencyKey

/-- The tables of the batch ledger. -/
structure BatchLedger where
  batches : Table BatchRow.batchId BatchRow.idempotencyKey
  items : Table BatchItemRow.batchItemId BatchItemRow.itemIdempotencyKey
deriving DecidableEq

/-- The ledger after `ensure_schema` on a new file. -/
def BatchLedger.empty : BatchLedger := ⟨Table.empty, Table.empty⟩

/-- The exceptions of the batch ledger. -/
inductive BatchLedgerError where
  | missingIdempotencyKey
  | idempotencyConflict
  | selector (error : BatchSelectorValidationError)
  | batchNotFound
  | itemNotFound
  | itemCannotBeReplayed
  | integrity
deriving DecidableEq, Repr

/-- The text of an exception. -/
def BatchLedgerError.code : BatchLedgerError → String
  | missingIdempotencyKey => "missing_batch_idempotency_key"
  | idempotencyConflict => "batch_idempotency_key_reused_with_different_request"
  | selector error => error.code
  | batchNotFound => "report_batch_not_found"
  | itemNotFound => "report_batch_item_not_found"
  | itemCannotBeReplayed => "report_batch_item_cannot_be_replayed"
  | integrity => "UNIQUE constraint failed"

/-- A transaction ends in an exception or in a result with the tables after it. -/
abbrev Transaction := Except BatchLedgerError

/-- `ReportBatchRecord`: a batch with its items in position order. -/
structure ReportBatchRecord where
  batch : BatchRow
  items : List BatchItemRow

/-- `BatchControlResult`. -/
structure BatchControlResult where
  batchId : String
  affectedCount : Nat
  batchStatus : BatchStatus
deriving DecidableEq, Repr

/-- `BatchRecoveryResult`. -/
structure BatchRecoveryResult where
  batchId : String
  recoveredCount : Nat
  recoveryPendingItemIds : List String
deriving DecidableEq, Repr

namespace BatchLedger

/-- The items of a batch, in storage order. -/
def itemsOf (s : BatchLedger) (batchId : String) : List BatchItemRow :=
  s.items.rows.filter fun i => i.batchId == batchId

/-- `ORDER BY item_position`. -/
def byPosition (items : List BatchItemRow) : List BatchItemRow :=
  items.insertionSort fun a b => a.itemPosition ≤ b.itemPosition

/-- `_load_batch`. -/
def loadBatch (s : BatchLedger) (batchId : String) : Transaction ReportBatchRecord :=
  match s.batches.find? batchId with
  | some batch => .ok ⟨batch, byPosition (s.itemsOf batchId)⟩
  | none => .error .batchNotFound

/-- `get_batch_item`. -/
def getBatchItem (s : BatchLedger) (batchId batchItemId : String) : Transaction BatchItemRow := do
  let _ ← s.loadBatch batchId
  match s.items.rows.find? fun i => i.batchId == batchId && i.batchItemId == batchItemId with
  | some item => .ok item
  | none => .error .itemNotFound

/-- An assignment to batch columns; batch id and idempotency key are never assigned. -/
def batchSet (status : BatchStatus) (updatedAt : Timestamp)
    (startedAt completedAt cancelledAt failedAt : Option Timestamp → Option Timestamp) :
    Table.Assignment BatchRow.batchId BatchRow.idempotencyKey where
  set b :=
    { b with
      status := status
      updatedAt := some updatedAt
      startedAt := startedAt b.startedAt
      completedAt := completedAt b.completedAt
      cancelledAt := cancelledAt b.cancelledAt
      failedAt := failedAt b.failedAt }
  key_set _ := rfl
  index_set _ := rfl

/-- `COALESCE(column, value)`. -/
def coalesce (value : Timestamp) (column : Option Timestamp) : Option Timestamp :=
  column.orElse fun _ => some value

/-- `_refresh_batch_status`: write the reconciled status, unless paused or cancelled. -/
def refreshBatchStatus (s : BatchLedger) (batchId : String) (now : Instant) : BatchLedger :=
  match reconciledBatchStatus ((s.itemsOf batchId).map (·.status)) with
  | none => s
  | some status =>
      let at_ := dtToText now
      let stamp (write : Bool) : Option Timestamp → Option Timestamp :=
        if write then coalesce at_ else id
      { s with
        batches := s.batches.update
          (fun b => b.batchId == batchId && !b.status.refreshBlocked)
          (batchSet status at_ id
            (stamp (status == .completed || status == .completedWithFailures))
            (stamp (status == .cancelled))
            (stamp (status == .failed))) }

/-- An assignment to item columns; the identity columns are never assigned. -/
def itemSet (f : BatchItemRow → BatchItemRow)
    (hid : ∀ i, (f i).batchItemId = i.batchItemId := by intro; rfl)
    (hkey : ∀ i, (f i).itemIdempotencyKey = i.itemIdempotencyKey := by intro; rfl) :
    ItemAssignment :=
  ⟨f, hid, hkey⟩

/-- `INSERT INTO report_batch_item`, with the three uniqueness constraints of the table. -/
def insertItem (s : BatchLedger) (item : BatchItemRow) : Transaction BatchLedger :=
  if s.items.rows.any fun i => i.batchId == item.batchId && i.portfolioId == item.portfolioId then
    .error .integrity
  else
    match s.items.insert? item with
    | some items => .ok { s with items := items }
    | none => .error .integrity

/-- The inserts of `create_batch`, one item for every portfolio from a position on. -/
def insertItems (normalizedKey asOfDate batchId : String) (itemId : Nat → String)
    (now : Timestamp) : Nat → List MaterializedPortfolio → BatchLedger →
    Transaction BatchLedger
  | _, [], s => .ok s
  | position, portfolio :: portfolios, s => do
      let s ← s.insertItem
        { batchItemId := itemId position
          batchId := batchId
          itemPosition := position
          portfolioId := portfolio.portfolioId
          itemIdempotencyKey := normalizedKey ++ ":" ++ asOfDate ++ ":" ++ toString position ++
            ":" ++ portfolio.portfolioId
          status := .materialized
          sourceSystem := portfolio.sourceSystem
          sourceObject := portfolio.sourceObject
          createdAt := now }
      insertItems normalizedKey asOfDate batchId itemId now (position + 1) portfolios s

end BatchLedger

/-- `compute_batch_request_hash`. -/
def computeBatchRequestHash (py : Runtime) (request : BatchCreateRequest)
    (callerContext : ReportCallerContext) (materialized : List MaterializedPortfolio) : String :=
  py.digest (.obj
    [ ("selector_mode", .str request.selectorMode.text),
      ("materialized_portfolio_ids", .ofTexts (materialized.map (·.portfolioId))),
      ("as_of_date", .str request.asOfDate),
      ("requested_output_formats", .ofTexts (sortedTexts request.requestedOutputFormats)),
      ("reporting_currency", .ofText? request.reportingCurrency),
      ("options", .obj request.options),
      ("tenant_id", .str callerContext.tenantId),
      ("region", .str callerContext.region) ])

/-- The row that a creation inserts. -/
def newBatch (py : Runtime) (request : BatchCreateRequest) (callerContext : ReportCallerContext)
    (normalizedKey batchId : String) (now : Instant) (materialized : List MaterializedPortfolio) :
    BatchRow where
  batchId := batchId
  selectorMode := request.selectorMode
  tenantId := callerContext.tenantId
  region := callerContext.region
  materializedPortfolioIds := materialized.map (·.portfolioId)
  requestedOutputFormats := sortedTexts request.requestedOutputFormats
  asOfDate := request.asOfDate
  reportingCurrency := request.reportingCurrency
  options := Json.canonical (.obj request.options)
  triggerType := callerContext.triggerType
  triggeredBy := callerContext.triggeredBy
  callerApplication := callerContext.callerApplication
  bookingCenterCode := callerContext.bookingCenterCode
  role := callerContext.role
  idempotencyKey := normalizedKey
  requestHash := computeBatchRequestHash py request callerContext materialized
  status := .materialized
  itemCount := materialized.length
  correlationId := callerContext.correlationId
  traceId := callerContext.traceId
  createdAt := dtToText now
  updatedAt := some (dtToText now)

namespace BatchLedger

/-- `create_batch`. -/
def createBatch (py : Runtime) (s : BatchLedger) (request : BatchCreateRequest)
    (callerContext : ReportCallerContext) (idempotencyKey : Option String)
    (batchId : String) (itemId : Nat → String) (now : Instant) :
    Transaction (ReportBatchRecord × BatchLedger) := do
  let normalizedKey := strip (idempotencyKey.getD "")
  if normalizedKey = "" then .error .missingIdempotencyKey
  else
    let materialized ← (materializePortfolios py request callerContext).mapError .selector
    let requestHash := computeBatchRequestHash py request callerContext materialized
    match s.batches.lookup? normalizedKey with
    | some existing =>
        if existing.requestHash ≠ requestHash then .error .idempotencyConflict
        else
          let record ← s.loadBatch existing.batchId
          return (record, s)
    | none =>
        let row := newBatch py request callerContext normalizedKey batchId now materialized
        match s.batches.insert? row with
        | none => .error .integrity
        | some batches =>
            let s' ← insertItems normalizedKey request.asOfDate batchId itemId (dtToText now) 1
              materialized { s with batches := batches }
            let record ← s'.loadBatch batchId
            return (record, s')

/-- The lease of the item has run out, by the order of the stored texts. -/
def leaseExpired (i : BatchItemRow) (now : Timestamp) : Bool :=
  i.lease.expiresAt.any fun e => e.lt now

/-- The retry time of the item has come. -/
def retryDue (i : BatchItemRow) (now : Timestamp) : Bool :=
  i.nextRetryAt.all fun t => t.le now

/-- The `WHERE` clause of `acquire_dispatch_items`. -/
def acquirable (s : BatchLedger) (batchId : String) (now : Timestamp) (i : BatchItemRow) : Bool :=
  i.batchId == batchId && i.reportJobId.isNone &&
    s.batches.rows.any (fun b => b.batchId == i.batchId && b.status.active) &&
    (i.status == .materialized || i.status == .recoveryPending ||
      (i.status == .leased && leaseExpired i now) ||
      (i.status == .failedRetryable && i.retryEligible && retryDue i now))

/-- `acquire_dispatch_items`. -/
def acquireDispatchItems (s : BatchLedger) (batchId workerId : String) (leaseSeconds limit : Int)
    (leaseToken : String) (now : Instant) : Transaction (List BatchItemRow × BatchLedger) :=
  let start := dtToText now
  let selected := (byPosition (s.items.rows.filter (s.acquirable batchId start))).take limit.toNat
  if limit < 1 || selected.isEmpty then .ok ([], s)
  else
    let ids := selected.map (·.batchItemId)
    let items := s.items.update (fun i => i.batchItemId ∈ ids)
      (itemSet fun i =>
        { i with
          status := .leased
          lease :=
            { owner := some workerId
              token := some leaseToken
              acquiredAt := some start
              expiresAt := some (dtToText (now + seconds leaseSeconds))
              lastHeartbeatAt := some start }
          startedAt := coalesce start i.startedAt })
    let batches := s.batches.update
      (fun b => b.batchId == batchId && b.status == .materialized)
      (batchSet .running start (coalesce start) id id id)
    .ok (byPosition (items.rows.filter fun i => i.batchItemId ∈ ids), ⟨batches, items⟩)

/-- The fence of the calls that hold a lease. -/
def holdsLease (batchItemId leaseToken : String) (i : BatchItemRow) : Bool :=
  i.batchItemId == batchItemId && i.lease.token == some leaseToken && i.status == .leased

/-- `UPDATE report_batch_item … WHERE …` of one item, which must be found. -/
def updateItem (s : BatchLedger) (batchItemId : String) (p : BatchItemRow → Bool)
    (a : ItemAssignment)
    (missing : BatchLedgerError) : Transaction (BatchItemRow × BatchLedger) :=
  if s.items.rows.any fun i => i.batchItemId == batchItemId && p i then
    let items := s.items.update (fun i => i.batchItemId == batchItemId && p i) a
    match items.find? batchItemId with
    | some item => .ok (item, { s with items := items })
    | none => .error missing
  else .error missing

/-- `heartbeat_item_lease`. -/
def heartbeatItemLease (s : BatchLedger) (batchItemId leaseToken : String) (leaseSeconds : Int)
    (now : Instant) : Transaction (BatchItemRow × BatchLedger) :=
  s.updateItem batchItemId (holdsLease batchItemId leaseToken)
    (itemSet fun i =>
      { i with
        lease :=
          { i.lease with
            lastHeartbeatAt := some (dtToText now)
            expiresAt := some (dtToText (now + seconds leaseSeconds)) } })
    .itemNotFound

/-- `mark_item_waiting_on_report_job`. -/
def markItemWaitingOnReportJob (s : BatchLedger) (batchItemId leaseToken reportJobId : String)
    (now : Instant) : Transaction (BatchItemRow × BatchLedger) :=
  s.updateItem batchItemId (holdsLease batchItemId leaseToken)
    (itemSet fun i =>
      { i with
        status := .waitingOnReportJob
        reportJobId := some reportJobId
        dispatchedAt := some (dtToText now) })
    .itemNotFound

/-- Refresh the batch of the item that a settlement returned. -/
def thenRefresh (now : Instant) :
    Transaction (BatchItemRow × BatchLedger) → Transaction (BatchItemRow × BatchLedger)
  | .ok (item, s) => .ok (item, s.refreshBatchStatus item.batchId now)
  | .error e => .error e

/-- `mark_item_succeeded`. -/
def markItemSucceeded (s : BatchLedger) (batchItemId reportJobId : String) (now : Instant) :
    Transaction (BatchItemRow × BatchLedger) :=
  thenRefresh now <| s.updateItem batchItemId
    (fun i => i.reportJobId == some reportJobId && i.status == .waitingOnReportJob)
    (itemSet fun i =>
      { i with
        status := .succeeded
        retryEligible := false
        nextRetryAt := none
        lastErrorCategory := none
        lastErrorSummary := none
        lease := {}
        completedAt := some (dtToText now) })
    .itemNotFound

/-- `mark_item_failed`; no status is excluded. -/
def markItemFailed (s : BatchLedger) (batchItemId errorCategory errorSummary : String)
    (retryable : Bool) (maxAttempts : Nat) (nextRetryAt : Option Instant) (now : Instant) :
    Transaction (BatchItemRow × BatchLedger) :=
  thenRefresh now <| s.updateItem batchItemId (fun _ => true)
    (itemSet fun i =>
      let outcome := batchItemFailureOutcome retryable (i.attemptCount + 1) maxAttempts
      { i with
        status := outcome.1
        attemptCount := i.attemptCount + 1
        retryEligible := outcome.2
        nextRetryAt := nextRetryAt.map dtToText
        lastErrorCategory := some errorCategory
        lastErrorSummary := some errorSummary
        lease := {}
        completedAt := some (dtToText now) })
    .itemNotFound

/-- The result of a control call on a batch. -/
def controlResult (batchId : String) (affectedCount : Nat) (s : BatchLedger) :
    Transaction (BatchControlResult × BatchLedger) := do
  let record ← s.loadBatch batchId
  return (⟨batchId, affectedCount, record.batch.status⟩, s)

/-- The `WHERE` clause of `retry_failed_items`. -/
def retryable (batchId : String) (maxAttempts : Nat) (now : Timestamp) (i : BatchItemRow) : Bool :=
  i.batchId == batchId && i.status == .failedRetryable && i.reportJobId.isNone &&
    i.retryEligible && decide (i.attemptCount < maxAttempts) && retryDue i now

/-- The assignment of `retry_failed_items`. -/
def resetForRetry : ItemAssignment :=
  itemSet fun i =>
    { i with
      status := .materialized
      retryEligible := false
      nextRetryAt := none
      lease := {} }

/-- `retry_failed_items`. -/
def retryFailedItems (s : BatchLedger) (batchId : String) (maxAttempts : Nat) (now : Instant) :
    Transaction (BatchControlResult × BatchLedger) :=
  let p := retryable batchId maxAttempts (dtToText now)
  let retried : BatchLedger := { s with items := s.items.update p resetForRetry }
  controlResult batchId (s.items.rows.countP p) (retried.refreshBatchStatus batchId now)

/-- `pause_batch`. -/
def pauseBatch (s : BatchLedger) (batchId : String) (now : Instant) :
    Transaction (BatchControlResult × BatchLedger) :=
  let p := fun b : BatchRow => b.batchId == batchId && b.status.active
  controlResult batchId (s.batches.rows.countP p)
    { s with batches := s.batches.update p (batchSet .paused (dtToText now) id id id id) }

/-- `resume_batch`. -/
def resumeBatch (s : BatchLedger) (batchId : String) (now : Instant) :
    Transaction (BatchControlResult × BatchLedger) :=
  let p := fun b : BatchRow => b.batchId == batchId && b.status == .paused
  controlResult batchId (s.batches.rows.countP p)
    { s with batches := s.batches.update p (batchSet .materialized (dtToText now) id id id id) }

/-- `cancel_batch`. -/
def cancelBatch (s : BatchLedger) (batchId : String) (now : Instant) :
    Transaction (BatchControlResult × BatchLedger) :=
  let at_ := dtToText now
  let p := fun i : BatchItemRow =>
    i.batchId == batchId && i.status.cancelEligible && i.reportJobId.isNone
  let items := s.items.update p
    (itemSet fun i =>
      { i with
        status := .cancelled
        retryEligible := false
        nextRetryAt := none
        lease := {}
        cancelledAt := some at_ })
  let batches := s.batches.update
    (fun b => b.batchId == batchId && !b.status.finished)
    (batchSet .cancelled at_ id id (fun _ => some at_) id)
  controlResult batchId (s.items.rows.countP p) ⟨batches, items⟩

/-- `recover_expired_leases`. -/
def recoverExpiredLeases (s : BatchLedger) (batchId : String) (now : Instant) :
    Transaction (BatchRecoveryResult × BatchLedger) :=
  let p := fun i : BatchItemRow =>
    i.batchId == batchId && i.status == .leased && i.reportJobId.isNone &&
      leaseExpired i (dtToText now)
  let items := s.items.update p
    (itemSet fun i =>
      { i with
        status := .recoveryPending
        retryEligible := true
        lease := {}
        lastErrorCategory := some "expired_item_lease"
        lastErrorSummary := some "Batch item lease expired before report-job dispatch." })
  let recovered := (s.items.rows.filter p).map (·.batchItemId)
  .ok (⟨batchId, recovered.length, recovered⟩,
    ({ s with items := items } : BatchLedger).refreshBatchStatus batchId now)

/-- The `WHERE` clause of `relink_failed_item_for_replay`. -/
def relinkable (batchId : String) (maxAttempts : Nat) (i : BatchItemRow) : Bool :=
  i.batchId == batchId && i.status == .failedRetryable && i.retryEligible &&
    i.lease.token.isNone && decide (i.attemptCount < maxAttempts)

/-- The assignment of `relink_failed_item_for_replay`. -/
def relinkTo (replayedReportJobId : String) (now : Instant) :
    ItemAssignment :=
  itemSet fun i =>
    { i with
      status := .waitingOnReportJob
      reportJobId := some replayedReportJobId
      retryEligible := false
      nextRetryAt := none
      lease := {}
      lastErrorCategory := none
      lastErrorSummary := none
      startedAt := coalesce (dtToText now) i.startedAt
      completedAt := none
      cancelledAt := none }

/-- `relink_failed_item_for_replay`. -/
def relinkFailedItemForReplay (s : BatchLedger) (batchId batchItemId replayedReportJobId : String)
    (maxAttempts : Nat) (now : Instant) : Transaction (BatchItemRow × BatchLedger) :=
  match s.items.rows.find? fun i => i.batchId == batchId && i.batchItemId == batchItemId with
  | none => do
      let _ ← s.loadBatch batchId
      .error .itemNotFound
  | some existing =>
      if existing.status == .waitingOnReportJob &&
          existing.reportJobId == some replayedReportJobId then
        .ok (existing, s)
      else
        thenRefresh now <| s.updateItem batchItemId (relinkable batchId maxAttempts)
          (relinkTo replayedReportJobId now) .itemCannotBeReplayed

end BatchLedger

/-- The calls of the batch ledger that write. -/
inductive BatchCall where
  | createBatch (request : BatchCreateRequest) (callerContext : ReportCallerContext)
      (idempotencyKey : Option String) (batchId : String) (itemId : Nat → String) (now : Instant)
  | acquireDispatchItems (batchId workerId : String) (leaseSeconds limit : Int)
      (leaseToken : String) (now : Instant)
  | heartbeatItemLease (batchItemId leaseToken : String) (leaseSeconds : Int) (now : Instant)
  | markItemWaitingOnReportJob (batchItemId leaseToken reportJobId : String) (now : Instant)
  | markItemSucceeded (batchItemId reportJobId : String) (now : Instant)
  | markItemFailed (batchItemId errorCategory errorSummary : String) (retryable : Bool)
      (maxAttempts : Nat) (nextRetryAt : Option Instant) (now : Instant)
  | retryFailedItems (batchId : String) (maxAttempts : Nat) (now : Instant)
  | pauseBatch (batchId : String) (now : Instant)
  | resumeBatch (batchId : String) (now : Instant)
  | cancelBatch (batchId : String) (now : Instant)
  | recoverExpiredLeases (batchId : String) (now : Instant)
  | relinkFailedItemForReplay (batchId batchItemId replayedReportJobId : String)
      (maxAttempts : Nat) (now : Instant)

/-- The tables after a transaction: an exception rolls back. -/
def stateAfter {α : Type} (s : BatchLedger) : Transaction (α × BatchLedger) → BatchLedger
  | .ok (_, s') => s'
  | .error _ => s

/-- The tables after one call. -/
def step (py : Runtime) (s : BatchLedger) : BatchCall → BatchLedger
  | .createBatch request callerContext idempotencyKey batchId itemId now =>
      stateAfter s (s.createBatch py request callerContext idempotencyKey batchId itemId now)
  | .acquireDispatchItems batchId workerId leaseSeconds limit leaseToken now =>
      stateAfter s (s.acquireDispatchItems batchId workerId leaseSeconds limit leaseToken now)
  | .heartbeatItemLease batchItemId leaseToken leaseSeconds now =>
      stateAfter s (s.heartbeatItemLease batchItemId leaseToken leaseSeconds now)
  | .markItemWaitingOnReportJob batchItemId leaseToken reportJobId now =>
      stateAfter s (s.markItemWaitingOnReportJob batchItemId leaseToken reportJobId now)
  | .markItemSucceeded batchItemId reportJobId now =>
      stateAfter s (s.markItemSucceeded batchItemId reportJobId now)
  | .markItemFailed batchItemId errorCategory errorSummary retryable maxAttempts nextRetryAt now =>
      stateAfter s (s.markItemFailed batchItemId errorCategory errorSummary retryable maxAttempts
        nextRetryAt now)
  | .retryFailedItems batchId maxAttempts now =>
      stateAfter s (s.retryFailedItems batchId maxAttempts now)
  | .pauseBatch batchId now => stateAfter s (s.pauseBatch batchId now)
  | .resumeBatch batchId now => stateAfter s (s.resumeBatch batchId now)
  | .cancelBatch batchId now => stateAfter s (s.cancelBatch batchId now)
  | .recoverExpiredLeases batchId now => stateAfter s (s.recoverExpiredLeases batchId now)
  | .relinkFailedItemForReplay batchId batchItemId replayedReportJobId maxAttempts now =>
      stateAfter s
        (s.relinkFailedItemForReplay batchId batchItemId replayedReportJobId maxAttempts now)

end LotusReport.Batch
