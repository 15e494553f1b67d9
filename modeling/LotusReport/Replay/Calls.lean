import LotusReport.Batch.Dispatch
import LotusReport.Jobs.OpenOutcomes

/-!
# The calls of the two recovery services

`ReportBatchItemReplayService` and `PortfolioReviewReplayService` work on the
batch ledger, the report-job ledger and the archive. The state holds the two
ledgers and two records of what has happened: the failed jobs for which the
archive has confirmed that it holds no document, and the jobs that were
derived from a failed job whose archive outcome was open and unconfirmed. The
archive's answer to a lookup is a value of the call.
-/

namespace LotusReport.Replay

open Encoding Relational StateMachine Jobs Batch

/-- The answer to a lookup of a document: a status code with a payload, or `none` if it raises. -/
abbrev ArchiveAnswer := Option (Int × Fields)

/-- `archive_absence_confirmed`. -/
def archiveAbsenceConfirmed (payload : Fields) : Bool :=
  match Json.lookup payload "error" with
  | some (.obj error) => Json.lookup error "code" == some (.str "document_not_found")
  | _ => false

/-- The answer confirms that the archive holds no document. -/
def ArchiveAnswer.absent : ArchiveAnswer → Bool
  | some (statusCode, payload) => statusCode == 404 && archiveAbsenceConfirmed payload
  | none => false

/-- The two ledgers, the failed jobs whose document is confirmed to be absent, and the jobs
created while the archive outcome of their source was open and unconfirmed. -/
structure ReplayState where
  batches : BatchLedger
  jobs : Jobs.Ledger
  confirmedAbsent : List String
  strayed : List String

/-- The archive outcome of the job is open, and the archive has not denied the document. -/
def ReplayState.unresolved (s : ReplayState) (jobId : String) : Bool :=
  (s.jobs.jobs.find? jobId).any outcomeOpen && decide (jobId ∉ s.confirmedAbsent)

/-- The calls of the recovery services, and those of other components. -/
inductive ReplayCall where
  | getBatch (batchId : String)
  | getBatchItem (batchId batchItemId : String)
  | markItemFailed (batchItemId errorCategory errorSummary : String) (now : Instant)
  | relinkFailedItemForReplay (batchId batchItemId replayedReportJobId : String) (now : Instant)
  | getJob (jobId : String)
  | listStatusEvents (jobId : String)
  | getDocumentByRequestId (sourceJobId : String) (answer : ArchiveAnswer)
  | createDerivedJob (sourceJobId : String) (call : CreateCall)
  | mark (jobId : String) (mark : Mark) (context : CallContext)
  | ledger (call : LedgerCall)
  | batches (call : BatchCall)

/-- What a call returns. -/
def ReplayCall.Result : ReplayCall → Type
  | getBatch _ => Transaction ReportBatchRecord
  | getBatchItem _ _ => Transaction BatchItemRow
  | markItemFailed _ _ _ _ => Transaction BatchItemRow
  | relinkFailedItemForReplay _ _ _ _ => Transaction BatchItemRow
  | getJob _ => Except LedgerError JobFile
  | listStatusEvents _ => List EventRow
  | getDocumentByRequestId _ _ => ArchiveAnswer
  | createDerivedJob _ _ => Except LedgerError JobFile
  | mark _ _ _ => Except LedgerError JobFile
  | ledger _ => Except LedgerError Unit
  | batches _ => Unit

/-- `get_job`. -/
def jobOf (jobs : Jobs.Ledger) (jobId : String) : Except LedgerError JobFile :=
  match jobs.file? jobId with
  | some f => .ok f
  | none => .error .jobNotFound

/-- `list_status_events`; events of one instant stand in the order of their insertion. -/
def listStatusEvents (jobs : Jobs.Ledger) (jobId : String) : List EventRow :=
  (jobs.eventsOf jobId).insertionSort fun a b => a.createdAt.le b.createdAt = true

/-- The value that a transaction of the job ledger returns, read from the tables it leaves. -/
def returning {α : Type} (value : Jobs.Ledger → Except LedgerError α) :
    Except LedgerError Jobs.Ledger → Except LedgerError α
  | .ok jobs => value jobs
  | .error error => .error error

/-- Execute a call. -/
def ReplayState.perform (d : Deployment) (s : ReplayState) :
    (call : ReplayCall) → ReplayState × call.Result
  | .getBatch batchId => (s, s.batches.loadBatch batchId)
  | .getBatchItem batchId batchItemId => (s, s.batches.getBatchItem batchId batchItemId)
  | .markItemFailed batchItemId errorCategory errorSummary now =>
      let outcome := s.batches.markItemFailed batchItemId errorCategory errorSummary false
        defaultMaxAttempts none now
      ({ s with batches := stateAfter s.batches outcome }, valueOf outcome)
  | .relinkFailedItemForReplay batchId batchItemId replayedReportJobId now =>
      let outcome := s.batches.relinkFailedItemForReplay batchId batchItemId replayedReportJobId
        defaultMaxAttempts now
      ({ s with batches := stateAfter s.batches outcome }, valueOf outcome)
  | .getJob jobId => (s, jobOf s.jobs jobId)
  | .listStatusEvents jobId => (s, listStatusEvents s.jobs jobId)
  | .getDocumentByRequestId sourceJobId answer =>
      ({ s with
          confirmedAbsent :=
            if answer.absent then sourceJobId :: s.confirmedAbsent else s.confirmedAbsent },
        answer)
  | .createDerivedJob sourceJobId call =>
      match s.jobs.createReportJob d call with
      | .ok (record, jobs) =>
          ({ s with
              jobs := jobs
              strayed :=
                if (s.jobs.jobs.find? record.job.reportJobId).isNone && s.unresolved sourceJobId then
                  record.job.reportJobId :: s.strayed
                else s.strayed },
            .ok record)
      | .error error => (s, .error error)
  | .mark jobId mark context =>
      let call : LedgerCall := .mark jobId mark context
      ({ s with jobs := s.jobs.step d (.ledger call) },
        returning (fun jobs => jobOf jobs jobId) (call.perform d s.jobs))
  | .ledger call =>
      ({ s with jobs := s.jobs.step d (.ledger call) },
        returning (fun _ => .ok ()) (call.perform d s.jobs))
  | .batches call => ({ s with batches := Batch.step d.toRuntime s.batches call }, ())

/-- Empty ledgers. -/
def ReplayState.empty : ReplayState := ⟨.empty, .empty, [], []⟩

/-- How a recovery fails. -/
inductive ReplayFailure where
  | batches (error : BatchLedgerError)
  | jobs (error : LedgerError)
  | requestRejected (message : String)

/-- Programs of the recovery services. -/
abbrev ReplayProgram (α : Type) := Program ReplayCall ReplayCall.Result (Except ReplayFailure α)

section Requests

variable {α : Type}

/-- End in a failure. -/
def fail (failure : ReplayFailure) : ReplayProgram α := .done (.error failure)

/-- Go on with the value of a check. -/
def checked {ε : Type} (failure : ε → ReplayFailure) (outcome : Except ε α) : ReplayProgram α :=
  .done (outcome.mapError failure)

/-- Read a batch. -/
def getBatch (batchId : String) : ReplayProgram ReportBatchRecord :=
  .call (.getBatch batchId) (checked .batches)

/-- Read an item of a batch. -/
def getBatchItem (batchId batchItemId : String) : ReplayProgram BatchItemRow :=
  .call (.getBatchItem batchId batchItemId) (checked .batches)

/-- Read a report job. -/
def getJob (jobId : String) : ReplayProgram JobFile := .call (.getJob jobId) (checked .jobs)

/-- Carry out a transition of a report job. -/
def markJob (jobId : String) (mark : Mark) (context : CallContext) : ReplayProgram JobFile :=
  .call (.mark jobId mark context) (checked .jobs)

/-- Carry out another call on the job ledger. -/
def onLedger (call : LedgerCall) : ReplayProgram Unit := .call (.ledger call) (checked .jobs)

/-- The context of a caller's call on the job ledger. -/
def callContext (callerContext : ReportCallerContext) (now : Instant) : CallContext :=
  ⟨callerContext.triggeredBy, callerContext.correlationId, callerContext.traceId, none, now⟩

/-- The payload of a stored event. -/
def payloadOf (event : EventRow) : Fields := (objectFields event.eventPayload).getD []

/-- `append_source_event_once`. -/
def appendSourceEventOnce (callerContext : ReportCallerContext) (now : Instant)
    (jobId eventType replayedJobId : String) (replayedStatus : ReportJobStatus) (message : String)
    (eventPayload : Fields) : ReplayProgram Unit :=
  .call (.listStatusEvents jobId) fun events =>
    if (events : List EventRow).any fun e => e.eventType == eventType &&
        Json.lookup (payloadOf e) "replayed_job_id" == some (.str replayedJobId) then
      .done (.ok ())
    else
      onLedger (.appendJobEvent jobId eventType message
        (eventPayload.foldl (fun payload field => Json.assign payload field.1 field.2)
          [("replayed_job_id", .str replayedJobId), ("replayed_status", .str replayedStatus.text)])
        (some (eventType ++ ":" ++ jobId ++ ":" ++ replayedJobId)) false
        (callContext callerContext now))

end Requests

section Policy

/-- The failure category of the job is one of the list. -/
def failedAs (f : JobFile) (categories : List ReportFailureCategory) : Bool :=
  f.job.failureCategory.any (· ∈ categories)

/-- The failures after which the archive request of the delivery is recorded on the job. -/
def custodyCategories : List ReportFailureCategory :=
  [.archiveOutcomeUnknown, .archiveHandoffFailed, .archiveHandoffNotConfigured]

/-- `assert_replay_eligible`. -/
def assertReplayEligible (f : JobFile) : Except LedgerError Unit :=
  if !resolutionReplaySupported f then .error cannotBeReplayed
  else if f.job.reportType = "composite_review" ∧ !failedAs f custodyCategories then
    .error cannotBeReplayed
  else if f.job.status ≠ .failed || !f.job.retryEligible then .error cannotBeReplayed
  else if present f.job.archiveDocumentId then .error cannotBeReplayed
  else .ok ()

/-- `assert_job_visible`. -/
def assertJobVisible (f : JobFile) (callerContext : ReportCallerContext) : Except LedgerError Unit :=
  if f.request.tenantId ≠ callerContext.tenantId ∨ f.request.region ≠ callerContext.region ∨
      f.request.bookingCenterCode ≠ none ∧
        callerContext.bookingCenterCode ≠ f.request.bookingCenterCode then
    .error .jobNotFound
  else .ok ()

/-- The key of a recovery: the kind, what is recovered, and the caller's key. -/
def recoveryKey (kind recovered : String) (idempotencyKey : Option String) :
    Except LedgerError String :=
  match idempotencyKey with
  | none => .error .missingIdempotencyKey
  | some key =>
      if strip key = "" then .error .missingIdempotencyKey
      else .ok (kind ++ ":" ++ recovered ++ ":" ++ strip key)

/-- `_batch_item_replay_idempotency_key`. -/
def batchItemReplayIdempotencyKey (batchItemId : String) (idempotencyKey : Option String) :
    Except LedgerError String :=
  recoveryKey "batch-item-replay" batchItemId idempotencyKey

/-- `replay_idempotency_key`. -/
def replayIdempotencyKey (sourceJobId : String) (idempotencyKey : Option String) :
    Except LedgerError String :=
  recoveryKey "replay" sourceJobId idempotencyKey

end Policy

end LotusReport.Replay
