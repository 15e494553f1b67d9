import LotusReport.Jobs.Create

/-!
# The calls of the job ledger

Every public operation as one atomic call on the tables. A call that raises is
rolled back, so it leaves the ledger as it was.
-/

namespace LotusReport.Jobs

open Encoding Relational

namespace Ledger

/-- A transaction on the rows of one job. -/
def onJob {α : Type} (s : Ledger) (jobId : String) (missing : LedgerError)
    (op : JobFile → Except LedgerError (α × JobFile)) : Except LedgerError (α × Ledger) :=
  match s.file? jobId with
  | none => .error missing
  | some f => do
      let (value, f') ← op f
      return (value, s.store f')

/-- A transaction on the job that owns a work item. -/
def onWorkItem {α : Type} (s : Ledger) (workItemId : String) (missing : LedgerError)
    (op : JobFile → Except LedgerError (α × JobFile)) : Except LedgerError (α × Ledger) :=
  match s.workItems.find? workItemId with
  | none => .error missing
  | some w => s.onJob w.reportJobId missing op

/-- The transactions on a list of work items, one after the other; the position of an item in
the list is passed on, and the rows that the transactions return are collected. -/
def forEachWorkItem (op : Nat → JobFile → Except LedgerError (Option WorkRow × JobFile)) :
    Ledger → Nat → List String → Except LedgerError (List WorkRow × Ledger)
  | s, _, [] => .ok ([], s)
  | s, n, workItemId :: ids => do
      let (row, s) ← s.onWorkItem workItemId JobFile.leaseNotOwned (op n)
      let (rows, s) ← forEachWorkItem op s (n + 1) ids
      return (row.toList ++ rows, s)

section Selection

/-- `ORDER BY lease_expires_at ASC, work_item_id ASC`; a null sorts first. -/
def expiresBefore (a b : WorkRow) : Bool :=
  match a.leaseExpiresAt, b.leaseExpiresAt with
  | some x, some y => x.lt y || (x == y && decide (a.workItemId ≤ b.workItemId))
  | none, some _ => true
  | some _, none => false
  | none, none => decide (a.workItemId ≤ b.workItemId)

/-- The expired leases that one call recovers. -/
def expiredWorkItems (s : Ledger) (recoveredAt : Instant) : List String :=
  (((s.workItems.rows.filter (JobFile.workLeaseExpired (dtToText recoveredAt))).insertionSort
    fun a b => expiresBefore a b = true).take 5).map WorkRow.workItemId

/-- `ORDER BY available_at ASC, created_at ASC, work_item_id ASC`. -/
def availableBefore (a b : WorkRow) : Bool :=
  a.availableAt.lt b.availableAt || (a.availableAt == b.availableAt &&
    (a.createdAt.lt b.createdAt || (a.createdAt == b.createdAt &&
      decide (a.workItemId ≤ b.workItemId))))

/-- The runnable work items that one call claims. -/
def runnableWorkItems (s : Ledger) (claimedAt : Instant) (limit : Nat) : List String :=
  (((s.workItems.rows.filter fun w =>
      decide (w.status ∈ [.pending, .retryPending]) &&
        w.availableAt.le (dtToText claimedAt)).insertionSort
    fun a b => availableBefore a b = true).take limit).map WorkRow.workItemId

end Selection

/-- A call of `claim_work_items`; `leaseTokens` are the tokens it generates, in order. -/
structure ClaimCall where
  workerId : String
  limit : Nat
  leaseSeconds : Int
  retryPolicy : ReportJobWorkRetryPolicy := {}
  claimedAt : Instant
  leaseTokens : Nat → String
  currentWorkLease : Option (String × String) := none
  now : Instant

/-- `_recover_expired_work_items`. -/
def recoverExpiredWorkItems (s : Ledger) (c : ClaimCall) : Except LedgerError Ledger := do
  let (_, s) ← forEachWorkItem
    (fun _ f => do
      let f ← f.expireWork c.retryPolicy c.currentWorkLease c.claimedAt c.now
      return (none, f))
    s 0 (s.expiredWorkItems c.claimedAt)
  return s

/-- `claim_work_items`. -/
def claimWorkItems (s : Ledger) (c : ClaimCall) : Except LedgerError (List WorkRow × Ledger) :=
  if c.limit < 1 then .ok ([], s)
  else do
    let s ← s.recoverExpiredWorkItems c
    forEachWorkItem
      (fun n f => f.claimWork c.workerId (c.leaseTokens n) c.leaseSeconds c.claimedAt c.now)
      s 0 (s.runnableWorkItems c.claimedAt c.limit)

/-- The bytes retained by the offers of all jobs, or of the jobs of one tenant. -/
def retainedBytes (s : Ledger) (tenantId : Option String) : Nat :=
  (s.jobs.rows.map fun job =>
    match s.requests.find? job.reportRequestId with
    | none => 0
    | some request =>
        if tenantId.any (fun t => t ≠ request.tenantId) then 0
        else (job.custody.offerBody.map String.utf8ByteSize).getD 0).sum

end Ledger

/-- The transition of a `mark_*` call. -/
inductive Mark where
  | collectingData
  | dataReady
  | rendering (renderJobId outputFormat templateId templateVersion : String)
  | completed (renderJobId outputFormat templateId templateVersion : String)
      (templatePublication artifactSha256 boundedDeterminismFingerprint runtimeEngine
        runtimeEngineVersion : Option String) (renderDurationMs : Option Int)
  | archiving (archiveRequestId : String)
  | archived (archiveRequestId archiveDocumentId : String)
  | failed (failureCategory : ReportFailureCategory) (failureMessage : String)
      (retryEligible : Bool)

/-- The transition that a `mark_*` call requests. -/
def Mark.transition (now : Instant) : Mark → Transition
  | collectingData => markCollectingData
  | dataReady => markDataReady
  | rendering renderJobId outputFormat templateId templateVersion =>
      markRendering renderJobId outputFormat templateId templateVersion
  | completed renderJobId outputFormat templateId templateVersion publication artifact fingerprint
      engine engineVersion duration =>
      markCompleted renderJobId outputFormat templateId templateVersion publication artifact
        fingerprint engine engineVersion duration
  | archiving archiveRequestId => markArchiving archiveRequestId
  | archived archiveRequestId archiveDocumentId =>
      markArchived archiveRequestId archiveDocumentId now
  | failed failureCategory failureMessage retryEligible =>
      markFailed failureCategory failureMessage retryEligible

/-- The calls of the ledger itself. -/
inductive LedgerCall where
  | create (call : CreateCall)
  | mark (jobId : String) (mark : Mark) (context : CallContext)
  | cancelJob (jobId : String) (context : CallContext)
  | appendJobEvent (jobId eventType message : String) (eventPayload : Fields)
      (eventIdempotencyKey : Option String) (skipIfIdempotencyKeyExists : Bool)
      (context : CallContext)
  | upsertJobRelationship (call : RelationshipCall)
  | claimWorkItems (call : Ledger.ClaimCall)
  | completeWorkItem (workItemId leaseToken : String) (now : Instant)
  | deferWorkItem (workItemId leaseToken waitReason : String) (delaySeconds : Int) (now : Instant)
  | failWorkItem (workItemId leaseToken errorCategory errorSummary : String)
      (retryPolicy : ReportJobWorkRetryPolicy) (currentWorkLease : Option (String × String))
      (now : Instant)

/-- The scope of a custody operation, with the outcome of its authorization. -/
structure CustodyScope where
  jobId : String
  tenantId : String
  region : String
  authority : Except LedgerError Unit := .ok ()

/-- The operations of `CustodyRecovery`. In `confirmFinal`, `verification` is the outcome of the
earlier observation of the job and of the native verification of the delivery. -/
inductive CustodyCall where
  | commitOffer (fence : CustodyLease) (payload : Fields) (now : Instant)
  | reserve (fence : CustodyLease) (operation : CustodyOperation) (jitter : Nat) (now : Instant)
  | disposition (fence : CustodyLease) (response : Fields) (httpStatus : Int)
      (now : Instant)
  | block (fence : CustodyLease) (now : Instant)
  | recordOwnerDue (fence : CustodyLease) (due now : Instant)
  | confirmFinal (fence : CustodyLease) (response : Fields)
      (verification : Except LedgerError Unit) (now : Instant)
  | resume (expectedEpoch : Nat) (expectedDigest : String) (now : Instant)

/-- A call on the job ledger. -/
inductive Call where
  | ledger (call : LedgerCall)
  | custody (scope : CustodyScope) (call : CustodyCall)

section Perform

variable (d : Deployment) (s : Ledger)

/-- A transaction that returns no value. -/
def unvalued (op : Except LedgerError JobFile) : Except LedgerError (Unit × JobFile) := do
  let f ← op
  return ((), f)

/-- A call of the ledger. -/
def LedgerCall.perform : LedgerCall → Except LedgerError Ledger
  | create c => return (← s.createReportJob d c).2
  | mark jobId m context =>
      return (← s.onJob jobId .jobNotFound
        fun f => unvalued (f.transitionJob (m.transition context.now) context)).2
  | cancelJob jobId context =>
      return (← s.onJob jobId .jobNotFound fun f => unvalued (f.cancelJob context)).2
  | appendJobEvent jobId eventType message payload key skip context =>
      return (← s.onJob jobId .jobNotFound
        fun f => f.appendJobEvent eventType message payload key skip context).2
  | upsertJobRelationship c => s.upsertJobRelationship c
  | claimWorkItems c => return (← s.claimWorkItems c).2
  | completeWorkItem workItemId leaseToken now =>
      return (← s.onWorkItem workItemId (.custodyRecovery "custody_work_missing")
        fun f => unvalued (f.completeWork workItemId leaseToken now)).2
  | deferWorkItem workItemId leaseToken waitReason delaySeconds now =>
      return (← s.onWorkItem workItemId .typeError
        fun f => unvalued (f.deferWork workItemId leaseToken waitReason delaySeconds now)).2
  | failWorkItem workItemId leaseToken errorCategory errorSummary policy lease now =>
      return (← s.onWorkItem workItemId JobFile.leaseNotOwned
        fun f => unvalued
          (f.failWork workItemId leaseToken errorCategory errorSummary policy lease now)).2

/-- The transaction of a custody operation on the rows of its job. -/
def CustodyCall.transact (f : JobFile) (scope : CustodyScope) :
    CustodyCall → Except LedgerError JobFile
  | commitOffer fence payload now => do
      return (← f.commitOffer d.toRuntime scope.tenantId scope.region fence payload
        (s.retainedBytes none) (s.retainedBytes (some scope.tenantId)) now).2
  | reserve fence operation jitter now => do
      return (← f.reserve scope.tenantId scope.region fence operation jitter now).2
  | disposition fence response httpStatus now =>
      f.disposition scope.tenantId scope.region fence response httpStatus now
  | block fence now => f.block scope.tenantId scope.region fence now
  | recordOwnerDue fence due now => do
      return (← f.recordOwnerDue scope.tenantId scope.region fence due now).2
  | confirmFinal fence response verification now => do
      let identity ← finalIdentity response
      verification
      f.confirmFinal scope.tenantId scope.region fence identity now
  | resume expectedEpoch expectedDigest now =>
      f.resume scope.tenantId scope.region expectedEpoch expectedDigest now

/-- A custody operation. -/
def CustodyCall.perform (scope : CustodyScope) (c : CustodyCall) : Except LedgerError Ledger := do
  scope.authority
  return (← s.onJob scope.jobId (.custodyRecovery "custody_job_not_found")
    fun f => unvalued (c.transact d s f scope)).2

/-- A call, with the ledger it leaves or the exception it raises. -/
def Call.perform : Call → Except LedgerError Ledger
  | ledger c => c.perform d s
  | custody scope c => c.perform d s scope

/-- The ledger after a call: a call that raises is rolled back. -/
def Ledger.step (c : Call) : Ledger :=
  match c.perform d s with
  | .ok s' => s'
  | .error _ => s

end Perform

section Sample

/-- A deployment for closed examples: every digest is the same 64 digits. -/
def sampleDeployment : Deployment where
  sha256 := fun _ => String.ofList (List.replicate 64 'a')
  isPrintable := fun _ => true
  contractVersion := "v1"
  coercions := Coercions.standard

/-- The caller of the closed examples. -/
def sampleCaller : ReportCallerContext where
  triggeredBy := "advisor"
  callerApplication := "lotus-workbench"
  tenantId := "tenant-1"
  region := "SG"
  correlationId := "corr-1"
  traceId := "trace-1"

/-- The request of the closed examples. -/
def sampleRequest : PortfolioReviewJobRequest where
  portfolioScope := [("portfolio_ids", Json.ofTexts ["PF_1"])]
  asOfDate := "2026-03-31"
  requestedOutputFormats := ["pdf"]

/-- A submission of job `rjob_1` under a custody policy. -/
def sampleSubmit (policy : Option CustodyPolicy) : Call :=
  .ledger (.create (submitPortfolioReviewJob sampleCaller (some "key-1")
    ⟨"rrq_1", "rjob_1", "rwork_1", .ok policy, 0⟩ sampleRequest))

/-- A claim of one work item; the tokens are `x`, `xx`, and so on, for a letter `x`. -/
def sampleClaim (letter : Char) (now : Instant) : Call :=
  .ledger (.claimWorkItems
    { workerId := "worker-1"
      limit := 1
      leaseSeconds := 300
      claimedAt := now
      leaseTokens := fun n => String.ofList (List.replicate (n + 1) letter)
      now := now })

/-- A call of the worker that holds `rwork_1` under a token. -/
def sampleContext (token : String) : CallContext :=
  ⟨"worker-1", "corr-1", "trace-1", some ("rwork_1", token), 0⟩

/-- The custody scope of `rjob_1`. -/
def sampleScope : CustodyScope := { jobId := "rjob_1", tenantId := "tenant-1", region := "SG" }

/-- The render offer of `rjob_1`. -/
def sampleOffer : Fields :=
  [ ("report_job_id", .str "rjob_1"),
    ("report_type", .str "portfolio_review"),
    ("render_job_id", .str "rdr_rjob_1_pdf"),
    ("output_format", .str "pdf"),
    ("template_id", .str "portfolio-review"),
    ("template_version", .str "v2"),
    ("render_context", .obj [("archive", .obj
      [("tenant_id", .str "tenant-1"), ("region", .str "SG")])]) ]

/-- A run in which a worker captures the data of a required job and retains its render offer. -/
def offeredRun : List Call :=
  [ sampleSubmit requiredPolicy,
    sampleClaim 'a' 0,
    .ledger (.mark "rjob_1" .collectingData (sampleContext "a")),
    .ledger (.mark "rjob_1" .dataReady (sampleContext "a")),
    .custody sampleScope (.commitOffer ⟨"rwork_1", "a", 1⟩ sampleOffer 0) ]

end Sample

end LotusReport.Jobs
