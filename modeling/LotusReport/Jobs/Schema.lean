import LotusReport.Caller
import LotusReport.Encoding.Json
import LotusReport.Encoding.Timestamp
import LotusReport.Jobs.Lifecycle
import LotusReport.Relational.Table

/-!
# The tables of the job ledger

The rows of the SQLite job ledger with its declared constraints: primary and
unique keys, the column checks of the custody columns, and the two triggers
that guard an update of a job row.
-/

namespace LotusReport.Jobs

open Encoding Relational

/-- `ReportJobWorkStatus`. -/
inductive ReportJobWorkStatus where
  | pending
  | leased
  | retryPending
  | completed
  | failed
deriving DecidableEq, Repr

/-- The stored custody states. -/
inductive CustodyState where
  | ready
  | waiting
  | blocked
  | refused
  | verified
deriving DecidableEq, Repr

/-- The only custody policy: `retained-render-offer.v1`. -/
inductive CustodyPolicy where
  | retainedRenderOffer
deriving DecidableEq, Repr

/-- `REQUIRED_POLICY`. -/
abbrev requiredPolicy : Option CustodyPolicy := some .retainedRenderOffer

/-- `ReportJobRelationshipType`. -/
inductive ReportJobRelationshipType where
  | regenerateReplacement
  | failedWorkReplay
  | batchItemReplay
deriving DecidableEq, Repr

/-- A row of `report_request`. -/
structure RequestRow where
  reportRequestId : String
  reportType : String
  portfolioScope : Fields
  requestedOutputFormats : List String
  asOfDate : String
  reportingCurrency : Option String
  options : Fields
  triggerType : TriggerType
  triggeredBy : String
  callerApplication : String
  tenantId : String
  region : String
  bookingCenterCode : Option String
  role : Option String
  idempotencyKey : String
  requestHash : String
  correlationId : String
  traceId : String
  createdAt : Timestamp
deriving DecidableEq

/-- The render columns of `report_job`. -/
structure RenderColumns where
  jobId : Option String := none
  outputFormat : Option String := none
  templateId : Option String := none
  templateVersion : Option String := none
  templatePublication : Option String := none
  artifactSha256 : Option String := none
  boundedDeterminismFingerprint : Option String := none
  runtimeEngine : Option String := none
  runtimeEngineVersion : Option String := none
  durationMs : Option Int := none
deriving DecidableEq

/-- The custody columns of `report_job`. -/
structure CustodyColumns where
  policy : Option CustodyPolicy := none
  offerBody : Option String := none
  offerSha256 : Option String := none
  offerSize : Option Nat := none
  offerVersion : Option String := none
  offerGeneration : Nat := 0
  state : Option CustodyState := none
  epoch : Nat := 0
  initialCount : Nat := 0
  dispatchCount : Nat := 0
  pollCount : Nat := 0
  windowStartedAt : Option Timestamp := none
  nextAttemptAt : Option Timestamp := none
  reason : Option String := none
  verification : Option Json := none
deriving DecidableEq

/-- A row of `report_job`. -/
structure JobRow where
  reportJobId : String
  reportRequestId : String
  reportType : String
  portfolioScope : Fields
  status : ReportJobStatus
  failureCategory : Option ReportFailureCategory := none
  failureMessage : Option String := none
  currentStep : String
  retryEligible : Bool := false
  cancelRequested : Bool := false
  createdAt : Timestamp
  updatedAt : Timestamp
  startedAt : Option Timestamp := none
  completedAt : Option Timestamp := none
  cancelledAt : Option Timestamp := none
  render : RenderColumns := {}
  archiveRequestId : Option String := none
  archiveDocumentId : Option String := none
  archiveCompletedAt : Option Timestamp := none
  acceptedDocumentContract : Option Json := none
  custody : CustodyColumns := {}
deriving DecidableEq

/-- A row of `report_job_work_item`. -/
structure WorkRow where
  workItemId : String
  reportJobId : String
  status : ReportJobWorkStatus
  attemptCount : Nat
  availableAt : Timestamp
  leaseOwner : Option String := none
  leaseToken : Option String := none
  leaseAcquiredAt : Option Timestamp := none
  leaseExpiresAt : Option Timestamp := none
  lastErrorCategory : Option String := none
  lastErrorSummary : Option String := none
  createdAt : Timestamp
  updatedAt : Timestamp
  completedAt : Option Timestamp := none
deriving DecidableEq

/-- A row of `report_status_event`. -/
structure EventRow where
  reportJobId : String
  fromStatus : Option ReportJobStatus
  toStatus : ReportJobStatus
  eventType : String
  eventSchemaVersion : String
  eventFamily : String
  eventPayload : Json
  eventIdempotencyKey : Option String
  message : Option String
  actor : String
  createdAt : Timestamp
  correlationId : String
  traceId : String
deriving DecidableEq

/-- A row of `report_job_relationship`. -/
structure RelationshipRow where
  sourceReportJobId : String
  derivedReportJobId : String
  relationshipType : ReportJobRelationshipType
  sourceStatus : ReportJobStatus
  derivedStatus : ReportJobStatus
  sourceFailureCategory : Option ReportFailureCategory
  derivedFailureCategory : Option ReportFailureCategory
  archiveConsequence : Option String
  previousArchiveDocumentId : Option String
  newArchiveDocumentId : Option String
  actor : String
  reason : String
  createdAt : Timestamp
  updatedAt : Timestamp
deriving DecidableEq

/-- The identity of a request: `(tenant_id, idempotency_key)`. -/
def RequestRow.identity (r : RequestRow) : String × String := (r.tenantId, r.idempotencyKey)

/-- `UNIQUE(source_report_job_id, derived_report_job_id, relationship_type)`. -/
def RelationshipRow.pair (r : RelationshipRow) : String × String × ReportJobRelationshipType :=
  (r.sourceReportJobId, r.derivedReportJobId, r.relationshipType)

/-- The tables of the job ledger; events stand in the order of their insertion. -/
structure Ledger where
  requests : Table RequestRow.reportRequestId RequestRow.identity
  jobs : Table JobRow.reportJobId JobRow.reportJobId
  workItems : Table WorkRow.workItemId WorkRow.reportJobId
  relationships : Table RelationshipRow.pair RelationshipRow.pair
  events : List EventRow
deriving DecidableEq

/-- The ledger after `ensure_schema` on a new file. -/
def Ledger.empty : Ledger := ⟨Table.empty, Table.empty, Table.empty, Table.empty, []⟩

/-- The exceptions of the job ledger and of its custody operations. -/
inductive LedgerError where
  | missingIdempotencyKey
  | idempotencyConflict
  | jobNotFound
  | invalidJobTransition (code : String)
  | invalidWorkTransition (code : String)
  | custodyRecovery (code : String)
  | twrAuthorityRefused (code : String)
  | valueError (message : String)
  /-- The `ValidationError` of a model. -/
  | validationError (model : String)
  | lookupError (message : String)
  | typeError
  | integrity (message : String)
deriving DecidableEq, Repr

section Constraints

/-- A column holds a text that is true in a condition. -/
def present (column : Option String) : Bool := column.any fun text => text ≠ ""

/-- `text GLOB '*[^0-9a-f]*'` fails: only lower-case hexadecimal digits. -/
def isLowerHex (s : String) : Bool :=
  s.toList.all fun c => ('0' ≤ c && c ≤ '9') || ('a' ≤ c && c ≤ 'f')

/-- The `CHECK` clauses of the custody columns that range over numbers. -/
def custodyChecks (c : CustodyColumns) : Bool :=
  decide (c.initialCount ≤ 1) && decide (c.dispatchCount ≤ 3) && decide (c.pollCount ≤ 12)

/-- The condition of the trigger `report_custody_immutable`. -/
def custodyImmutable (old new : JobRow) : Bool :=
  new.custody.policy ≠ old.custody.policy ||
  (old.custody.offerBody.isSome &&
    (new.custody.offerBody ≠ old.custody.offerBody ||
      new.custody.offerSha256 ≠ old.custody.offerSha256 ||
      new.custody.offerSize ≠ old.custody.offerSize ||
      new.custody.offerVersion ≠ old.custody.offerVersion ||
      new.custody.offerGeneration ≠ old.custody.offerGeneration ||
      new.render.jobId ≠ old.render.jobId ||
      new.reportRequestId ≠ old.reportRequestId ||
      new.reportType ≠ old.reportType ||
      new.render.templateId ≠ old.render.templateId ||
      new.render.templateVersion ≠ old.render.templateVersion ||
      new.acceptedDocumentContract ≠ old.acceptedDocumentContract)) ||
  (old.custody.policy == requiredPolicy && old.archiveRequestId.isSome &&
    new.archiveRequestId ≠ old.archiveRequestId) ||
  (old.custody.state == some .verified && new.custody.state ≠ some .verified) ||
  (old.custody.state == some .verified &&
    (new.status ≠ .archived ||
      new.archiveDocumentId ≠ old.archiveDocumentId ||
      new.custody.verification ≠ old.custody.verification))

/-- The job has left traces outside the ledger, in the words of `report_custody_shape`. -/
def shapeProtected (old : JobRow) : Bool :=
  old.custody.offerSha256.isSome || old.render.jobId.isSome || 0 < old.custody.initialCount ||
    old.status ∈ [.rendering, .completed, .archiving]

/-- The condition of the trigger `report_custody_shape`. -/
def custodyShape (old new : JobRow) : Bool :=
  new.custody.offerBody.any (fun body =>
    new.custody.policy ≠ requiredPolicy ||
    new.custody.offerSize ≠ some body.utf8ByteSize ||
    new.custody.offerSize.any (fun size => 8388608 < size || size < 1) ||
    !new.custody.offerSha256.any (fun sha => sha.length = 64 && isLowerHex sha) ||
    new.custody.offerVersion ≠ some "json-utf8-compact.v1" ||
    new.custody.offerGeneration ≠ 1 || new.render.jobId.isNone) ||
  (new.custody.policy == requiredPolicy && new.custody.state ≠ some .verified &&
    shapeProtected old &&
    new.status ∈ [.failed, .cancelled, .archived, .completed, .completedWithWarnings]) ||
  new.custody.initialCount < old.custody.initialCount ||
  (new.custody.state == some .verified &&
    (new.custody.verification.isNone || new.archiveRequestId.isNone ||
      new.archiveDocumentId.isNone || old.custody.offerSha256.isNone))

/-- The constraints admit the update of a job row. -/
def admitUpdate (old new : JobRow) : Except LedgerError Unit :=
  if custodyImmutable old new then .error (.integrity "custody_immutable")
  else if custodyShape old new then .error (.integrity "custody_shape")
  else if custodyChecks new.custody then .ok ()
  else .error (.integrity "CHECK constraint failed")

end Constraints

end LotusReport.Jobs
