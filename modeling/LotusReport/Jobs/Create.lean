import LotusReport.Jobs.DocumentContract
import LotusReport.Jobs.Requests
import LotusReport.Jobs.Store
import LotusReport.Relational.Query

/-!
# Acceptance of report jobs

`_create_report_job` in one transaction: the idempotency lookup by tenant and
key, the lineage guard of a replay, and the rows of a new job. The values that
the platform generates (identifiers, the clock, the custody policy of the
deployment) are part of the call.
-/

namespace LotusReport.Jobs

open Encoding Relational

/-- The values that the platform generates during a creation. -/
structure Generated where
  requestId : String
  jobId : String
  workItemId : String
  /-- The outcome of `acceptance_policy`. -/
  acceptancePolicy : Except LedgerError (Option CustodyPolicy) := .ok none
  now : Instant

/-- A call of `_create_report_job`. -/
structure CreateCall extends Generated where
  reportType : String
  acceptedMessage : String
  request : ReportJobRequest
  callerContext : ReportCallerContext
  idempotencyKey : Option String
  enqueue : Bool := false
  /-- `replay_source_job_id` with `replay_reason`. -/
  replay : Option (String × String) := none
  inheritedTemplate : Option TemplatePair := none
  inheritedContract : Option Fields := none
  twrAdmission : Option AcceptedTwrAdmission := none

/-- The key under which the call is accepted. -/
def CreateCall.normalizedKey (c : CreateCall) : Option String :=
  match c.idempotencyKey with
  | none => none
  | some key => if strip key = "" then none else some (strip key)

/-- What a call asks for, before the ledger is read. -/
structure Submission where
  key : String
  parts : RequestParts
  template : TemplatePair
  contract : Fields
  requestHash : String

/-- The part of `_create_report_job` in front of its transaction. -/
def submission (d : Deployment) (c : CreateCall) : Except LedgerError Submission :=
  match c.normalizedKey with
  | none => .error .missingIdempotencyKey
  | some key => do
      let parts ← requestParts d.toRuntime c.request
      requireInternalAdmission d.toRuntime c.request parts.options c.callerContext.tenantId
        c.twrAdmission
      let resolved ← jobTemplateIdentity d.toRuntime c.reportType parts.outputFormats
        c.inheritedTemplate
      let contract ← resolveJobAcceptedContract d c.reportType parts.outputFormats
        c.inheritedTemplate c.inheritedContract parts.options
      return {
        key := key
        parts := parts
        template := templateForAcceptedContract contract resolved
        contract := contract
        requestHash := computeRequestHash d.toRuntime c.reportType parts c.callerContext }

section ReplayGuard

variable (s : Ledger)

/-- The `failed_work_replay` edges. -/
def Ledger.replayEdges : List (String × String) :=
  (s.relationships.rows.filter fun r => r.relationshipType == .failedWorkReplay).map fun r =>
    (r.sourceReportJobId, r.derivedReportJobId)

/-- The query for the root of a lineage: an ancestor that derives from no job. -/
def Ledger.lineageRoot (sourceJobId : String) : String :=
  ((recursiveUnion (s.replayEdges.map Prod.swap) sourceJobId).find? fun ancestor =>
    !s.replayEdges.any fun e => e.2 == ancestor).getD sourceJobId

/-- The condition on a member of the lineage that refuses a further replay. -/
def Ledger.blocksReplay (member : JobRow) : Bool :=
  (Condition.neg (Condition.or (some (member.status == .cancelled))
    (Condition.and (some (member.status == .failed))
      (Condition.or
        (Condition.notIn member.failureCategory ReportFailureCategory.archiveAmbiguousCategories)
        (some (s.replayEdges.any fun e => e.1 == member.reportJobId)))))).holds

/-- The query for a live member of the lineage other than the source. -/
def Ledger.liveMember (rootId sourceJobId : String) : Bool :=
  (recursiveUnion s.replayEdges rootId).any fun id =>
    id != sourceJobId && (s.jobs.find? id).any fun member => s.blocksReplay member

/-- `report_job_cannot_be_replayed`. -/
def cannotBeReplayed : LedgerError := .invalidJobTransition "report_job_cannot_be_replayed"

/-- The replay lineage guard: the source row when it may be replayed. -/
def Ledger.replayGuard (sourceJobId : String) : Except LedgerError JobRow :=
  match s.jobs.find? sourceJobId with
  | none => .error .jobNotFound
  | some source =>
      if source.status ≠ .failed || !source.retryEligible || present source.archiveDocumentId then
        .error cannotBeReplayed
      else if s.liveMember (s.lineageRoot sourceJobId) sourceJobId then .error cannotBeReplayed
      else .ok source

end ReplayGuard

section Rows

/-- The fields of an object after a round trip through its canonical text. -/
def storedObject (fields : Fields) : Fields :=
  Json.sortFields (Json.canonicalFields fields)

/-- The request row of a new job. -/
def CreateCall.requestRow (c : CreateCall) (sub : Submission) (options : Fields) :
    RequestRow where
  reportRequestId := c.requestId
  reportType := c.reportType
  portfolioScope := storedObject sub.parts.portfolioScope
  requestedOutputFormats := sortedTexts sub.parts.outputFormats
  asOfDate := sub.parts.asOfDate
  reportingCurrency := sub.parts.reportingCurrency
  options := storedObject options
  triggerType := c.callerContext.triggerType
  triggeredBy := c.callerContext.triggeredBy
  callerApplication := c.callerContext.callerApplication
  tenantId := c.callerContext.tenantId
  region := c.callerContext.region
  bookingCenterCode := c.callerContext.bookingCenterCode
  role := c.callerContext.role
  idempotencyKey := sub.key
  requestHash := sub.requestHash
  correlationId := c.callerContext.correlationId
  traceId := c.callerContext.traceId
  createdAt := dtToText c.now

/-- The job row of a new job. -/
def CreateCall.jobRow (c : CreateCall) (sub : Submission) (policy : Option CustodyPolicy) :
    JobRow where
  reportJobId := c.jobId
  reportRequestId := c.requestId
  reportType := c.reportType
  portfolioScope := storedObject sub.parts.portfolioScope
  status := .accepted
  currentStep := "accepted"
  createdAt := dtToText c.now
  updatedAt := dtToText c.now
  render := { templateId := sub.template.1, templateVersion := sub.template.2 }
  acceptedDocumentContract := some (.obj (storedObject sub.contract))
  custody := { policy := policy }

/-- The relationship row of a replay. -/
def CreateCall.relationshipRow (c : CreateCall) (source : JobRow) (reason : String) :
    RelationshipRow where
  sourceReportJobId := source.reportJobId
  derivedReportJobId := c.jobId
  relationshipType := .failedWorkReplay
  sourceStatus := source.status
  derivedStatus := .accepted
  sourceFailureCategory := source.failureCategory
  derivedFailureCategory := none
  archiveConsequence := none
  previousArchiveDocumentId := none
  newArchiveDocumentId := none
  actor := c.callerContext.triggeredBy
  reason := reason
  createdAt := dtToText c.now
  updatedAt := dtToText c.now

end Rows

namespace Ledger

/-- `_load_by_request_id`. -/
def loadByRequestId (s : Ledger) (requestId : String) : Option JobFile :=
  match s.jobs.rows.find? fun job => job.reportRequestId == requestId with
  | none => none
  | some job => s.file? job.reportJobId

/-- `requires_work_item` and `_ensure_work_item`. -/
def ensureWorkItem (s : Ledger) (c : CreateCall) (record : JobFile) : Ledger :=
  if c.enqueue || record.job.custody.policy.isSome then
    s.store (record.ensureWork c.workItemId c.now)
  else s

/-- The call finds a request of its tenant under its key. -/
def acceptExisting (d : Deployment) (s : Ledger) (c : CreateCall) (sub : Submission)
    (existing : RequestRow) : Except LedgerError (JobFile × Ledger) :=
  match s.loadByRequestId existing.reportRequestId with
  | none => .error .jobNotFound
  | some record =>
      if existing.requestHash ≠ sub.requestHash ∧
          sub.requestHash ≠ clientIdentityHashFromRecord d.toRuntime record.request then
        .error .idempotencyConflict
      else do
        requireSameAdmission d.coercions record.request record.job c.twrAdmission
        return (record, s.ensureWorkItem c record)

/-- The guarded source of the call, when it replays one. -/
def replaySource (s : Ledger) (c : CreateCall) : Except LedgerError (Option (JobRow × String)) :=
  match c.replay with
  | none => .ok none
  | some (sourceJobId, reason) => do
      let source ← s.replayGuard sourceJobId
      return some (source, reason)

/-- The relationship table with the edge of a replay. -/
def relate (s : Ledger) (c : CreateCall) :
    Option (JobRow × String) → Table RelationshipRow.pair RelationshipRow.pair
  | none => s.relationships
  | some (source, reason) =>
      (s.relationships.insert? (c.relationshipRow source reason)).getD s.relationships

/-- The call finds no request under its key and accepts a new job. -/
def acceptNew (s : Ledger) (c : CreateCall) (sub : Submission) :
    Except LedgerError (JobFile × Ledger) := do
  let source ← s.replaySource c
  let options ← bindAdmission sub.parts.options c.twrAdmission c.requestId c.jobId
    c.callerContext.correlationId c.callerContext.traceId
  match s.requests.insert? (c.requestRow sub options) with
  | none => .error (.integrity "UNIQUE constraint failed: report_request")
  | some requests => do
      let policy ← c.acceptancePolicy
      match s.jobs.insert? (c.jobRow sub policy) with
      | none => .error (.integrity "UNIQUE constraint failed: report_job")
      | some jobs => do
          let record ← (JobFile.mk (c.requestRow sub options) (c.jobRow sub policy) none
            []).appendStatusEvent none .accepted "job_accepted" (some c.acceptedMessage)
              [("report_type", .str c.reportType)] (some sub.key) c.callerContext.triggeredBy
              c.callerContext.correlationId c.callerContext.traceId c.now
          let s' : Ledger :=
            { s with
              requests := requests
              jobs := jobs
              relationships := s.relate c source
              events := s.events ++ record.events }
          return (record, s'.ensureWorkItem c record)

/-- `_create_report_job`. -/
def createReportJob (d : Deployment) (s : Ledger) (c : CreateCall) :
    Except LedgerError (JobFile × Ledger) := do
  let sub ← submission d c
  match s.requests.lookup? (c.callerContext.tenantId, sub.key) with
  | some existing => s.acceptExisting d c sub existing
  | none => s.acceptNew c sub

end Ledger

section Creators

variable (callerContext : ReportCallerContext) (idempotencyKey : Option String) (g : Generated)

/-- The call of `submit_composite_review_job`. -/
def submitCompositeReviewJob (request : CompositeReviewJobRequest)
    (twrAdmission : Option AcceptedTwrAdmission) : Except LedgerError CreateCall :=
  if request.selectionTenantId ≠ callerContext.tenantId then
    .error (.valueError "COMPOSITE_REPORT_TENANT_MISMATCH")
  else .ok
    { toGenerated := g
      reportType := "composite_review"
      acceptedMessage := "Composite review dataset job accepted."
      request := .composite request
      callerContext := callerContext
      idempotencyKey := idempotencyKey
      enqueue := true
      twrAdmission := twrAdmission }

/-- The call of `create_portfolio_review_job`. -/
def createPortfolioReviewJob (request : PortfolioReviewJobRequest) : CreateCall :=
  { toGenerated := g
    reportType := "portfolio_review"
    acceptedMessage := "Portfolio review report job accepted."
    request := .portfolio request
    callerContext := callerContext
    idempotencyKey := idempotencyKey }

/-- The call of `submit_portfolio_review_job`. -/
def submitPortfolioReviewJob (request : PortfolioReviewJobRequest) : CreateCall :=
  { createPortfolioReviewJob callerContext idempotencyKey g request with enqueue := true }

/-- The call of `create_outcome_review_report_job`. -/
def createOutcomeReviewReportJob (request : ManagedReportJobRequest) : CreateCall :=
  { toGenerated := g
    reportType := "outcome_review"
    acceptedMessage := "Outcome review report job accepted."
    request := .outcome request
    callerContext := callerContext
    idempotencyKey := idempotencyKey }

/-- The call of `create_proof_pack_report_job`. -/
def createProofPackReportJob (request : ManagedReportJobRequest) : CreateCall :=
  { toGenerated := g
    reportType := "proof_pack"
    acceptedMessage := "Proof-pack report job accepted."
    request := .proofPack request
    callerContext := callerContext
    idempotencyKey := idempotencyKey }

/-- The call of `create_wave_report_job`. -/
def createWaveReportJob (request : ManagedReportJobRequest) : CreateCall :=
  { toGenerated := g
    reportType := "rebalance_wave"
    acceptedMessage := "Rebalance wave report job accepted."
    request := .wave request
    callerContext := callerContext
    idempotencyKey := idempotencyKey }

/-- The accepted contract of a stored job. -/
def acceptedContract (job : JobRow) : Option Fields :=
  match job.acceptedDocumentContract with
  | some (.obj fields) => some fields
  | _ => none

/-- The `report_data_contract_version` of a stored job. -/
def dataContractVersion (job : JobRow) : Option String :=
  (acceptedContract job).bind fun contract => axisText contract "report_data_contract_version"

/-- `resolution_replay_supported`. -/
def resolutionReplaySupported (record : JobFile) : Bool :=
  let template : Option String := match dataContractVersion record.job with
    | some "composite_review.v8" => some "v8"
    | some "composite_review.v9" => some "v9"
    | _ => none
  record.job.reportType == "portfolio_review" ||
    (record.job.reportType == "composite_review" &&
      record.request.requestedOutputFormats == ["xlsx"] && template.isSome &&
      record.job.render.templateId == some "composite-review" &&
      record.job.render.templateVersion == template)

/-- The admission that a replay inherits; `frozen` is the outcome of `composite_replay_request`. -/
def replayAdmission (co : Coercions) (source : JobFile) (request : ReportJobRequest)
    (frozen : Except LedgerError CompositeReviewJobRequest) :
    Except LedgerError (Option AcceptedTwrAdmission) :=
  if source.job.reportType = "composite_review" then do
    let expected ← frozen
    if request ≠ .composite expected then .error cannotBeReplayed
    else if dataContractVersion source.job ≠ some "composite_review.v9" then
      let binding ← bindingForJob co source.request source.job
      return some binding.admission
    else return none
  else .ok none

/-- The call of `create_replay_derived_job`, from the record it has read of the source. -/
def createReplayDerivedJob (co : Coercions) (source : JobFile) (request : ReportJobRequest)
    (frozen : Except LedgerError CompositeReviewJobRequest) (reason : String) :
    Except LedgerError CreateCall :=
  if !resolutionReplaySupported source then .error cannotBeReplayed
  else do
    let admission ← replayAdmission co source request frozen
    return {
      toGenerated := g
      reportType := source.job.reportType
      acceptedMessage :=
        if source.job.reportType = "portfolio_review" then "Portfolio review report job accepted."
        else "Composite review recovery job accepted."
      request := request
      callerContext := callerContext
      idempotencyKey := idempotencyKey
      replay := some (source.job.reportJobId, reason)
      inheritedTemplate := some (source.job.render.templateId, source.job.render.templateVersion)
      inheritedContract := acceptedContract source.job
      twrAdmission := admission }

end Creators

section Relationship

/-- A call of `upsert_job_relationship`, with the fields it reads from the two records. -/
structure RelationshipCall where
  sourceJobId : String
  sourceStatus : ReportJobStatus
  sourceFailureCategory : Option ReportFailureCategory
  derivedJobId : String
  derivedStatus : ReportJobStatus
  derivedFailureCategory : Option ReportFailureCategory
  relationshipType : ReportJobRelationshipType
  actor : String
  reason : String
  archiveConsequence : Option String := none
  previousArchiveDocumentId : Option String := none
  newArchiveDocumentId : Option String := none
  now : Instant

/-- `_bounded_relationship_reason`. -/
def boundedRelationshipReason (reason : String) : String :=
  if collapse reason = "" then "not_provided" else clip 240 (collapse reason)

/-- The row that the call writes. -/
def RelationshipCall.row (c : RelationshipCall) (createdAt : Timestamp) : RelationshipRow where
  sourceReportJobId := c.sourceJobId
  derivedReportJobId := c.derivedJobId
  relationshipType := c.relationshipType
  sourceStatus := c.sourceStatus
  derivedStatus := c.derivedStatus
  sourceFailureCategory := c.sourceFailureCategory
  derivedFailureCategory := c.derivedFailureCategory
  archiveConsequence := c.archiveConsequence
  previousArchiveDocumentId := c.previousArchiveDocumentId
  newArchiveDocumentId := c.newArchiveDocumentId
  actor := c.actor
  reason := boundedRelationshipReason c.reason
  createdAt := createdAt
  updatedAt := dtToText c.now

/-- The key of the row that the call writes. -/
def RelationshipCall.pair (c : RelationshipCall) : String × String × ReportJobRelationshipType :=
  (c.sourceJobId, c.derivedJobId, c.relationshipType)

/-- `upsert_job_relationship`. -/
def Ledger.upsertJobRelationship (s : Ledger) (c : RelationshipCall) : Except LedgerError Ledger :=
  match s.relationships.find? c.pair with
  | some existing => .ok { s with relationships := s.relationships.put (c.row existing.createdAt) }
  | none =>
      if (s.jobs.find? c.sourceJobId).isNone || (s.jobs.find? c.derivedJobId).isNone then
        .error (.integrity "FOREIGN KEY constraint failed")
      else
        match s.relationships.insert? (c.row (dtToText c.now)) with
        | some relationships => .ok { s with relationships := relationships }
        | none => .error (.integrity "UNIQUE constraint failed: report_job_relationship")

end Relationship

end LotusReport.Jobs
