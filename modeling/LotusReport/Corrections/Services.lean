import LotusReport.Corrections.Calls
import LotusReport.Replay.Services

/-!
# The correction services

`rerender_job` settles the pending linkages of a job, resolves the attempts
whose archive outcome is ambiguous, and only then creates a fresh attempt and
takes it as far as it gets. `regenerate_job` derives a replacement job and links
the two documents once the replacement is archived. The reconciliation settles
the jobs that the query for pending linkages returns. All run as programs over
the same tables, in any interleaving with each other and with the calls of other
components, and any of them may stop between two calls.
-/

namespace LotusReport.Corrections

open Encoding Relational StateMachine Jobs Replay

section Lineage

variable (py : Runtime)

/-- The archive's answers to lineage requests during a call, with the clock at the writes. -/
abbrev LineageAnswers := LineageRequest → ArchiveAnswer × Instant

/-- `record_archive_lineage`; the outcome is written whatever the archive answers. -/
def recordArchiveLineage (answers : LineageAnswers) (callerContext : ReportCallerContext)
    (eventJobId : String) (request : LineageRequest) : CorrectionProgram Unit :=
  .call (.recordLifecycleTransition request (answers request).1) fun answer =>
    write (lineageEventCall eventJobId request answer
      (callContext callerContext (answers request).2))

/-- The requests of a settlement, one after the other. -/
def settleRequests (answers : LineageAnswers) (callerContext : ReportCallerContext)
    (eventJobId : String) : List LineageRequest → CorrectionProgram Unit
  | [] => .done (.ok ())
  | request :: requests =>
      (recordArchiveLineage answers callerContext eventJobId request).andThen fun _ =>
      settleRequests answers callerContext eventJobId requests

/-- `settle_pending_archive_lineage`. -/
def settlePendingArchiveLineage (answers : LineageAnswers) (callerContext : ReportCallerContext)
    (eventJobId : String) : CorrectionProgram Unit :=
  .call (.listStatusEvents eventJobId) fun events =>
    settleRequests answers callerContext eventJobId (outstandingRequests py events)

/-- The caller of the reconciliation of a job. -/
def reconciler (job : JobFile) : ReportCallerContext where
  triggerType := .system
  triggeredBy := "archive-lineage-reconciler"
  callerApplication := "lotus-report"
  tenantId := job.request.tenantId
  region := job.request.region
  correlationId := job.request.correlationId
  traceId := job.request.traceId

/-- The settlement of the listed jobs. -/
def settleJobs (answers : LineageAnswers) : List PendingArchiveLineage → CorrectionProgram Unit
  | [] => .done (.ok ())
  | pending :: rest =>
      (readJob pending.jobId).andThen fun job =>
      (settlePendingArchiveLineage py answers (reconciler job) job.job.reportJobId).andThen fun _ =>
      settleJobs answers rest

/-- `reconcile_pending_archive_lineage`. -/
def reconcilePendingArchiveLineage (answers : LineageAnswers) (limit : Int) :
    CorrectionProgram Unit :=
  .call (.listPendingArchiveLineage limit) fun outstanding => settleJobs py answers outstanding

end Lineage

section Rerender

/-- The snapshot that a rerender reads. -/
structure RetainedSnapshot where
  snapshotId : String
  snapshotHash : String

/-- What the archive answers while an ambiguous attempt is resolved, with the clock at the writes
of the adoption. -/
structure Resolution where
  document : ArchiveAnswer
  archivedAt : Instant
  adoptedAt : Instant

/-- A call of `rerender_job`: its arguments, the identifiers it generates, the answers of the other
components, and the clock at its writes. `renderPackage` is the package builder, `lower` is
`str.lower` and `parseInt` is `int` of a text. -/
structure RerenderPass where
  jobId : String
  reason : String
  callerContext : ReportCallerContext
  idempotencyKey : Option String
  attemptId : String
  adoptedAttemptId : String
  snapshot : Option RetainedSnapshot
  renderPackage : JobFile → AttemptRow → Except String RenderPackage
  renderAnswer : RenderPackage → Option RenderResponse
  resolution : AttemptRow → Resolution
  lineage : LineageAnswers
  lower : String → String
  parseInt : String → Option Int
  clock : Nat → Instant

variable (py : Runtime) (pass : RerenderPass)

/-- The context of a write of the rerender. -/
def RerenderPass.context (n : Nat) : CallContext := callContext pass.callerContext (pass.clock n)

/-- `rerender_eligible`, as the assertion that the rerender makes. -/
def assertRerenderEligible (f : JobFile) : Except LedgerError Unit := do
  let format ← if f.job.status = .archived then
    documentOutputFormat f.request.requestedOutputFormats else .ok none
  if format.isSome && present f.job.render.jobId && present f.job.archiveDocumentId then .ok ()
  else .error (.invalidJobTransition "report_job_cannot_be_rerendered")

/-- The archive request under which the document of an attempt is looked up. -/
def lookupRequestId (attempt : AttemptRow) : String :=
  if present attempt.archiveRequestId then attempt.archiveRequestId.getD ""
  else "arch_" ++ attempt.renderJobId

/-- The document that the archive holds, if it answers with one. -/
def foundDocument (response : Int × Fields) : Option String :=
  if response.1 = 200 then optionalStr response.2 "document_id" else none

/-- The linkage of a correction, where the job had a document before it. -/
def linkCorrection (attempt : AttemptRow) (documentId transitionReason : String) :
    CorrectionProgram Unit :=
  match attempt.previousArchiveDocumentId with
  | some previous =>
      if previous = "" then .done (.ok ())
      else recordArchiveLineage pass.lineage pass.callerContext attempt.reportJobId
        ⟨⟨previous, documentId, "correct"⟩, transitionReason⟩
  | none => .done (.ok ())

/-- The adoption of a committed correction; the first one becomes the outcome of the request. -/
def adoptCorrection (job : JobFile) (attempt : AttemptRow) (documentId : String)
    (adopted : Option AttemptRow) : CorrectionProgram AttemptRow :=
  .call (.markRerenderArchived attempt.rerenderAttemptId documentId
      (callContext pass.callerContext (pass.resolution attempt).archivedAt)) fun archived =>
    (require archived).andThen fun _ =>
    (linkCorrection pass attempt documentId
      ("Rerender correction " ++ attempt.rerenderAttemptId ++ " (adopted)")).andThen fun _ =>
    match adopted with
    | some outcome => .done (.ok outcome)
    | none =>
        .call (.recordAdoptedRerenderOutcome
          { job := job
            idempotencyKey := pass.idempotencyKey.getD ""
            reason := pass.reason
            adopted := attempt
            archiveDocumentId := documentId
            attemptId := pass.adoptedAttemptId
            context := callContext pass.callerContext (pass.resolution attempt).adoptedAt }) require

/-- What follows the lookup of an attempt: a document is adopted, an absence lets the resolution go
on, and anything else refuses the rerender. -/
def concludeLookup (job : JobFile) (attempt : AttemptRow) (adopted : Option AttemptRow)
    (resolveRest : Option AttemptRow → CorrectionProgram (Option AttemptRow)) :
    ArchiveAnswer → CorrectionProgram (Option AttemptRow)
  | none => refuse cannotBeRerendered
  | some response =>
      match foundDocument response with
      | some documentId =>
          (adoptCorrection pass job attempt documentId adopted).andThen fun outcome =>
          resolveRest (some outcome)
      | none => if response.1 ≠ 404 then refuse cannotBeRerendered else resolveRest adopted

/-- The resolution of the listed attempts, newest first. -/
def resolveEach (job : JobFile) : List AttemptRow → Option AttemptRow →
    CorrectionProgram (Option AttemptRow)
  | [], adopted => .done (.ok adopted)
  | attempt :: attempts, adopted =>
      .call (.getDocumentByRequestId attempt (lookupRequestId attempt)
        (pass.resolution attempt).document)
        (concludeLookup pass job attempt adopted (resolveEach job attempts))

/-- `_resolve_ambiguous_attempts`, with the attempts that it resolved. -/
def resolveAmbiguousAttempts (job : JobFile) :
    CorrectionProgram (Option AttemptRow × List String) :=
  .call (.listUnresolvedArchiveAmbiguousAttempts job.job.reportJobId) fun attempts =>
    (resolveEach pass job attempts none).andThen fun adopted =>
    .done (.ok (adopted, (attempts : List AttemptRow).map (·.rerenderAttemptId)))

/-- `derive_archive_request_id`. -/
def deriveArchiveRequestId (lower : String → String) (documentReference artifactSha256 : String) :
    String :=
  let text := lower (strip artifactSha256)
  let normalized := if startsWith text "sha256:" then String.ofList (text.toList.drop 7) else text
  "areq_" ++ clip 32 (py.sha256 (documentReference ++ "\n" ++ normalized))

/-- The archive request of a render response. -/
def archiveRequestIdOf (package : RenderPackage) (payload : Fields) : Option String :=
  match optionalStr payload "archive_request_id" with
  | some archiveRequestId => some archiveRequestId
  | none => (optionalStr payload "artifact_sha256").map
      (deriveArchiveRequestId py pass.lower package.documentReference)

/-- Record the failure of an attempt. -/
def failAttempt (attempt : AttemptRow) (failure : RerenderFailure) (cause : RenderResponse) :
    CorrectionProgram AttemptRow :=
  .call (.markRerenderFailed attempt.rerenderAttemptId failure cause (pass.context 4)) require

/-- The failure of an attempt whose document is not archived. -/
def archiveFailure (archiveRequestId : Option String) (payload : Fields) :
    RerenderFailure :=
  let archiveState := optionalStr payload "archive_state"
  let archiveDetail := (optionalStr payload "archive_detail").getD ""
  if archiveState = some "archive_pending" ∧ archiveRequestId ≠ none then
    { failureCategory := .archiveOutcomeUnknown
      failureMessage := "Archive custody is unresolved for " ++ archiveRequestId.getD "" ++
        ": the handoff deadline expired and the correction may have committed. Attempt " ++
        "recovery resolves this request id before any new attempt."
      retryEligible := true }
  else if archiveState = some "archive_failed" then
    { failureCategory := .archiveHandoffFailed
      failureMessage := "lotus-render's archive handoff failed" ++
        (match archiveRequestId with
          | some requestId => " for " ++ requestId
          | none => "") ++
        (if archiveDetail = "" then "" else ": " ++ archiveDetail)
      retryEligible := !isTerminalArchiveRefusal archiveDetail }
  else
    { failureCategory := .archiveHandoffNotConfigured
      failureMessage := "The correction rendered but no archive handoff applied (archive_state=" ++
        (match archiveState with
          | some text => reprText py text
          | none => "None") ++
        "). Report no longer relays bytes; configure lotus-render's archive handoff and retry."
      retryEligible := true }

/-- The outcome of the delivery once the archive request is recorded. -/
def concludeDelivery (attempt : AttemptRow) (archiveRequestId : Option String)
    (response : RenderResponse) : CorrectionProgram AttemptRow :=
  match optionalStr response.2 "archive_document_id", archiveRequestId with
  | some documentId, some _ =>
      if optionalStr response.2 "archive_state" = some "archived_verified" then
        .call (.markRerenderArchived attempt.rerenderAttemptId documentId (pass.context 3))
          fun archived =>
            (require archived).andThen fun row =>
            (linkCorrection pass attempt documentId
              ("Rerender correction " ++ attempt.rerenderAttemptId)).andThen fun _ =>
            .done (.ok row)
      else failAttempt pass attempt (archiveFailure py archiveRequestId response.2) response
  | _, _ => failAttempt pass attempt (archiveFailure py archiveRequestId response.2) response

/-- `_record_rerender_archive_outcome`. -/
def recordRerenderArchiveOutcome (attempt : AttemptRow) (package : RenderPackage)
    (response : RenderResponse) : CorrectionProgram AttemptRow :=
  match archiveRequestIdOf py pass package response.2 with
  | none => concludeDelivery py pass attempt none response
  | some archiveRequestId =>
      .call (.markRerenderArchiving attempt.rerenderAttemptId archiveRequestId (pass.clock 2))
        fun archiving =>
          (require archiving).andThen fun _ =>
          concludeDelivery py pass attempt (some archiveRequestId) response

/-- `_optional_int`. -/
def optionalInt (parseInt : String → Option Int) : Option Json → Option Int
  | some (.bool b) => some (if b then 1 else 0)
  | some (.int n) => some n
  | some (.str text) => parseInt text
  | _ => none

/-- The `detail` object of an error response. -/
def detailOf (payload : Fields) : Fields :=
  match Json.lookup payload "detail" with
  | some (.obj detail) => detail
  | _ => []

/-- `_render_failure_posture`. -/
def renderFailurePosture (response : RenderResponse) : ReportFailureCategory × Bool :=
  let code := match Json.lookup (detailOf response.2) "code" with
    | some value => if value.truthy then pyStr py value else ""
    | none => ""
  if response.1 = 409 ∨ code = "render_job_conflict" then (.renderConflict, false)
  else if response.1 = 422 ∨ code = "render_package_invalid" then (.renderValidationFailed, false)
  else (.renderExecutionFailed, decide (500 ≤ response.1))

/-- `_render_failure_message`. -/
def renderFailureMessage (payload : Fields) : String :=
  match Json.lookup payload "detail" with
  | some (.obj detail) => (optionalStr detail "message").getD "lotus-render execution failed."
  | _ => (coalesce (optionalStr payload "failure_message") (optionalStr payload "detail")).getD
      "lotus-render execution failed."

/-- What becomes of an attempt once the renderer has answered. -/
def concludeRender (attempt : AttemptRow) (package : RenderPackage) (response : RenderResponse) :
    CorrectionProgram AttemptRow :=
  if rendered response then
    match templateContractMismatch package response.2 with
    | some mismatch => failAttempt pass attempt ⟨.renderValidationFailed, mismatch, false⟩ response
    | none =>
        .call (.markRerenderRendered attempt.rerenderAttemptId
            (match Json.lookup response.2 "render_job_id" with
              | some value => if value.truthy then pyStr py value else attempt.renderJobId
              | none => attempt.renderJobId)
            (optionalStr response.2 "artifact_sha256")
            (optionalStr response.2 "bounded_determinism_fingerprint")
            (optionalStr response.2 "runtime_engine")
            (optionalStr response.2 "runtime_engine_version")
            (optionalInt pass.parseInt (Json.lookup response.2 "render_duration_ms"))
            (pass.clock 1)) fun outcome =>
          (require outcome).andThen fun row =>
          recordRerenderArchiveOutcome py pass row package response
  else
    let (failureCategory, retryEligible) := renderFailurePosture py response
    failAttempt pass attempt
      ⟨failureCategory, renderFailureMessage response.2, retryEligible⟩ response

/-- What follows the submission of a package; an exception of the client is not caught. -/
def concludeSubmission (attempt : AttemptRow) (package : RenderPackage) :
    Option RenderResponse → CorrectionProgram AttemptRow
  | none => refuse .renderUnavailable
  | some response => concludeRender py pass attempt package response

/-- The render of a fresh attempt. -/
def renderAttempt (job : JobFile) (attempt : AttemptRow) : CorrectionProgram AttemptRow :=
  match pass.renderPackage job attempt with
  | .error message => refuse (.rejected message)
  | .ok package =>
      .call (.submitRenderPackage attempt.rerenderAttemptId package (pass.renderAnswer package))
        (concludeSubmission py pass attempt package)

/-- The fresh attempt of a rerender, where no earlier one was adopted. -/
def rerenderAfresh (job : JobFile) (snapshot : RetainedSnapshot) (lookedUp : List String) :
    CorrectionProgram AttemptRow :=
  .call (.createRerenderAttempt lookedUp
    { job := job
      snapshotId := snapshot.snapshotId
      snapshotHash := snapshot.snapshotHash
      idempotencyKey := pass.idempotencyKey.getD ""
      reason := pass.reason
      attemptId := pass.attemptId
      context := pass.context 0 }) fun outcome =>
    (require outcome).andThen fun (attempt, created) =>
    if created then renderAttempt py pass job attempt else .done (.ok attempt)

/-- What `rerender_job` does once its arguments are accepted. -/
def rerenderAccepted (job : JobFile) (snapshot : RetainedSnapshot) : CorrectionProgram AttemptRow :=
  (settlePendingArchiveLineage py pass.lineage pass.callerContext job.job.reportJobId).andThen
    fun _ =>
  (resolveAmbiguousAttempts pass job).andThen fun (adopted, lookedUp) =>
  match adopted with
  | some outcome => .done (.ok outcome)
  | none => rerenderAfresh py pass job snapshot lookedUp

/-- `rerender_job`. -/
def rerenderJob : CorrectionProgram AttemptRow :=
  if strip (pass.idempotencyKey.getD "") = "" then refuse (.jobs .missingIdempotencyKey)
  else
    (readJob pass.jobId).andThen fun job =>
    (require (assertJobVisible job pass.callerContext)).andThen fun _ =>
    (require (assertRerenderEligible job)).andThen fun _ =>
    match pass.snapshot with
    | none => refuse (.jobs .jobNotFound)
    | some snapshot => rerenderAccepted py pass job snapshot

end Rerender

section Regenerate

/-- A call of `regenerate_job`, with the identifiers it generates, the archive's answers and the
clock at its writes. -/
structure RegeneratePass where
  jobId : String
  reason : String
  callerContext : ReportCallerContext
  idempotencyKey : Option String
  generated : Generated
  lineage : LineageAnswers
  clock : Nat → Instant

/-- `ReportRegenerateResult`, without the snapshots. -/
structure ReportRegenerateResult where
  sourceJob : JobFile
  regeneratedJob : JobFile
  idempotencyKey : String

/-- `_assert_regenerate_eligible`. -/
def assertRegenerateEligible (f : JobFile) : Except LedgerError Unit :=
  if f.job.reportType ≠ "portfolio_review" then
    .error (.invalidJobTransition "report_job_cannot_be_regenerated")
  else if f.job.status ≠ .archived ∨ "pdf" ∉ f.request.requestedOutputFormats ∨
      present f.job.render.jobId = false ∨ present f.job.archiveDocumentId = false then
    .error (.invalidJobTransition "report_job_cannot_be_regenerated")
  else .ok ()

/-- `_regenerate_idempotency_key`. -/
def regenerateIdempotencyKey (sourceJobId : String) (idempotencyKey : Option String) :
    Except LedgerError String :=
  recoveryKey "regenerate" sourceJobId idempotencyKey

variable (pass : RegeneratePass) (source : JobFile)

/-- The context of a write of the regeneration. -/
def RegeneratePass.context (n : Nat) : CallContext := callContext pass.callerContext (pass.clock n)

/-- `_upsert_regenerate_relationship`. -/
def upsertRegenerateRelationship (regenerated : JobFile) (now : Instant) : CorrectionProgram Unit :=
  write (.upsertJobRelationship
    { sourceJobId := source.job.reportJobId
      sourceStatus := source.job.status
      sourceFailureCategory := source.job.failureCategory
      derivedJobId := regenerated.job.reportJobId
      derivedStatus := regenerated.job.status
      derivedFailureCategory := regenerated.job.failureCategory
      relationshipType := .regenerateReplacement
      actor := pass.callerContext.triggeredBy
      reason := pass.reason
      archiveConsequence := some "replacement"
      previousArchiveDocumentId := source.job.archiveDocumentId
      newArchiveDocumentId := regenerated.job.archiveDocumentId
      now := now })

/-- The capture of an accepted replacement; it makes its calls as another component. -/
def captureRegenerated (regenerated : JobFile) (regenerateKey : String) :
    CorrectionProgram JobFile :=
  if regenerated.job.status = .accepted then
    (write (.appendJobEvent source.job.reportJobId "job_regenerate_requested"
      ("Report regeneration requested from upstream data as " ++ regenerated.job.reportJobId ++
        ": " ++ pass.reason)
      [("regenerated_job_id", .str regenerated.job.reportJobId)] (some regenerateKey) false
      (pass.context 1))).andThen fun _ =>
    readJob regenerated.job.reportJobId
  else .done (.ok regenerated)

/-- The render of a replacement with its data; it makes its calls as another component. -/
def renderRegenerated (regenerated : JobFile) : CorrectionProgram JobFile :=
  if regenerated.job.status = .dataReady then readJob regenerated.job.reportJobId
  else .done (.ok regenerated)

/-- `_append_source_event_once`. -/
def appendRegenerateArchived (regenerated : JobFile) (documentId : String) :
    CorrectionProgram Unit :=
  .call (.listStatusEvents source.job.reportJobId) fun events =>
    if (events : List EventRow).any fun e => e.eventType == "job_regenerate_archived" &&
        Json.lookup (payloadOf e) "regenerated_job_id" ==
          some (.str regenerated.job.reportJobId) then
      .done (.ok ())
    else
      write (.appendJobEvent source.job.reportJobId "job_regenerate_archived"
        ("Report regeneration archived replacement document " ++ documentId ++ " from job " ++
          regenerated.job.reportJobId ++ ".")
        [ ("regenerated_job_id", .str regenerated.job.reportJobId),
          ("archive_document_id", .str documentId) ]
        (some ("job_regenerate_archived:" ++ source.job.reportJobId ++ ":" ++
          regenerated.job.reportJobId)) false (pass.context 2))

/-- The linkage of an archived replacement. -/
def linkReplacement (regenerated : JobFile) : CorrectionProgram Unit :=
  if regenerated.job.status ≠ .archived then .done (.ok ())
  else
    match if present regenerated.job.archiveDocumentId then regenerated.job.archiveDocumentId
        else none with
    | none => refuse (.jobs (.invalidJobTransition
        "report_job_regenerate_archive_document_missing"))
    | some documentId =>
        (appendRegenerateArchived pass source regenerated documentId).andThen fun _ =>
        match source.job.archiveDocumentId with
        | some sourceDocumentId =>
            if sourceDocumentId = "" then .done (.ok ())
            else recordArchiveLineage pass.lineage pass.callerContext source.job.reportJobId
              ⟨⟨sourceDocumentId, documentId, "supersede"⟩,
                "Regenerate replacement by " ++ regenerated.job.reportJobId⟩
        | none => .done (.ok ())

/-- What `regenerate_job` does once the source is accepted. -/
def regenerateAccepted (regenerateKey : String) (request : PortfolioReviewJobRequest) :
    CorrectionProgram ReportRegenerateResult :=
  .call (.createJob (createPortfolioReviewJob pass.callerContext (some regenerateKey)
      pass.generated request)) fun outcome =>
    (require outcome).andThen fun regenerated =>
    (upsertRegenerateRelationship pass source regenerated (pass.clock 0)).andThen fun _ =>
    (captureRegenerated pass source regenerated regenerateKey).andThen fun regenerated =>
    (renderRegenerated regenerated).andThen fun regenerated =>
    (linkReplacement pass source regenerated).andThen fun _ =>
    (upsertRegenerateRelationship pass source regenerated (pass.clock 3)).andThen fun _ =>
    .done (.ok ⟨source, regenerated, pass.idempotencyKey.getD ""⟩)

/-- `regenerate_job`. -/
def regenerateJob : CorrectionProgram ReportRegenerateResult :=
  (readJob pass.jobId).andThen fun source =>
  (require (assertJobVisible source pass.callerContext)).andThen fun _ =>
  (require (assertRegenerateEligible source)).andThen fun _ =>
  (require (regenerateIdempotencyKey source.job.reportJobId pass.idempotencyKey)).andThen
    fun regenerateKey =>
  match portfolioReviewRequestFromJob source with
  | .error message => refuse (.rejected message)
  | .ok request => regenerateAccepted pass source regenerateKey request

end Regenerate

section System

/-- What may start: a correction service, or a call of another component on the job ledger. -/
inductive CorrectionActivity where
  | rerender (pass : RerenderPass)
  | regenerate (pass : RegeneratePass)
  | reconcile (answers : LineageAnswers) (limit : Int)
  | jobs (call : Jobs.Call)

/-- The program of an activity; the outcome is not used any more. -/
def CorrectionActivity.program (py : Runtime) :
    CorrectionActivity → Program CorrectionCall CorrectionCall.Result Unit
  | rerender pass => (rerenderJob py pass).bind fun _ => .done ()
  | regenerate pass => (regenerateJob pass).bind fun _ => .done ()
  | reconcile answers limit =>
      (reconcilePendingArchiveLineage py answers limit).bind fun _ => .done ()
  | jobs call => .call (.jobs call) fun _ => .done ()

/-- The tables with the activities under way. -/
abbrev CorrectionSystem := System CorrectionState CorrectionCall CorrectionCall.Result Unit

/-- One step of the correction system. -/
def correctionStep (d : Deployment) :
    CorrectionSystem → Event CorrectionActivity → CorrectionSystem :=
  System.step (CorrectionState.perform d) (CorrectionActivity.program d.toRuntime)

/-- The system on a job ledger without rerender attempts. -/
def CorrectionSystem.initial (jobs : Jobs.Ledger) : CorrectionSystem :=
  System.initial (CorrectionState.initial jobs)

end System

end LotusReport.Corrections
