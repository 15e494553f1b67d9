import LotusReport.Replay.Calls

/-!
# The recovery services

`replay_item` derives a new job for a failed batch item and links the item to
it; `replay_job` derives a new job from a failed report job, after it has
resolved what became of the job's document, and takes the new job as far as it
gets. Both run as programs over the same ledgers, in any interleaving with each
other and with the calls of other components.
-/

namespace LotusReport.Replay

open Encoding Relational StateMachine Jobs Batch

section ReplayItem

/-- A call of `replay_item`, with the identifiers it generates and the clock at its writes. -/
structure ItemReplay where
  batchId : String
  batchItemId : String
  reason : String
  callerContext : ReportCallerContext
  idempotencyKey : Option String
  generated : Generated
  clock : Nat → Instant

/-- `BatchItemReplayResult`. -/
structure BatchItemReplayResult where
  batchId : String
  item : BatchItemRow
  sourceReportJob : JobFile
  replayedReportJob : JobFile
  idempotencyKey : String

/-- The two branches of `replay_item`. -/
inductive ReplayBranch where
  | idempotentReplay
  | newReplay
deriving DecidableEq, Repr

/-- `_replay_branch_for`. -/
def replayBranchFor (item : BatchItemRow) : Option ReplayBranch :=
  if !present item.reportJobId then none
  else if item.status = .waitingOnReportJob then some .idempotentReplay
  else if item.status = .failedRetryable ∧ item.retryEligible then some .newReplay
  else none

/-- `report_batch_item_cannot_be_replayed`. -/
def itemCannotBeReplayed : ReplayFailure :=
  .jobs (.invalidJobTransition "report_batch_item_cannot_be_replayed")

/-- Fail the item for operator review, and refuse the replay. -/
def quarantine (item : BatchItemRow) (errorCategory errorSummary : String) (now : Instant) :
    ReplayProgram Unit :=
  .call (.markItemFailed item.batchItemId errorCategory errorSummary now) fun outcome =>
    match (outcome : Transaction BatchItemRow) with
    | .error error => fail (.batches error)
    | .ok _ => fail itemCannotBeReplayed

/-- `_refuse_foreign_linked_job`. -/
def refuseForeignLinkedJob (batch : BatchRow) (item : BatchItemRow) (branch : Option ReplayBranch)
    (now : Instant) : ReplayProgram Unit :=
  match item.reportJobId, branch with
  | none, _ => .done (.ok ())
  -- the job is looked up for the log only
  | some reportJobId, none => .call (.getJob reportJobId) fun _ => fail itemCannotBeReplayed
  | some reportJobId, some _ =>
      .call (.getJob reportJobId) fun found =>
        match (found : Except LedgerError JobFile) with
        | .error _ => quarantine item "batch_item_link_dangling"
            ("Linked report job no longer exists; replay refused and the item " ++
              "quarantined as a dangling link for operator review.") now
        | .ok job =>
            if job.request.tenantId = batch.tenantId then .done (.ok ())
            else quarantine item "batch_item_tenant_mismatch"
              ("Linked report job belongs to a different tenant than its batch; " ++
                "replay refused and the item quarantined for operator review.") now

/-- The source that an event of `batch_item_replay_lineage_bound` names. -/
def boundSource (event : EventRow) : Option String :=
  match event.eventType == "batch_item_replay_lineage_bound",
      Json.lookup (payloadOf event) "source_job_id" with
  | true, some (.str sourceJobId) => some sourceJobId
  | _, _ => none

/-- `_source_job_for_replayed_job`. -/
def sourceJobForReplayedJob (batch : BatchRow) (replayed : JobFile) : ReplayProgram JobFile :=
  .call (.listStatusEvents replayed.job.reportJobId) fun events =>
    match (events : List EventRow).findSome? boundSource with
    | none => fail itemCannotBeReplayed
    | some sourceJobId =>
        (getJob sourceJobId).andThen fun source =>
          if source.request.tenantId ≠ batch.tenantId then fail itemCannotBeReplayed
          else .done (.ok source)

/-- The idempotent branch: the item waits for the job of an earlier replay. -/
def replayedBefore (pass : ItemReplay) (batch : BatchRow) (item : BatchItemRow)
    (reportJobId replayKey : String) : ReplayProgram BatchItemReplayResult :=
  (getJob reportJobId).andThen fun replayed =>
    if replayed.request.idempotencyKey ≠ replayKey then fail itemCannotBeReplayed
    else (sourceJobForReplayedJob batch replayed).andThen fun source =>
      .done (.ok ⟨pass.batchId, item, source, replayed, pass.idempotencyKey.getD ""⟩)

/-- The relationship that a recovery records. -/
def recoveryRelationship (relationshipType : ReportJobRelationshipType) (source derived : JobFile)
    (actor reason : String) (now : Instant) : RelationshipCall where
  sourceJobId := source.job.reportJobId
  sourceStatus := source.job.status
  sourceFailureCategory := source.job.failureCategory
  derivedJobId := derived.job.reportJobId
  derivedStatus := derived.job.status
  derivedFailureCategory := derived.job.failureCategory
  relationshipType := relationshipType
  actor := actor
  reason := reason
  newArchiveDocumentId := derived.job.archiveDocumentId
  now := now

/-- Record the derived job on the item and in the histories of the two jobs. -/
def linkReplayedJob (pass : ItemReplay) (source replayed : JobFile) :
    ReplayProgram BatchItemReplayResult :=
  (onLedger (.upsertJobRelationship (recoveryRelationship .batchItemReplay source replayed
    pass.callerContext.triggeredBy pass.reason (pass.clock 1)))).andThen fun _ =>
  .call (.relinkFailedItemForReplay pass.batchId pass.batchItemId replayed.job.reportJobId
      (pass.clock 2)) fun relinked =>
    match (relinked : Transaction BatchItemRow) with
    | .error error => fail (.batches error)
    | .ok item =>
        (appendSourceEventOnce pass.callerContext (pass.clock 3) source.job.reportJobId
          "batch_item_replay_requested" replayed.job.reportJobId replayed.job.status
          ("Batch item " ++ pass.batchItemId ++ " replay requested as " ++
            replayed.job.reportJobId ++ ": " ++ pass.reason)
          [("batch_item_id", .str pass.batchItemId)]).andThen fun _ =>
        (appendSourceEventOnce pass.callerContext (pass.clock 4) replayed.job.reportJobId
          "batch_item_replay_lineage_bound" source.job.reportJobId source.job.status
          ("Batch item replay source job " ++ source.job.reportJobId ++ ".")
          [("batch_item_id", .str pass.batchItemId),
            ("source_job_id", .str source.job.reportJobId)]).andThen fun _ =>
        .done (.ok ⟨pass.batchId, item, source, replayed, pass.idempotencyKey.getD ""⟩)

/-- Create a job that is derived from a source. -/
def createDerivedJob (sourceJobId : String) (call : CreateCall) : ReplayProgram JobFile :=
  .call (.createDerivedJob sourceJobId call) (checked .jobs)

/-- The new branch: derive a job from the failed job of the item. -/
def replayAnew (pass : ItemReplay) (batch : BatchRow) (item : BatchItemRow) (replayKey : String) :
    ReplayProgram BatchItemReplayResult :=
  match replayBranchFor item, item.reportJobId with
  | some .newReplay, some reportJobId =>
      (getJob reportJobId).andThen fun source =>
      (checked .jobs (assertReplayEligible source)).andThen fun _ =>
      (checked .requestRejected (itemRequest batch item.portfolioId)).andThen fun request =>
      (createDerivedJob source.job.reportJobId
        (createPortfolioReviewJob pass.callerContext (some replayKey) pass.generated
          request)).andThen fun replayed =>
      linkReplayedJob pass source replayed
  | _, _ => fail itemCannotBeReplayed

/-- `replay_item`. -/
def replayItem (pass : ItemReplay) : ReplayProgram BatchItemReplayResult :=
  (getBatch pass.batchId).andThen fun record =>
  if record.batch.tenantId ≠ pass.callerContext.tenantId then fail (.batches .batchNotFound)
  else
    (getBatchItem pass.batchId pass.batchItemId).andThen fun item =>
    (checked .jobs (batchItemReplayIdempotencyKey pass.batchItemId pass.idempotencyKey)).andThen
      fun replayKey =>
    (refuseForeignLinkedJob record.batch item (replayBranchFor item) (pass.clock 0)).andThen fun _ =>
    match replayBranchFor item, item.reportJobId with
    | some .idempotentReplay, some reportJobId =>
        replayedBefore pass record.batch item reportJobId replayKey
    | _, _ => replayAnew pass record.batch item replayKey

end ReplayItem

section Resolution

/-- The fields of a retained input snapshot that a replay reads. -/
structure SnapshotRecord where
  snapshotId : String
  reportDataContractVersion : String

/-- The other components that `replay_job` asks, with their answers during the call: the validating
library, the archive resolver and the snapshot store, where they are configured, the custody fields
of a composite snapshot, the frozen request of a composite job, and the id of a job's cloned
snapshot. -/
structure ReplayServices where
  coercions : Coercions
  archiveResolver : Option (String → ArchiveAnswer)
  snapshotStore : Option (String → Option SnapshotRecord)
  compositeArchiveCustody : JobFile → SnapshotRecord → Except LedgerError Fields
  compositeReplayRequest : JobFile → Except LedgerError CompositeReviewJobRequest
  clonedSnapshotId : String → String

/-- A call of `replay_job`, with the identifiers it generates and the clock at its writes. -/
structure JobReplay where
  jobId : String
  reason : String
  callerContext : ReportCallerContext
  idempotencyKey : Option String
  generated : Generated
  services : ReplayServices
  clock : Nat → Instant

/-- `ReportReplayResult`. -/
structure ReportReplayResult where
  sourceJob : JobFile
  replayedJob : JobFile
  idempotencyKey : String

variable (py : Runtime) (pass : JobReplay) (source : JobFile)

/-- `_require_retained_snapshot`. -/
def requireRetainedSnapshot (services : ReplayServices) :
    Except LedgerError (Option SnapshotRecord) :=
  let composite := source.job.reportType == "composite_review"
  if !failedAs source (.renderArtifactUnrecoverable :: custodyCategories) then .ok none
  else
    match services.snapshotStore with
    | none => if composite then .error cannotBeReplayed else .ok none
    | some getSnapshotByJob =>
        match getSnapshotByJob source.job.reportJobId with
        | none => .error cannotBeReplayed
        | some snapshot =>
            if composite && ((snapshot.reportDataContractVersion ≠ "composite_review.v9" &&
                  !(bindingForJob services.coercions source.request source.job).isOk) ||
                !(services.compositeArchiveCustody source snapshot).isOk) then
              .error cannotBeReplayed
            else .ok (some snapshot)

/-- The archive request to resolve, with the resolver, unless one of them is missing. -/
def ambiguousRequest : Option ((String → ArchiveAnswer) × String) :=
  match pass.services.archiveResolver, source.job.render.jobId with
  | some resolver, some renderJobId =>
      if renderJobId = "" then none
      else if failedAs source custodyCategories then
        if present source.job.archiveRequestId then
          source.job.archiveRequestId.map fun requestId => (resolver, requestId)
        else none
      else if present source.job.archiveRequestId then
        source.job.archiveRequestId.map fun requestId => (resolver, requestId)
      else some (resolver, "arch_" ++ renderJobId)
  | _, _ => none

/-- A hexadecimal digit. -/
def isHexDigit (c : Char) : Bool :=
  ('0' ≤ c && c ≤ '9') || ('a' ≤ c && c ≤ 'f') || ('A' ≤ c && c ≤ 'F')

/-- The 64 digits of an artifact digest, in lower case. -/
def artifactDigest (text : String) : Option String :=
  let digits := if startsWith text "sha256:" then text.toList.drop 7 else text.toList
  if digits.length = 64 ∧ digits.all isHexDigit then some (String.ofList (digits.map Char.toLower))
  else none

/-- The fields that the document of a composite job has to carry. -/
def expectedDocument (archiveRequestId checksum : String) (snapshot : SnapshotRecord)
    (custody : Fields) : Fields :=
  [ ("archive_request_id", Json.str archiveRequestId),
    ("report_job_id", .str source.job.reportJobId),
    ("output_format", .str "xlsx"),
    ("snapshot_id", .str snapshot.snapshotId),
    ("render_job_id", .ofText? source.job.render.jobId),
    ("report_type", .str source.job.reportType),
    ("template_id", .ofText? source.job.render.templateId),
    ("template_version", .ofText? source.job.render.templateVersion),
    ("report_data_contract_version", .str snapshot.reportDataContractVersion),
    ("checksum", .str checksum),
    ("declared_artifact_sha256", .str checksum) ].foldl
      (fun expected field => Json.assign expected field.1 field.2) custody

/-- `_require_resolved_composite_document`. -/
def requireResolvedCompositeDocument (archiveRequestId : String) (payload : Fields) :
    Except LedgerError Unit :=
  match Json.lookup payload "document_id", artifactDigest (source.job.render.artifactSha256.getD "") with
  | some (.str documentId), some checksum =>
      if strip documentId = "" then .error cannotBeReplayed
      else do
        match ← requireRetainedSnapshot source pass.services with
        | none => .error cannotBeReplayed
        | some snapshot => do
            let custody ← pass.services.compositeArchiveCustody source snapshot
            if (expectedDocument source archiveRequestId checksum snapshot custody).all
                fun field => Json.lookup payload field.1 == some field.2 then .ok ()
            else .error cannotBeReplayed
  | _, _ => .error cannotBeReplayed

/-- `str(payload.get("document_id") or "")` of a document that was found. -/
def documentIdOf (statusCode : Int) (payload : Fields) : String :=
  match Json.lookup payload "document_id" with
  | some value => if statusCode = 200 ∧ value.truthy then pyStr py value else ""
  | none => ""

/-- The failed job becomes archived under the document that the archive holds, and the replay is
refused. -/
def adoptDocument (archiveRequestId documentId : String) : ReplayProgram Unit :=
  (markJob source.job.reportJobId (.archived archiveRequestId documentId)
    (callContext pass.callerContext (pass.clock 0))).andThen fun resolved =>
  (onLedger (.appendJobEvent resolved.job.reportJobId "job_replay_archive_resolved"
    ("Archive lookup resolved " ++ archiveRequestId ++ " to committed document " ++ documentId ++
      "; the failure was a transport artifact and no replay is needed.")
    [("archive_document_id", .str documentId), ("archive_request_id", .str archiveRequestId)]
    (some ("job_replay_archive_resolved:" ++ resolved.job.reportJobId)) true
    (callContext pass.callerContext (pass.clock 1)))).andThen fun _ =>
  fail (.jobs cannotBeReplayed)

/-- What the archive's answer means for the replay: it goes on if there is no document. -/
def concludeLookup (archiveRequestId : String) : ArchiveAnswer → ReplayProgram Unit
  | none => fail (.jobs cannotBeReplayed)
  | some (statusCode, payload) =>
      if statusCode = 404 then
        if archiveAbsenceConfirmed payload then .done (.ok ()) else fail (.jobs cannotBeReplayed)
      else if documentIdOf py statusCode payload = "" then fail (.jobs cannotBeReplayed)
      else if source.job.reportType = "composite_review" then
        (checked .jobs (requireResolvedCompositeDocument pass source archiveRequestId
          payload)).andThen fun _ =>
        adoptDocument pass source archiveRequestId (documentIdOf py statusCode payload)
      else adoptDocument pass source archiveRequestId (documentIdOf py statusCode payload)

/-- `_resolve_archive_ambiguity`. -/
def resolveArchiveAmbiguity : ReplayProgram Unit :=
  if !failedAs source ReportFailureCategory.archiveAmbiguousCategories then .done (.ok ())
  else
    match ambiguousRequest pass source with
    | none => fail (.jobs cannotBeReplayed)
    | some (resolver, archiveRequestId) =>
        .call (.getDocumentByRequestId source.job.reportJobId (resolver archiveRequestId))
          (concludeLookup py pass source archiveRequestId)

end Resolution

section ReplayJob

variable (py : Runtime) (pass : JobReplay) (source : JobFile)

/-- The request of a stored portfolio review, or the message with which it is refused. -/
def portfolioReviewRequestFromJob : Except String PortfolioReviewJobRequest := do
  advisorCommentaryRequiresRunId source.request.options
  return {
    portfolioScope := source.job.portfolioScope
    asOfDate := source.request.asOfDate
    requestedOutputFormats := source.request.requestedOutputFormats
    reportingCurrency := source.request.reportingCurrency
    options := source.request.options }

/-- `replay_request`. -/
def replayRequest : Except ReplayFailure ReportJobRequest :=
  if source.job.reportType = "composite_review" then
    ((pass.services.compositeReplayRequest source).map .composite).mapError .jobs
  else ((portfolioReviewRequestFromJob source).map .portfolio).mapError .requestRejected

/-- `_append_replay_requested_event`. -/
def appendReplayRequestedEvent (replayed : JobFile) (replayKey : String) : ReplayProgram Unit :=
  onLedger (.appendJobEvent source.job.reportJobId "job_replay_requested"
    ("Report replay requested as " ++ replayed.job.reportJobId ++ ": " ++ pass.reason)
    [("replayed_job_id", .str replayed.job.reportJobId)] (some replayKey) false
    (callContext pass.callerContext (pass.clock 2)))

/-- The job of `_clone_retained_snapshot`, collecting its data. -/
def startCollecting (replayed : JobFile) : ReplayProgram JobFile :=
  if replayed.job.status = .collectingData then .done (.ok replayed)
  else markJob replayed.job.reportJobId .collectingData
    (callContext pass.callerContext (pass.clock 3))

/-- `_clone_retained_snapshot`; the snapshot itself goes to the snapshot store. -/
def cloneRetainedSnapshot (snapshot : SnapshotRecord) (replayed : JobFile) : ReplayProgram JobFile :=
  (startCollecting pass replayed).andThen fun job =>
  (onLedger (.appendJobEvent job.job.reportJobId "job_replay_snapshot_cloned"
    ("Replay reused retained input snapshot " ++ snapshot.snapshotId ++ " from " ++
      source.job.reportJobId ++ " without recollecting upstream data.")
    [ ("source_snapshot_id", .str snapshot.snapshotId),
      ("cloned_snapshot_id", .str (pass.services.clonedSnapshotId job.job.reportJobId)),
      ("replayed_job_id", .str job.job.reportJobId) ]
    (some ("job_replay_snapshot_cloned:" ++ job.job.reportJobId)) true
    (callContext pass.callerContext (pass.clock 4)))).andThen fun _ =>
  markJob job.job.reportJobId .dataReady (callContext pass.callerContext (pass.clock 5))

/-- `_collect_replay_inputs`; the capture makes its calls as another component. -/
def collectReplayInputs (snapshot : Option SnapshotRecord) (replayed : JobFile) :
    ReplayProgram JobFile :=
  match snapshot with
  | some snapshot => cloneRetainedSnapshot pass source snapshot replayed
  | none => getJob replayed.job.reportJobId

/-- The collection of the replay's inputs, while it is due. -/
def collectInputs (replayed : JobFile) (replayKey : String) : ReplayProgram JobFile :=
  if replayed.job.status = .accepted then
    (checked .jobs (requireRetainedSnapshot source pass.services)).andThen fun snapshot =>
    (appendReplayRequestedEvent pass source replayed replayKey).andThen fun _ =>
    collectReplayInputs pass source snapshot replayed
  else if replayed.job.status = .collectingData then
    (checked .jobs (requireRetainedSnapshot source pass.services)).andThen fun snapshot =>
    collectReplayInputs pass source snapshot replayed
  else .done (.ok replayed)

/-- The render of the replay, while it is due; it makes its calls as another component. -/
def renderReplay (replayed : JobFile) : ReplayProgram JobFile :=
  if replayed.job.status = .dataReady then
    (checked .jobs (documentOutputFormat replayed.request.requestedOutputFormats)).andThen
      fun format =>
        match format with
        | some _ => getJob replayed.job.reportJobId
        | none => .done (.ok replayed)
  else .done (.ok replayed)

/-- `_fingerprint_outcome`. -/
def fingerprintOutcome (replayed : JobFile) : String × Option String :=
  let s := source.job.render
  let r := replayed.job.render
  if r.boundedDeterminismFingerprint = none then
    ("incomparable", some "replayed_fingerprint_missing")
  else if s.boundedDeterminismFingerprint = none then
    ("incomparable", some "source_fingerprint_missing")
  else if !(present s.runtimeEngine && present s.runtimeEngineVersion && present r.runtimeEngine &&
      present r.runtimeEngineVersion) then
    ("incomparable", some "runtime_identity_missing")
  else if s.runtimeEngine ≠ r.runtimeEngine ∨ s.runtimeEngineVersion ≠ r.runtimeEngineVersion then
    ("incomparable", some "runtime_engine_differs")
  else if s.boundedDeterminismFingerprint = r.boundedDeterminismFingerprint then ("matched", none)
  else ("diverged", some "same_runtime_fingerprint_mismatch")

/-- The event of a fingerprint comparison. -/
def appendFingerprintComparison (replayed : JobFile) : ReplayProgram Unit :=
  let (outcome, reason) := fingerprintOutcome source replayed
  onLedger (.appendJobEvent replayed.job.reportJobId "job_replay_fingerprint_compared"
    ("Replay fingerprint comparison against " ++ source.job.reportJobId ++ ": " ++ outcome ++
      match reason with
      | some reason => " (" ++ reason ++ ")."
      | none => ".")
    [ ("outcome", .str outcome),
      ("reason", .ofText? reason),
      ("source_report_job_id", .str source.job.reportJobId),
      ("source_fingerprint", .ofText? source.job.render.boundedDeterminismFingerprint),
      ("replayed_fingerprint", .ofText? replayed.job.render.boundedDeterminismFingerprint),
      ("source_runtime_engine", .ofText? source.job.render.runtimeEngine),
      ("source_runtime_engine_version", .ofText? source.job.render.runtimeEngineVersion),
      ("replayed_runtime_engine", .ofText? replayed.job.render.runtimeEngine),
      ("replayed_runtime_engine_version", .ofText? replayed.job.render.runtimeEngineVersion) ]
    (some ("job_replay_fingerprint_compared:" ++ replayed.job.reportJobId)) true
    (callContext pass.callerContext (pass.clock 6)))

/-- `_record_fingerprint_comparison`. -/
def recordFingerprintComparison (replayed : JobFile) : ReplayProgram Unit :=
  if !failedAs source (.renderArtifactUnrecoverable :: custodyCategories) then .done (.ok ())
  else if replayed.job.status ∈
      [ReportJobStatus.completed, .completedWithWarnings, .archiving, .archived] then
    appendFingerprintComparison pass source replayed
  else
    .call (.listStatusEvents replayed.job.reportJobId) fun events =>
      if (events : List EventRow).any fun e => e.eventType == "job_completed" then
        appendFingerprintComparison pass source replayed
      else .done (.ok ())

/-- The statuses in which a replay is reported as completed on its source. -/
def reportedStatuses : List ReportJobStatus :=
  [.dataReady, .completed, .completedWithWarnings, .archived, .failed]

/-- The records that `replay_job` writes at its end. -/
def recordReplay (replayed : JobFile) : ReplayProgram ReportReplayResult :=
  (if "pdf" ∈ replayed.request.requestedOutputFormats then
    recordFingerprintComparison pass source replayed else .done (.ok ())).andThen fun _ =>
  (if replayed.job.status ∈ reportedStatuses then
    appendSourceEventOnce pass.callerContext (pass.clock 7) source.job.reportJobId
      "job_replay_completed" replayed.job.reportJobId replayed.job.status
      ("Report replay completed as " ++ replayed.job.reportJobId ++ " with status " ++
        replayed.job.status.text ++ ".") []
    else .done (.ok ())).andThen fun _ =>
  (onLedger (.upsertJobRelationship (recoveryRelationship .failedWorkReplay source replayed
    pass.callerContext.triggeredBy pass.reason (pass.clock 8)))).andThen fun _ =>
  .done (.ok ⟨source, replayed, pass.idempotencyKey.getD ""⟩)

/-- A composite job is replayed only from its retained snapshot. -/
def requireCompositeSnapshot : Except LedgerError Unit :=
  if source.job.reportType = "composite_review" then do
    match ← requireRetainedSnapshot source pass.services with
    | none => .error cannotBeReplayed
    | some _ => .ok ()
  else .ok ()

/-- `create_replay_derived_job`: read the source again and create the job. -/
def createReplay (replayKey : String) (request : ReportJobRequest) : ReplayProgram JobFile :=
  (getJob source.job.reportJobId).andThen fun current =>
  (checked .jobs (createReplayDerivedJob pass.callerContext (some replayKey) pass.generated
    pass.services.coercions current request (pass.services.compositeReplayRequest current)
    pass.reason)).andThen fun call =>
  createDerivedJob source.job.reportJobId call

/-- What `replay_job` does once the archive outcome of the source is resolved. -/
def replayResolved (replayKey : String) : ReplayProgram ReportReplayResult :=
  (checked .jobs (requireCompositeSnapshot pass source)).andThen fun _ =>
  (checked id (replayRequest pass source)).andThen fun request =>
  (createReplay pass source replayKey request).andThen fun replayed =>
  (collectInputs pass source replayed replayKey).andThen fun replayed =>
  (renderReplay replayed).andThen fun replayed =>
  recordReplay pass source replayed

/-- `replay_job`. -/
def replayJob : ReplayProgram ReportReplayResult :=
  (getJob pass.jobId).andThen fun source =>
  (checked .jobs (assertJobVisible source pass.callerContext)).andThen fun _ =>
  (checked .jobs (assertReplayEligible source)).andThen fun _ =>
  (checked .jobs (replayIdempotencyKey source.job.reportJobId pass.idempotencyKey)).andThen
    fun replayKey =>
  (resolveArchiveAmbiguity py pass source).andThen fun _ =>
  replayResolved pass source replayKey

end ReplayJob

section System

/-- The calls on the job ledger that other components make: they neither replay a job nor record a
recovery. -/
def besidesReplay : LedgerCall → Bool
  | .create call => call.replay.isNone
  | .upsertJobRelationship call => call.relationshipType == .regenerateReplacement
  | _ => true

/-- What may start: one of the two recoveries, or a call of another component. -/
inductive ReplayActivity where
  | replayItem (pass : ItemReplay)
  | replayJob (pass : JobReplay)
  | jobs (call : { call : LedgerCall // besidesReplay call = true })
  | batches (call : BatchCall)

/-- How an activity ends. -/
inductive ReplayOutcome where
  | item (result : Except ReplayFailure BatchItemReplayResult)
  | job (result : Except ReplayFailure ReportReplayResult)
  | other

/-- The program of an activity. -/
def ReplayActivity.program (py : Runtime) :
    ReplayActivity → Program ReplayCall ReplayCall.Result ReplayOutcome
  | replayItem pass => (Replay.replayItem pass).bind fun result => .done (.item result)
  | replayJob pass => (Replay.replayJob py pass).bind fun result => .done (.job result)
  | jobs call => .call (.ledger call.val) fun _ => .done .other
  | batches call => .call (.batches call) fun _ => .done .other

/-- The store with the activities under way. -/
abbrev ReplaySystem := System ReplayState ReplayCall ReplayCall.Result ReplayOutcome

/-- One step of the recovery system. -/
def replayStep (d : Deployment) : ReplaySystem → Event ReplayActivity → ReplaySystem :=
  System.step (ReplayState.perform d) (ReplayActivity.program d.toRuntime)

/-- The system on empty ledgers. -/
def ReplaySystem.empty : ReplaySystem := System.initial .empty

end System

end LotusReport.Replay
