import LotusReport.Jobs.Custody

/-!
# Status transitions of a job

`transitionJob` is the generic path behind the `mark_*` calls and behind the
terminalization of exhausted work; `cancelJob` is the path of its own.
-/

namespace LotusReport.Jobs

open Encoding

/-- The columns and the event that a transition writes. -/
structure Transition where
  toStatus : ReportJobStatus
  failureCategory : Option ReportFailureCategory := none
  failureMessage : Option String := none
  currentStep : String
  retryEligible : Bool := false
  eventType : String
  eventMessage : Option String
  setStartedAt : Bool := true
  setCompletedAt : Bool := false
  render : RenderColumns := {}
  archiveRequestId : Option String := none
  archiveDocumentId : Option String := none
  archiveCompletedAt : Option Instant := none

/-- Who makes a call, when, and under which worker lease. -/
structure CallContext where
  actor : String
  correlationId : String
  traceId : String
  currentWorkLease : Option (String × String) := none
  now : Instant

/-- `COALESCE(new, old)` of the render columns. -/
def RenderColumns.coalesce (new old : RenderColumns) : RenderColumns where
  jobId := new.jobId.orElse fun _ => old.jobId
  outputFormat := new.outputFormat.orElse fun _ => old.outputFormat
  templateId := new.templateId.orElse fun _ => old.templateId
  templateVersion := new.templateVersion.orElse fun _ => old.templateVersion
  templatePublication := new.templatePublication.orElse fun _ => old.templatePublication
  artifactSha256 := new.artifactSha256.orElse fun _ => old.artifactSha256
  boundedDeterminismFingerprint :=
    new.boundedDeterminismFingerprint.orElse fun _ => old.boundedDeterminismFingerprint
  runtimeEngine := new.runtimeEngine.orElse fun _ => old.runtimeEngine
  runtimeEngineVersion := new.runtimeEngineVersion.orElse fun _ => old.runtimeEngineVersion
  durationMs := new.durationMs.orElse fun _ => old.durationMs

@[simp] theorem RenderColumns.coalesce_empty (old : RenderColumns) :
    RenderColumns.coalesce {} old = old := rfl

/-- A payload field that is left out when null. -/
def optionalField (name : String) (value : Option Json) : Fields :=
  match value with
  | some j => [(name, j)]
  | none => []

/-- `_transition_event_payload`. -/
def transitionEventPayload (t : Transition) : Fields :=
  [("current_step", .str t.currentStep)] ++
    optionalField "failure_category" (t.failureCategory.map fun c => .str c.text) ++
    optionalField "failure_message" (t.failureMessage.map .str) ++
    optionalField "render_job_id" (t.render.jobId.map .str) ++
    optionalField "render_output_format" (t.render.outputFormat.map .str) ++
    optionalField "render_template_id" (t.render.templateId.map .str) ++
    optionalField "render_template_version" (t.render.templateVersion.map .str) ++
    optionalField "render_artifact_sha256" (t.render.artifactSha256.map .str) ++
    optionalField "render_bounded_determinism_fingerprint"
      (t.render.boundedDeterminismFingerprint.map .str) ++
    optionalField "render_runtime_engine" (t.render.runtimeEngine.map .str) ++
    optionalField "render_runtime_engine_version" (t.render.runtimeEngineVersion.map .str) ++
    optionalField "render_duration_ms" (t.render.durationMs.map .int) ++
    optionalField "archive_request_id" (t.archiveRequestId.map .str) ++
    optionalField "archive_document_id" (t.archiveDocumentId.map .str)

/-- The job row that a transition writes. -/
def transitionedJob (job : JobRow) (t : Transition) (now : Instant) : JobRow :=
  { job with
    status := t.toStatus
    failureCategory := t.failureCategory
    failureMessage := t.failureMessage
    currentStep := t.currentStep
    retryEligible := t.retryEligible
    updatedAt := dtToText now
    startedAt := job.startedAt.orElse fun _ => if t.setStartedAt then some (dtToText now) else none
    completedAt := if t.setCompletedAt then some (dtToText now) else none
    render := t.render.coalesce job.render
    archiveRequestId := t.archiveRequestId.orElse fun _ => job.archiveRequestId
    archiveDocumentId := t.archiveDocumentId.orElse fun _ => job.archiveDocumentId
    archiveCompletedAt := (t.archiveCompletedAt.map dtToText).orElse fun _ =>
      job.archiveCompletedAt }

/-- The job row that a cancellation writes. -/
def cancelledJob (job : JobRow) (now : Instant) : JobRow :=
  { job with
    status := .cancelled
    failureCategory := some .cancelled
    failureMessage := some "Report job cancelled before render or archive processing."
    currentStep := "cancelled"
    retryEligible := false
    cancelRequested := true
    updatedAt := dtToText now
    cancelledAt := some (dtToText now) }

namespace JobFile

/-- `_transition_job`. -/
def transitionJob (f : JobFile) (t : Transition) (c : CallContext) : Except LedgerError JobFile := do
  let (handled, f) ← f.guardTransition t.toStatus c.currentWorkLease c.now
  if handled then return f
  else if f.job.status = t.toStatus then return f
  else if !isReportJobTransitionAllowed f.job.status t.toStatus then
    .error (.invalidJobTransition "report_job_invalid_transition")
  else
    let currentStatus := f.job.status
    let f ← f.updateJob (transitionedJob f.job t c.now)
    f.appendStatusEvent (some currentStatus) t.toStatus t.eventType t.eventMessage
      (transitionEventPayload t) none c.actor c.correlationId c.traceId c.now

/-- `cancel_job`. -/
def cancelJob (f : JobFile) (c : CallContext) : Except LedgerError JobFile := do
  let (handled, f) ← f.guardTransition .cancelled c.currentWorkLease c.now
  if handled then return f
  else if !isReportJobCancellable f.job.status then
    .error (.invalidJobTransition "report_job_cannot_be_cancelled")
  else
    let currentStatus := f.job.status
    let f ← f.updateJob (cancelledJob f.job c.now)
    f.appendStatusEvent (some currentStatus) .cancelled "job_cancelled"
      (some "Report job cancelled before render or archive processing.")
      [("current_step", .str "cancelled"), ("cancel_requested", .bool true)] none
      c.actor c.correlationId c.traceId c.now

/-- `append_job_event`. -/
def appendJobEvent (f : JobFile) (eventType message : String)
    (eventPayload : Fields) (eventIdempotencyKey : Option String)
    (skipIfIdempotencyKeyExists : Bool) (c : CallContext) :
    Except LedgerError (Bool × JobFile) :=
  if skipIfIdempotencyKeyExists && present eventIdempotencyKey &&
      f.events.any (fun e => e.eventIdempotencyKey == eventIdempotencyKey) then
    .ok (false, f)
  else do
    let f ← f.appendStatusEvent (some f.job.status) f.job.status eventType (some message)
      eventPayload eventIdempotencyKey c.actor c.correlationId c.traceId c.now
    return (true, f)

end JobFile

section Marks

/-- The transition of `mark_collecting_data`. -/
def markCollectingData : Transition :=
  { toStatus := .collectingData
    currentStep := "collecting_data"
    eventType := "job_collecting_data"
    eventMessage := some "Portfolio review input capture started." }

/-- The transition of `mark_data_ready`. -/
def markDataReady : Transition :=
  { toStatus := .dataReady
    currentStep := "data_ready"
    eventType := "job_data_ready"
    eventMessage := some "Portfolio review snapshot and lineage captured." }

/-- The transition of `mark_rendering`. -/
def markRendering (renderJobId outputFormat templateId templateVersion : String) : Transition :=
  { toStatus := .rendering
    currentStep := "rendering"
    eventType := "job_rendering"
    eventMessage := some "Portfolio review render started."
    render :=
      { jobId := some renderJobId
        outputFormat := some outputFormat
        templateId := some templateId
        templateVersion := some templateVersion } }

/-- The transition of `mark_completed`. -/
def markCompleted (renderJobId outputFormat templateId templateVersion : String)
    (templatePublication artifactSha256 boundedDeterminismFingerprint runtimeEngine
      runtimeEngineVersion : Option String) (renderDurationMs : Option Int) : Transition :=
  { toStatus := .completed
    currentStep := "completed"
    eventType := "job_completed"
    eventMessage := some "Portfolio review render completed."
    setCompletedAt := true
    render :=
      { jobId := some renderJobId
        outputFormat := some outputFormat
        templateId := some templateId
        templateVersion := some templateVersion
        templatePublication := templatePublication
        artifactSha256 := artifactSha256
        boundedDeterminismFingerprint := boundedDeterminismFingerprint
        runtimeEngine := runtimeEngine
        runtimeEngineVersion := runtimeEngineVersion
        durationMs := renderDurationMs } }

/-- The transition of `mark_archiving`. -/
def markArchiving (archiveRequestId : String) : Transition :=
  { toStatus := .archiving
    currentStep := "archiving"
    eventType := "job_archiving"
    eventMessage := some "Portfolio review archive handoff started."
    archiveRequestId := some archiveRequestId }

/-- The transition of `mark_archived`. -/
def markArchived (archiveRequestId archiveDocumentId : String) (now : Instant) : Transition :=
  { toStatus := .archived
    currentStep := "archived"
    eventType := "job_archived"
    eventMessage := some "Portfolio review archived successfully."
    archiveRequestId := some archiveRequestId
    archiveDocumentId := some archiveDocumentId
    archiveCompletedAt := some now }

/-- The transition of `mark_failed`. -/
def markFailed (failureCategory : ReportFailureCategory) (failureMessage : String)
    (retryEligible : Bool) : Transition :=
  { toStatus := .failed
    failureCategory := some failureCategory
    failureMessage := some failureMessage
    currentStep := "failed"
    retryEligible := retryEligible
    eventType := "job_failed"
    eventMessage := some failureMessage
    setCompletedAt := true }

end Marks

end LotusReport.Jobs
