import LotusReport.Corrections.ArchiveLineage

/-!
# Rerender attempts

A rerender of an archived job is an attempt with its own row: it is rendering,
rendered, archiving, and in the end archived or failed. An attempt that failed
at the archive may have left a document there; the query for unresolved
attempts selects such rows by their failure category and their retry flag.
-/

namespace LotusReport.Corrections

open Encoding Fallible Relational Jobs Replay

/-- `ReportRerenderAttemptStatus`. -/
inductive RerenderStatus where
  | rendering
  | rendered
  | archiving
  | archived
  | failed
deriving DecidableEq, Repr

/-- A row of `report_rerender_attempt`. -/
structure AttemptRow where
  rerenderAttemptId : String
  reportJobId : String
  idempotencyKey : String
  status : RerenderStatus
  snapshotId : String
  snapshotHash : String
  previousRenderJobId : Option String
  previousArchiveDocumentId : Option String
  renderJobId : String
  renderOutputFormat : String
  renderTemplateId : String
  renderTemplateVersion : String
  renderArtifactSha256 : Option String := none
  renderBoundedDeterminismFingerprint : Option String := none
  renderRuntimeEngine : Option String := none
  renderRuntimeEngineVersion : Option String := none
  renderDurationMs : Option Int := none
  archiveRequestId : Option String := none
  archiveDocumentId : Option String := none
  archiveCompletedAt : Option Timestamp := none
  failureCategory : Option ReportFailureCategory := none
  failureMessage : Option String := none
  retryEligible : Bool := false
  requestedBy : String
  reason : String
  correlationId : String
  traceId : String
  createdAt : Timestamp
  updatedAt : Timestamp
deriving DecidableEq

/-- `UNIQUE(report_job_id, idempotency_key)`. -/
def AttemptRow.request (row : AttemptRow) : String × String := (row.reportJobId, row.idempotencyKey)

/-- The table `report_rerender_attempt`. -/
abbrev Attempts := Table AttemptRow.rerenderAttemptId AttemptRow.request

section Update

/-- The arguments of `_update_rerender_attempt`. -/
structure AttemptUpdate where
  status : RerenderStatus
  renderJobId : Option String := none
  artifactSha256 : Option String := none
  boundedDeterminismFingerprint : Option String := none
  runtimeEngine : Option String := none
  runtimeEngineVersion : Option String := none
  renderDurationMs : Option Int := none
  archiveRequestId : Option String := none
  archiveDocumentId : Option String := none
  archiveCompletedAt : Option Instant := none
  failureCategory : Option ReportFailureCategory := none
  failureMessage : Option String := none
  retryEligible : Option Bool := none
  clearFailure : Bool := false

/-- `COALESCE(new, old)`. -/
def coalesce {α : Type} (new old : Option α) : Option α := new.orElse fun _ => old

/-- The row after an update. -/
def AttemptRow.updated (row : AttemptRow) (u : AttemptUpdate) (now : Instant) : AttemptRow :=
  { row with
    status := u.status
    renderJobId := u.renderJobId.getD row.renderJobId
    renderArtifactSha256 := coalesce u.artifactSha256 row.renderArtifactSha256
    renderBoundedDeterminismFingerprint :=
      coalesce u.boundedDeterminismFingerprint row.renderBoundedDeterminismFingerprint
    renderRuntimeEngine := coalesce u.runtimeEngine row.renderRuntimeEngine
    renderRuntimeEngineVersion := coalesce u.runtimeEngineVersion row.renderRuntimeEngineVersion
    renderDurationMs := coalesce u.renderDurationMs row.renderDurationMs
    archiveRequestId := coalesce u.archiveRequestId row.archiveRequestId
    archiveDocumentId := coalesce u.archiveDocumentId row.archiveDocumentId
    archiveCompletedAt := coalesce (u.archiveCompletedAt.map dtToText) row.archiveCompletedAt
    failureCategory := if u.clearFailure then none else coalesce u.failureCategory row.failureCategory
    failureMessage := if u.clearFailure then none else coalesce u.failureMessage row.failureMessage
    retryEligible := if u.clearFailure then false else u.retryEligible.getD row.retryEligible
    updatedAt := dtToText now }

/-- `_update_rerender_attempt`. -/
def updateRerenderAttempt (attempts : Attempts) (rerenderAttemptId : String) (u : AttemptUpdate)
    (now : Instant) : Except LedgerError (AttemptRow × Attempts) :=
  match attempts.find? rerenderAttemptId with
  | none => .error .jobNotFound
  | some row => .ok (row.updated u now, attempts.put (row.updated u now))

end Update

section Queries

/-- The failure categories after which the archive may hold the document of an attempt. -/
def ambiguousCategories : List ReportFailureCategory :=
  [.archiveStorageFailed, .archiveExecutionFailed, .archiveOutcomeUnknown, .archiveHandoffFailed]

/-- The attempt failed at the archive and may be retried. -/
def AttemptRow.ambiguous (row : AttemptRow) : Bool :=
  row.status == .failed && row.failureCategory.any (fun c => decide (c ∈ ambiguousCategories)) &&
    row.retryEligible

/-- `ORDER BY updated_at DESC, created_at DESC, rerender_attempt_id DESC`. -/
def newerFirst (a b : AttemptRow) : Bool :=
  b.updatedAt.lt a.updatedAt || (a.updatedAt == b.updatedAt &&
    (b.createdAt.lt a.createdAt || (a.createdAt == b.createdAt &&
      decide (b.rerenderAttemptId ≤ a.rerenderAttemptId))))

/-- `list_unresolved_archive_ambiguous_attempts`. -/
def listUnresolvedArchiveAmbiguousAttempts (attempts : Attempts) (jobId : String) :
    List AttemptRow :=
  (attempts.rows.filter fun row => row.reportJobId == jobId && row.ambiguous).insertionSort
    fun a b => newerFirst a b = true

end Queries

section Writes

/-- The status event of a rerender, which leaves the job in its status. -/
def appendRerenderEvent (jobs : Jobs.Ledger) (jobId : String) (status : ReportJobStatus)
    (eventType message : String) (payload : Fields) (key : Option String)
    (c : CallContext) : Except LedgerError Jobs.Ledger := do
  return (← jobs.onJob jobId .jobNotFound fun f =>
    unvalued (f.appendStatusEvent (some status) status eventType (some message) payload key
      c.actor c.correlationId c.traceId c.now)).2

/-- A call of `create_rerender_attempt`, with the identifier it generates. -/
structure AttemptCall where
  job : JobFile
  snapshotId : String
  snapshotHash : String
  idempotencyKey : String
  reason : String
  attemptId : String
  context : CallContext

/-- The row of a fresh attempt. -/
def freshAttempt (call : AttemptCall) (outputFormat templateId templateVersion : String) :
    AttemptRow where
  rerenderAttemptId := call.attemptId
  reportJobId := call.job.job.reportJobId
  idempotencyKey := strip call.idempotencyKey
  status := .rendering
  snapshotId := call.snapshotId
  snapshotHash := call.snapshotHash
  previousRenderJobId := call.job.job.render.jobId
  previousArchiveDocumentId := call.job.job.archiveDocumentId
  renderJobId := "rdr_" ++ call.attemptId ++ "_" ++ outputFormat
  renderOutputFormat := outputFormat
  renderTemplateId := templateId
  renderTemplateVersion := templateVersion
  requestedBy := call.context.actor
  reason := call.reason
  correlationId := call.context.correlationId
  traceId := call.context.traceId
  createdAt := dtToText call.context.now
  updatedAt := dtToText call.context.now

/-- `first or second` in a column that must not be null. -/
def requiredColumn (first second : Option String) : Except LedgerError String :=
  match if present first then first else second with
  | some text => .ok text
  | none => .error (.integrity "NOT NULL constraint failed")

/-- Insert the row of an attempt. -/
def insertAttempt (attempts : Attempts) (row : AttemptRow) : Except LedgerError Attempts :=
  match attempts.insert? row with
  | some attempts => .ok attempts
  | none => .error (.integrity "UNIQUE constraint failed")

/-- `create_rerender_attempt`. -/
def createRerenderAttempt (py : Runtime) (jobs : Jobs.Ledger) (attempts : Attempts)
    (call : AttemptCall) : Except LedgerError ((AttemptRow × Bool) × Jobs.Ledger × Attempts) :=
  if strip call.idempotencyKey = "" then .error .missingIdempotencyKey
  else
    match attempts.lookup? (call.job.job.reportJobId, strip call.idempotencyKey) with
    | some row => .ok ((row, false), jobs, attempts)
    | none => do
        let outputFormat := if present call.job.job.render.outputFormat then
          call.job.job.render.outputFormat.getD "pdf" else "pdf"
        let template ← jobTemplateIdentity py call.job.job.reportType [outputFormat] none
        let templateId ← requiredColumn call.job.job.render.templateId template.1
        let templateVersion ← requiredColumn call.job.job.render.templateVersion template.2
        let row := freshAttempt call outputFormat templateId templateVersion
        let attempts ← insertAttempt attempts row
        let jobs ← appendRerenderEvent jobs call.job.job.reportJobId call.job.job.status
          "job_rerender_requested"
          ("Report rerender requested from snapshot " ++ call.snapshotId ++ ".")
          [ ("snapshot_id", .str call.snapshotId),
            ("snapshot_hash", .str call.snapshotHash),
            ("rerender_attempt_id", .str call.attemptId) ]
          (some (strip call.idempotencyKey)) call.context
        return ((row, true), jobs, attempts)

/-- A call of `record_adopted_rerender_outcome`, with the identifier it generates. -/
structure AdoptionCall where
  job : JobFile
  idempotencyKey : String
  reason : String
  adopted : AttemptRow
  archiveDocumentId : String
  attemptId : String
  context : CallContext

/-- The row of an adopted outcome. -/
def adoptedAttempt (call : AdoptionCall) : AttemptRow where
  rerenderAttemptId := call.attemptId
  reportJobId := call.job.job.reportJobId
  idempotencyKey := strip call.idempotencyKey
  status := .archived
  snapshotId := call.adopted.snapshotId
  snapshotHash := call.adopted.snapshotHash
  previousRenderJobId := call.adopted.previousRenderJobId
  previousArchiveDocumentId := call.adopted.previousArchiveDocumentId
  renderJobId := call.adopted.renderJobId
  renderOutputFormat := "pdf"
  renderTemplateId := "portfolio-review"
  renderTemplateVersion := "v1"
  archiveRequestId := some ("arch_" ++ call.adopted.renderJobId)
  archiveDocumentId := some call.archiveDocumentId
  archiveCompletedAt := some (dtToText call.context.now)
  requestedBy := call.context.actor
  reason := call.reason
  correlationId := call.context.correlationId
  traceId := call.context.traceId
  createdAt := dtToText call.context.now
  updatedAt := dtToText call.context.now

/-- `record_adopted_rerender_outcome`. -/
def recordAdoptedRerenderOutcome (jobs : Jobs.Ledger) (attempts : Attempts) (call : AdoptionCall) :
    Except LedgerError (AttemptRow × Jobs.Ledger × Attempts) :=
  if strip call.idempotencyKey = "" then .error .missingIdempotencyKey
  else
    match attempts.lookup? (call.job.job.reportJobId, strip call.idempotencyKey) with
    | some row => .ok (row, jobs, attempts)
    | none => do
        let attempts ← insertAttempt attempts (adoptedAttempt call)
        let jobs ← appendRerenderEvent jobs call.job.job.reportJobId call.job.job.status
          "job_rerender_archived"
          ("Rerender adopted committed correction " ++ call.archiveDocumentId ++ " from attempt " ++
            call.adopted.rerenderAttemptId ++ ".")
          [ ("archive_document_id", .str call.archiveDocumentId),
            ("rerender_attempt_id", .str call.attemptId),
            ("adopted_from_attempt_id", .str call.adopted.rerenderAttemptId) ]
          (some (strip call.idempotencyKey)) call.context
        return (adoptedAttempt call, jobs, attempts)

/-- `mark_rerender_rendered`, with the fields of the render response. -/
def markRerenderRendered (attempts : Attempts) (rerenderAttemptId renderJobId : String)
    (artifactSha256 boundedDeterminismFingerprint runtimeEngine runtimeEngineVersion :
      Option String) (renderDurationMs : Option Int) (now : Instant) :
    Except LedgerError (AttemptRow × Attempts) :=
  updateRerenderAttempt attempts rerenderAttemptId
    { status := .rendered
      renderJobId := some renderJobId
      artifactSha256 := artifactSha256
      boundedDeterminismFingerprint := boundedDeterminismFingerprint
      runtimeEngine := runtimeEngine
      runtimeEngineVersion := runtimeEngineVersion
      renderDurationMs := renderDurationMs } now

/-- `mark_rerender_archiving`. -/
def markRerenderArchiving (attempts : Attempts) (rerenderAttemptId archiveRequestId : String)
    (now : Instant) : Except LedgerError (AttemptRow × Attempts) :=
  updateRerenderAttempt attempts rerenderAttemptId
    { status := .archiving, archiveRequestId := some archiveRequestId } now

/-- `mark_rerender_archived`. -/
def markRerenderArchived (jobs : Jobs.Ledger) (attempts : Attempts)
    (rerenderAttemptId archiveDocumentId : String) (c : CallContext) :
    Except LedgerError (AttemptRow × Jobs.Ledger × Attempts) := do
  let (row, attempts) ← updateRerenderAttempt attempts rerenderAttemptId
    { status := .archived
      archiveDocumentId := some archiveDocumentId
      archiveCompletedAt := some c.now
      clearFailure := true } c.now
  let jobs ← appendRerenderEvent jobs row.reportJobId .archived "job_rerender_archived"
    ("Report rerender archived as correction document " ++ archiveDocumentId ++ ".")
    [ ("rerender_attempt_id", .str rerenderAttemptId),
      ("render_job_id", .str row.renderJobId),
      ("archive_document_id", .str archiveDocumentId) ] none c
  return (row, jobs, attempts)

/-- How an attempt failed. -/
structure RerenderFailure where
  failureCategory : ReportFailureCategory
  failureMessage : String
  retryEligible : Bool

/-- `mark_rerender_failed`. -/
def markRerenderFailed (jobs : Jobs.Ledger) (attempts : Attempts) (rerenderAttemptId : String)
    (failure : RerenderFailure) (c : CallContext) :
    Except LedgerError (AttemptRow × Jobs.Ledger × Attempts) := do
  let (row, attempts) ← updateRerenderAttempt attempts rerenderAttemptId
    { status := .failed
      failureCategory := some failure.failureCategory
      failureMessage := some failure.failureMessage
      retryEligible := some failure.retryEligible } c.now
  let jobs ← appendRerenderEvent jobs row.reportJobId .archived "job_rerender_failed"
    failure.failureMessage
    [ ("rerender_attempt_id", .str rerenderAttemptId),
      ("failure_message", .str failure.failureMessage) ] none c
  return (row, jobs, attempts)

end Writes

section Inversion

variable {attempts attempts' : Attempts} {jobs jobs' : Jobs.Ledger} {row row' : AttemptRow}
  {attemptId : String} {u : AttemptUpdate} {now : Instant} {c : CallContext}

theorem updateRerenderAttempt_eq_ok
    (h : updateRerenderAttempt attempts attemptId u now = .ok (row', attempts')) :
    ∃ row ∈ attempts.rows, row.rerenderAttemptId = attemptId ∧ row' = row.updated u now ∧
      attempts' = attempts.put row' := by
  unfold updateRerenderAttempt at h
  split at h
  · cases h
  · rename_i row hrow
    cases h
    exact ⟨row, Table.mem_of_find? hrow, Table.key_of_find? hrow, rfl, rfl⟩

theorem mem_rows_of_update
    (h : updateRerenderAttempt attempts attemptId u now = .ok (row', attempts')) :
    row ∈ attempts'.rows ↔
      row = row' ∨ row ∈ attempts.rows ∧ row.rerenderAttemptId ≠ attemptId := by
  obtain ⟨old, hold, rfl, rfl, rfl⟩ := updateRerenderAttempt_eq_ok h
  exact Table.mem_rows_put hold rfl rfl

/-- A status event of a rerender was appended to the ledger. -/
def RerenderEvent (jobs jobs' : Jobs.Ledger) : Prop :=
  ∃ jobId status eventType message payload key c,
    appendRerenderEvent jobs jobId status eventType message payload key c = .ok jobs'

theorem markRerenderArchived_eq_ok {documentId : String}
    (h : markRerenderArchived jobs attempts attemptId documentId c = .ok (row, jobs', attempts')) :
    updateRerenderAttempt attempts attemptId
      { status := .archived
        archiveDocumentId := some documentId
        archiveCompletedAt := some c.now
        clearFailure := true } c.now = .ok (row, attempts') ∧ RerenderEvent jobs jobs' := by
  obtain ⟨⟨row', attempts₁⟩, hupdate, hrest⟩ := bind_eq_ok.mp h
  obtain ⟨jobs₁, hevent, hlast⟩ := bind_eq_ok.mp hrest
  cases hlast
  exact ⟨hupdate, _, _, _, _, _, _, _, hevent⟩

theorem markRerenderFailed_eq_ok {failure : RerenderFailure}
    (h : markRerenderFailed jobs attempts attemptId failure c = .ok (row, jobs', attempts')) :
    updateRerenderAttempt attempts attemptId
      { status := .failed
        failureCategory := some failure.failureCategory
        failureMessage := some failure.failureMessage
        retryEligible := some failure.retryEligible } c.now = .ok (row, attempts') ∧
      RerenderEvent jobs jobs' := by
  obtain ⟨⟨row', attempts₁⟩, hupdate, hrest⟩ := bind_eq_ok.mp h
  obtain ⟨jobs₁, hevent, hlast⟩ := bind_eq_ok.mp hrest
  cases hlast
  exact ⟨hupdate, _, _, _, _, _, _, _, hevent⟩

theorem insertAttempt_eq_ok (h : insertAttempt attempts row = .ok attempts') :
    attempts.insert? row = some attempts' := by
  unfold insertAttempt at h
  split at h
  · rename_i hinsert
    cases h
    exact hinsert
  · cases h

/-- An adoption returns a stored row, or inserts one that is archived from birth. -/
theorem recordAdoptedRerenderOutcome_eq_ok {call : AdoptionCall}
    (h : recordAdoptedRerenderOutcome jobs attempts call = .ok (row, jobs', attempts')) :
    attempts' = attempts ∧ jobs' = jobs ∨
      attempts.insert? (adoptedAttempt call) = some attempts' ∧ RerenderEvent jobs jobs' := by
  unfold recordAdoptedRerenderOutcome at h
  split at h
  · cases h
  · split at h
    · cases h
      exact Or.inl ⟨rfl, rfl⟩
    · obtain ⟨attempts₁, hinsert, hrest⟩ := bind_eq_ok.mp h
      obtain ⟨jobs₁, hevent, hlast⟩ := bind_eq_ok.mp hrest
      cases hlast
      exact Or.inr ⟨insertAttempt_eq_ok hinsert, _, _, _, _, _, _, _, hevent⟩

theorem createRerenderAttempt_eq_ok {py : Runtime} {call : AttemptCall} {created : Bool}
    (h : createRerenderAttempt py jobs attempts call = .ok ((row, created), jobs', attempts')) :
    created = false ∧ attempts' = attempts ∧ jobs' = jobs ∨
      created = true ∧
        attempts.lookup? (call.job.job.reportJobId, strip call.idempotencyKey) = none ∧
        row.status = .rendering ∧ row.reportJobId = call.job.job.reportJobId ∧
        attempts.insert? row = some attempts' ∧ RerenderEvent jobs jobs' := by
  unfold createRerenderAttempt at h
  split at h
  · cases h
  · split at h
    · cases h
      exact Or.inl ⟨rfl, rfl, rfl⟩
    · rename_i hnone
      obtain ⟨template, -, h⟩ := bind_eq_ok.mp h
      obtain ⟨templateId, -, h⟩ := bind_eq_ok.mp h
      obtain ⟨templateVersion, -, h⟩ := bind_eq_ok.mp h
      obtain ⟨attempts₁, hinsert, h⟩ := bind_eq_ok.mp h
      obtain ⟨jobs₁, hevent, hlast⟩ := bind_eq_ok.mp h
      cases hlast
      exact Or.inr ⟨rfl, hnone, rfl, rfl, insertAttempt_eq_ok hinsert, _, _, _, _, _, _, _, hevent⟩

end Inversion

end LotusReport.Corrections
