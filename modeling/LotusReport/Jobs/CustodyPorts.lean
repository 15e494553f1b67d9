import LotusReport.Encoding.Runtime
import LotusReport.Jobs.Custody

/-!
# The fenced ports of custody

The operations through which a worker retains a render offer, reserves a
dispatch, records what the render owner answered and confirms the archived
document, and the operation through which an operator resumes parked work.
-/

namespace LotusReport.Jobs

open Encoding

/-- The operations that `reserve` budgets. -/
inductive CustodyOperation where
  | initial
  | retry
  | poll
deriving DecidableEq, Repr

/-- `encode_render_offer`: the compact text of an offer. -/
def encodeRenderOffer (payload : Fields) : Except LedgerError String :=
  if Json.hasNonFinite (.obj payload) then
    .error (.valueError "Out of range float values are not JSON compliant")
  else
    let body := Json.dumps false (.obj payload)
    if 0 < body.utf8ByteSize ∧ body.utf8ByteSize ≤ maxOfferBytes then .ok body
    else .error (.custodyRecovery "render_offer_size_exceeded")

/-- `payload.get(name)`, with the absent value as null. -/
def field (payload : Fields) (name : String) : Json :=
  (Json.lookup payload name).getD .null

/-- `payload.get(name, {})` where an object is needed. -/
def objectField (payload : Fields) (name : String) :
    Except LedgerError Fields :=
  match Json.lookup payload name with
  | none => .ok []
  | some (.obj fields) => .ok fields
  | some _ => .error .typeError

/-- The identifying fields of a confirmed delivery. -/
structure FinalIdentity where
  renderJobId : String
  archiveRequestId : String
  archiveDocumentId : String
  artifactSha256 : String
deriving DecidableEq, Repr

/-- `isinstance(value, str) and 0 < len(value) <= 256`. -/
def boundedText : Json → Option String
  | .str s => if 0 < s.length ∧ s.length ≤ 256 then some s else none
  | _ => none

/-- The identity that `confirm_final` reads from the response. -/
def finalIdentity (response : Fields) : Except LedgerError FinalIdentity :=
  match boundedText (field response "render_job_id"),
      boundedText (field response "archive_request_id"),
      boundedText (field response "archive_document_id"),
      boundedText (field response "artifact_sha256") with
  | some renderJobId, some archiveRequestId, some archiveDocumentId, some artifactSha256 =>
      .ok ⟨renderJobId, archiveRequestId, archiveDocumentId, artifactSha256⟩
  | _, _, _, _ => .error (.custodyRecovery "custody_verification_identity_missing")

namespace JobFile

/-- `offer_identity`: the offer names this job, its template and its scope. -/
def offerIdentity (f : JobFile) (payload : Fields) : Except LedgerError Unit := do
  let context ← objectField payload "render_context"
  match field payload "output_format" with
  | .arr _ | .obj _ => .error .typeError
  | .str output =>
      if output ∉ ["pdf", "xlsx"] ||
          field payload "report_job_id" ≠ .str f.job.reportJobId ||
          field payload "report_type" ≠ .str f.job.reportType ||
          field payload "render_job_id" ≠ .str ("rdr_" ++ f.job.reportJobId ++ "_" ++ output) ||
          field payload "template_id" ≠ .ofText? f.job.render.templateId ||
          field payload "template_version" ≠ .ofText? f.job.render.templateVersion then
        .error (.custodyRecovery "custody_offer_identity_mismatch")
      else
        let archive ← objectField context "archive"
        if field archive "tenant_id" ≠ .str f.request.tenantId ||
            field archive "region" ≠ .str f.request.region then
          .error (.custodyRecovery "custody_offer_scope_mismatch")
        else .ok ()
  | _ => .error (.custodyRecovery "custody_offer_identity_mismatch")

/-- The job row with a retained offer. -/
def offeredJob (job : JobRow) (body digest renderId : String) : JobRow :=
  { job with
    status := .rendering
    render := { job.render with jobId := some renderId }
    custody :=
      { job.custody with
        offerBody := some body
        offerSha256 := some digest
        offerSize := some body.utf8ByteSize
        offerVersion := some "json-utf8-compact.v1"
        offerGeneration := 1
        state := some .ready } }

/-- The transaction of `commit_offer`; `total` and `tenantTotal` are the bytes retained so far. -/
def commitOffer (f : JobFile) (py : Runtime) (tenantId region : String) (fence : CustodyLease)
    (payload : Fields) (total tenantTotal : Nat) (now : Instant) :
    Except LedgerError (String × JobFile) := do
  let body ← encodeRenderOffer payload
  let digest := py.sha256 body
  match field payload "render_job_id" with
  | .str renderId =>
      if renderId = "" then .error (.custodyRecovery "custody_render_identity_missing")
      else do
        f.lockPair
        f.lease fence now
        f.scope tenantId region
        if present f.job.custody.offerSha256 then
          if f.job.custody.offerSha256 ≠ some digest || f.job.render.jobId ≠ some renderId then
            .error (.custodyRecovery "custody_offer_conflict")
          else return (digest, f)
        else
          f.offerIdentity payload
          if f.job.status ≠ .dataReady then .error (.custodyRecovery "custody_offer_not_ready")
          else if maxRetainedBytes < total + body.utf8ByteSize ||
              maxTenantBytes < tenantTotal + body.utf8ByteSize then
            .error (.custodyRecovery "custody_retention_quota_exceeded")
          else if f.job.custody.offerBody.isSome then
            .error (.custodyRecovery "custody_stale_write")
          else
            let f ← f.updateJob (offeredJob f.job body digest renderId)
            let f ← f.appendStatusEvent (some .dataReady) .rendering "job_rendering"
              (some "Retained Render offer.")
              [("render_output_format", field payload "output_format"),
                ("render_template_id", field payload "template_id")] none
              "report-job-worker" f.request.correlationId f.request.traceId now
            return (digest, f)
  | _ => .error (.custodyRecovery "custody_render_identity_missing")

/-- The counter an operation draws on, with its limit. -/
def budget (c : CustodyColumns) : CustodyOperation → Nat × Nat
  | .initial => (c.initialCount, 1)
  | .retry => (c.dispatchCount, 3)
  | .poll => (c.pollCount, 12)

/-- The custody columns with one operation counted. -/
def counted (c : CustodyColumns) : CustodyOperation → CustodyColumns
  | .initial => { c with initialCount := c.initialCount + 1 }
  | .retry => { c with dispatchCount := c.dispatchCount + 1 }
  | .poll => { c with pollCount := c.pollCount + 1 }

/-- The custody columns after an operation was granted. -/
def reservedCustody (c : CustodyColumns) (operation : CustodyOperation) (window next : Instant) :
    CustodyColumns :=
  { (counted c operation) with
    windowStartedAt := some (isoformat window)
    nextAttemptAt := some (isoformat next) }

section Reserved

variable (c : CustodyColumns) (operation : CustodyOperation) (window next : Instant)

@[simp] theorem reservedCustody_policy :
    (reservedCustody c operation window next).policy = c.policy := by
  cases operation <;> rfl

@[simp] theorem reservedCustody_state :
    (reservedCustody c operation window next).state = c.state := by
  cases operation <;> rfl

@[simp] theorem reservedCustody_epoch :
    (reservedCustody c operation window next).epoch = c.epoch := by
  cases operation <;> rfl

@[simp] theorem reservedCustody_offerBody :
    (reservedCustody c operation window next).offerBody = c.offerBody := by
  cases operation <;> rfl

@[simp] theorem reservedCustody_offerSha256 :
    (reservedCustody c operation window next).offerSha256 = c.offerSha256 := by
  cases operation <;> rfl

@[simp] theorem reservedCustody_offerSize :
    (reservedCustody c operation window next).offerSize = c.offerSize := by
  cases operation <;> rfl

theorem reservedCustody_initialCount :
    c.initialCount ≤ (reservedCustody c operation window next).initialCount := by
  cases operation <;> simp [reservedCustody, counted]

end Reserved

/-- The delay after a granted operation, with the random part of it. -/
def recoveryDelay (c : CustodyColumns) (operation : CustodyOperation) (jitter : Nat) : Int :=
  match operation with
  | .initial => recoveryDelays (min c.dispatchCount 2) + jitter
  | .retry => recoveryDelays (min (c.dispatchCount + 1) 2) + jitter
  | .poll => 0

/-- The transaction of `reserve`. -/
def reserve (f : JobFile) (tenantId region : String) (fence : CustodyLease)
    (operation : CustodyOperation) (jitter : Nat) (now : Instant) :
    Except LedgerError (Bool × JobFile) := do
  f.lockPair
  f.lease fence now
  f.scope tenantId region
  let window := (f.job.custody.windowStartedAt.map (·.instant)).getD now
  let due := (f.job.custody.nextAttemptAt.map (·.instant)).getD now
  if f.job.custody.state ∈ [some .blocked, some .refused, some .verified] ∨ now < due then
    return (false, f)
  else if (budget f.job.custody operation).2 ≤ (budget f.job.custody operation).1 ∨
      window + recoveryWindow ≤ now then
    let f ← f.park "custody_retry_budget_exhausted" now
    return (false, f)
  else
    let next := now + seconds (recoveryDelay f.job.custody operation jitter)
    let f ← f.updateJob
      { f.job with custody := reservedCustody f.job.custody operation window next }
    return (true, f)

/-- The response refuses the offer for good. -/
def refusedResponse (response : Fields) (httpStatus : Int) : Bool :=
  (400 ≤ httpStatus && httpStatus < 500 && httpStatus ≠ 429) ||
    match field response "archive_state" with
    | .str state => startsWith state "archive_refused_"
    | _ => false

/-- The response carries an archive request id that is recorded. -/
def acceptedRequestId (response : Fields) : Option String :=
  match field response "archive_request_id" with
  | .str id => if id ≠ "" ∧ id.length ≤ 256 then some id else none
  | _ => none

/-- The response contradicts the identifiers that are already recorded. -/
def conflictingResponse (job : JobRow) (response : Fields) :
    Except LedgerError Bool :=
  let returnedId := field response "render_job_id"
  let requestId := field response "archive_request_id"
  if returnedId ≠ .null ∧ returnedId ≠ .ofText? job.render.jobId then .ok true
  else if present job.archiveRequestId then
    match requestId with
    | .null => .ok false
    | .arr _ | .obj _ => .error .typeError
    | id => .ok (id ≠ .ofText? job.archiveRequestId)
  else .ok false

/-- The archive request of a response; the status is written here without a status event. -/
def recordArchiveRequest (f : JobFile) (response : Fields) :
    Except LedgerError JobFile :=
  match acceptedRequestId response with
  | some requestId =>
      f.updateJob { f.job with archiveRequestId := some requestId, status := .archiving }
  | none => .ok f

/-- The transaction of `disposition`. -/
def disposition (f : JobFile) (tenantId region : String) (fence : CustodyLease)
    (response : Fields) (httpStatus : Int) (now : Instant) :
    Except LedgerError JobFile := do
  f.lockPair
  f.lease fence now
  f.scope tenantId region
  let conflict ← conflictingResponse f.job response
  if conflict then f.park "custody_identity_conflict" now
  else if refusedResponse response httpStatus then
    let f ← f.park "custody_refused" now
    f.updateJob { f.job with custody := { f.job.custody with state := some .refused } }
  else
    let f ← f.recordArchiveRequest response
    f.updateJob { f.job with custody := { f.job.custody with state := some .waiting } }

/-- The transaction of `block`. -/
def block (f : JobFile) (tenantId region : String) (fence : CustodyLease) (now : Instant) :
    Except LedgerError JobFile := do
  f.lockPair
  f.lease fence now
  f.scope tenantId region
  f.park "custody_owner_blocked" now

/-- The transaction of `record_owner_due`. -/
def recordOwnerDue (f : JobFile) (tenantId region : String) (fence : CustodyLease)
    (due now : Instant) : Except LedgerError (Bool × JobFile) := do
  f.lockPair
  f.lease fence now
  f.scope tenantId region
  let window := (f.job.custody.windowStartedAt.map (·.instant)).getD now
  if window + recoveryWindow ≤ due then
    let f ← f.park "custody_owner_schedule_exhausted" now
    return (false, f)
  else
    let target := max due ((f.job.custody.nextAttemptAt.map (·.instant)).getD now)
    let f ← f.updateJob
      { f.job with custody := { f.job.custody with nextAttemptAt := some (isoformat target) } }
    return (true, f)

/-- `custody_verification_json`. -/
def verificationProof (f : JobFile) (identity : FinalIdentity) (tenantId region : String)
    (epoch : Nat) : Json :=
  .obj
    [ ("render_job_id", .str identity.renderJobId),
      ("archive_request_id", .str identity.archiveRequestId),
      ("archive_document_id", .str identity.archiveDocumentId),
      ("artifact_sha256", .str identity.artifactSha256),
      ("job_id", .str f.job.reportJobId),
      ("tenant_id", .str tenantId),
      ("region", .str region),
      ("offer_sha256", .ofText? f.job.custody.offerSha256),
      ("offer_generation", .int f.job.custody.offerGeneration),
      ("epoch", .int epoch) ]

/-- The job row after the delivery was verified. -/
def verifiedJob (job : JobRow) (archiveDocumentId : String) (proof : Json) (now : Instant) :
    JobRow :=
  { job with
    status := .archived
    archiveDocumentId := some archiveDocumentId
    archiveCompletedAt := some (isoformat now)
    completedAt := some (isoformat now)
    updatedAt := isoformat now
    currentStep := "archived"
    custody := { job.custody with state := some .verified, verification := some proof } }

/-- The transaction of `confirm_final`, after the native verification of the delivery. -/
def confirmFinal (f : JobFile) (tenantId region : String) (fence : CustodyLease)
    (identity : FinalIdentity) (now : Instant) : Except LedgerError JobFile := do
  f.lockPair
  f.lease fence now
  f.scope tenantId region
  if f.job.render.jobId ≠ some identity.renderJobId ||
      f.job.archiveRequestId ≠ some identity.archiveRequestId then
    .error (.custodyRecovery "custody_verification_identity_conflict")
  else
    let fromStatus := f.job.status
    let f ← f.updateJob (verifiedJob f.job identity.archiveDocumentId
      (f.verificationProof identity tenantId region fence.epoch) now)
    f.appendStatusEvent (some fromStatus) .archived "job_archived"
      (some "Native custody independently verified.")
      [("archive_document_id", .str identity.archiveDocumentId)] none
      "report-job-worker" f.request.correlationId f.request.traceId now

/-- The job row that `resume` writes. -/
def resumedJob (job : JobRow) (now : Instant) : JobRow :=
  { job with
    custody :=
      { job.custody with
        state := some .ready
        epoch := job.custody.epoch + 1
        dispatchCount := 0
        pollCount := 0
        windowStartedAt := some (isoformat now)
        nextAttemptAt := some (isoformat now) } }

/-- The work row that `resume` writes. -/
def resumedWork (w : WorkRow) (now : Instant) : WorkRow :=
  { w with status := .retryPending, attemptCount := 0, availableAt := isoformat now }

/-- The transaction of `resume`. -/
def resume (f : JobFile) (tenantId region : String) (expectedEpoch : Nat) (expectedDigest : String)
    (now : Instant) : Except LedgerError JobFile := do
  f.lockPair
  f.scope tenantId region
  match f.work with
  | none => .error .typeError
  | some w =>
      if w.status = .retryPending ∧ f.job.custody.epoch = expectedEpoch + 1 ∧
          f.job.custody.offerSha256 = some expectedDigest ∧
          f.job.custody.state = some .ready then
        return f
      else if w.status ≠ .failed ∨ f.job.custody.epoch ≠ expectedEpoch ∨
          f.job.custody.offerSha256 ≠ some expectedDigest ∨
          f.job.custody.state ≠ some .blocked ∨
          f.job.custody.reason ∉
            [some "custody_retry_budget_exhausted", some "custody_retry_exhausted"] then
        .error (.custodyRecovery "custody_resume_conflict")
      else
        let f ← f.updateJob (resumedJob f.job now)
        return f.setWork (resumedWork w now)

end JobFile

end LotusReport.Jobs
