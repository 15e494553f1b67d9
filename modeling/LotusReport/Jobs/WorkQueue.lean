import LotusReport.Jobs.Transitions

/-!
# The durable work queue

Claims, settlements and expiry of the work item of one job. A claim charges an
attempt, a deferral refunds it, and a failure of the last permitted attempt
terminalizes the job.
-/

namespace LotusReport.Jobs

open Encoding

/-- `ReportJobWorkRetryPolicy`. -/
structure ReportJobWorkRetryPolicy where
  maxAttempts : Nat := 3
  baseDelaySeconds : Int := 5
  maxDelaySeconds : Int := 300
deriving DecidableEq, Repr

/-- `retry_delay_seconds`. -/
def ReportJobWorkRetryPolicy.retryDelaySeconds (p : ReportJobWorkRetryPolicy)
    (attemptCount : Nat) : Int :=
  min (p.baseDelaySeconds * 2 ^ (attemptCount - 1)) p.maxDelaySeconds

/-- `ReportJobWorkFailureDecision`. -/
structure ReportJobWorkFailureDecision where
  terminal : Bool
  availableAt : Instant

/-- The work status that a decision names. -/
def ReportJobWorkFailureDecision.status (d : ReportJobWorkFailureDecision) : ReportJobWorkStatus :=
  if d.terminal then .failed else .retryPending

/-- `decide_report_job_work_failure`. -/
def decideReportJobWorkFailure (attemptCount : Nat) (failedAt : Instant)
    (retryPolicy : ReportJobWorkRetryPolicy) : ReportJobWorkFailureDecision where
  terminal := decide (retryPolicy.maxAttempts ≤ attemptCount)
  availableAt := failedAt + seconds (retryPolicy.retryDelaySeconds attemptCount)

namespace JobFile

/-- The transition that ends a job whose work is exhausted. -/
def exhaustedTransition (failureCategory : ReportFailureCategory) (failureSummary : String) :
    Transition :=
  let bounded := clip 240 (collapse failureSummary)
  { toStatus := .failed
    failureCategory := some failureCategory
    failureMessage := some (clip 500
      ("Durable report processing exhausted its permitted attempts. " ++ bounded))
    currentStep := "failed"
    retryEligible := true
    eventType := "job_failed"
    eventMessage := some bounded
    setCompletedAt := true }

/-- `_terminalize_report_job_from_work`. -/
def terminalizeFromWork (f : JobFile) (actor : String) (failureCategory : ReportFailureCategory)
    (failureSummary : String) (currentWorkLease : Option (String × String)) (now : Instant) :
    Except LedgerError JobFile := do
  let (handled, f) ← f.protectWork false now
  if handled then return f
  else if f.job.status.terminal then return f
  else
    f.transitionJob (exhaustedTransition failureCategory failureSummary)
      ⟨actor, f.request.correlationId, f.request.traceId, currentWorkLease, now⟩

/-- The fence of a settlement: the item is leased under this token. -/
def leasedUnder (w : WorkRow) (leaseToken : String) : Bool :=
  w.status == .leased && w.leaseToken == some leaseToken

/-- A settlement whose fence fails. -/
def leaseNotOwned : LedgerError := .invalidWorkTransition "report_job_work_lease_not_owned"

/-- The work row that a claim writes. -/
def leasedWork (w : WorkRow) (workerId leaseToken : String) (leaseSeconds : Int)
    (claimedAt : Instant) : WorkRow :=
  { w with
    status := .leased
    attemptCount := w.attemptCount + 1
    leaseOwner := some workerId
    leaseToken := some leaseToken
    leaseAcquiredAt := some (dtToText claimedAt)
    leaseExpiresAt := some (dtToText (claimedAt + seconds leaseSeconds))
    updatedAt := dtToText claimedAt }

/-- The work row that a completion writes. -/
def completedWork (w : WorkRow) (now : Instant) : WorkRow :=
  { w.released with
    status := .completed
    updatedAt := dtToText now
    completedAt := some (dtToText now) }

/-- The work row that a deferral writes; the charge of the claim is refunded. -/
def deferredWork (w : WorkRow) (waitReason : String) (availableAt now : Instant) : WorkRow :=
  { w.released with
    status := .retryPending
    attemptCount := w.attemptCount - 1
    availableAt := dtToText availableAt
    lastErrorCategory := some (clip 80 waitReason)
    lastErrorSummary := some "Waiting on owner-side work; the failure budget is untouched."
    updatedAt := dtToText now }

/-- The work row that a failed or expired attempt writes. -/
def failedWork (w : WorkRow) (status : ReportJobWorkStatus) (errorCategory errorSummary : String)
    (availableAt now : Instant) : WorkRow :=
  { w.released with
    status := status
    availableAt := dtToText availableAt
    lastErrorCategory := some errorCategory
    lastErrorSummary := some errorSummary
    updatedAt := dtToText now }

/-- The claim of one runnable work item. -/
def claimWork (f : JobFile) (workerId leaseToken : String) (leaseSeconds : Int)
    (claimedAt now : Instant) : Except LedgerError (Option WorkRow × JobFile) :=
  match f.work with
  | none => .ok (none, f)
  | some w =>
      if w.status ∈ [.pending, .retryPending] then do
        let leased := leasedWork w workerId leaseToken leaseSeconds claimedAt
        let f ← (f.setWork leased).claimed leaseSeconds now
        return (some leased, f)
      else .ok (none, f)

/-- `complete_work_item`. -/
def completeWork (f : JobFile) (workItemId leaseToken : String) (now : Instant) :
    Except LedgerError JobFile := do
  f.validateWork workItemId leaseToken now
  let (handled, f) ← f.protectWork true now
  if handled then return f
  else
    match f.work with
    | some w =>
        if leasedUnder w leaseToken then return f.setWork (completedWork w now)
        else .error leaseNotOwned
    | none => .error leaseNotOwned

/-- `defer_work_item`. -/
def deferWork (f : JobFile) (workItemId leaseToken waitReason : String) (delaySeconds : Int)
    (now : Instant) : Except LedgerError JobFile := do
  f.validateWork workItemId leaseToken now
  match ← f.settleVerifiedWork now with
  | some f => return f
  | none =>
      match f.work with
      | some w =>
          if leasedUnder w leaseToken then
            return f.setWork (deferredWork w waitReason
              (f.scheduledAt (now + seconds (max delaySeconds 1))) now)
          else .error leaseNotOwned
      | none => .error leaseNotOwned

/-- `fail_work_item`. -/
def failWork (f : JobFile) (workItemId leaseToken errorCategory errorSummary : String)
    (retryPolicy : ReportJobWorkRetryPolicy) (currentWorkLease : Option (String × String))
    (now : Instant) : Except LedgerError JobFile := do
  f.validateWork workItemId leaseToken now
  match ← f.settleVerifiedWork now with
  | some f => return f
  | none =>
      match f.work with
      | some w =>
          if leasedUnder w leaseToken then
            let decision := decideReportJobWorkFailure w.attemptCount now retryPolicy
            let f := f.setWork (failedWork w decision.status (clip 80 errorCategory)
              (clip 240 (collapse errorSummary)) (f.scheduledAt decision.availableAt) now)
            if decision.terminal then
              f.terminalizeFromWork
                (if present w.leaseOwner then w.leaseOwner.getD "" else "report-job-worker")
                .operatorInterventionRequired errorSummary currentWorkLease now
            else return f
          else .error leaseNotOwned
      | none => .error leaseNotOwned

/-- The lease of the item has run out, by the order of the stored texts. -/
def workLeaseExpired (now : Timestamp) (w : WorkRow) : Bool :=
  w.status == .leased && w.leaseExpiresAt.any fun e => e.le now

/-- One round of `_recover_expired_work_items`. -/
def expireWork (f : JobFile) (retryPolicy : ReportJobWorkRetryPolicy)
    (currentWorkLease : Option (String × String)) (recoveredAt now : Instant) :
    Except LedgerError JobFile :=
  match f.work with
  | some w =>
      if workLeaseExpired (dtToText recoveredAt) w then
        let decision := decideReportJobWorkFailure w.attemptCount
          ((w.leaseExpiresAt.map (·.instant)).getD recoveredAt) retryPolicy
        let f := f.setWork (failedWork w decision.status "expired_work_lease"
          "Report job work lease expired before completion." decision.availableAt recoveredAt)
        if decision.terminal then
          f.terminalizeFromWork
            (if present w.leaseOwner then w.leaseOwner.getD "" else "report-job-worker")
            .timeout "Report job work lease expired after the final permitted attempt."
            currentWorkLease now
        else .ok f
      else .error leaseNotOwned
  | none => .error leaseNotOwned

/-- `_ensure_work_item`, on the rows of the job. -/
def ensureWork (f : JobFile) (workItemId : String) (now : Instant) : JobFile :=
  if f.job.status.terminal || f.work.isSome then f
  else
    f.setWork
      { workItemId := workItemId
        reportJobId := f.job.reportJobId
        status := .pending
        attemptCount := 0
        availableAt := dtToText now
        createdAt := dtToText now
        updatedAt := dtToText now }

end JobFile

end LotusReport.Jobs
