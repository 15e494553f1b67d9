import LotusReport.Jobs.JobFile

/-!
# Custody of retained render offers

The fenced operations of `CustodyRecovery` on the rows of one job. A job under
the required policy is protected once it has left traces outside the ledger;
from then on only the fenced ports advance it, and work that cannot go on is
parked for an operator.
-/

namespace LotusReport.Jobs

open Encoding

/-- `CustodyLease`: the fence a worker carries. -/
structure CustodyLease where
  workItemId : String
  token : String
  epoch : Nat
deriving DecidableEq, Repr

/-- `custody_protected`. -/
def custodyProtected (job : JobRow) : Bool :=
  job.custody.policy == requiredPolicy && job.custody.state ≠ some .verified &&
    (present job.custody.offerSha256 || present job.render.jobId ||
      present job.archiveRequestId || job.custody.initialCount ≠ 0 ||
      job.status ∈ [.rendering, .completed, .archiving])

/-- `RECOVERY_DELAYS`, in seconds. -/
def recoveryDelays : Nat → Int
  | 0 => 60
  | 1 => 300
  | _ => 900

/-- `MAX_OFFER_BYTES`. -/
def maxOfferBytes : Nat := 8388608

/-- `MAX_RETAINED_BYTES`. -/
def maxRetainedBytes : Nat := 134217728

/-- `MAX_TENANT_BYTES`. -/
def maxTenantBytes : Nat := 33554432

/-- `timedelta(hours=24)`. -/
def recoveryWindow : Int := seconds 86400

/-- The work item without a lease. -/
def WorkRow.released (w : WorkRow) : WorkRow :=
  { w with
    leaseOwner := none
    leaseToken := none
    leaseAcquiredAt := none
    leaseExpiresAt := none }

namespace JobFile

/-- `lock_pair`: a required job must have its work item. -/
def lockPair (f : JobFile) : Except LedgerError Unit :=
  if f.job.custody.policy = requiredPolicy ∧ f.work = none then
    .error (.custodyRecovery "custody_work_missing")
  else .ok ()

/-- The fence matches the rows, and the lease has not run out. -/
def holdsFence (f : JobFile) (fence : CustodyLease) (now : Instant) : Bool :=
  match f.work with
  | none => false
  | some w =>
      w.workItemId == fence.workItemId && w.status == .leased && w.leaseToken == some fence.token &&
        f.job.custody.epoch == fence.epoch &&
        decide (now < (w.leaseExpiresAt.map (·.instant)).getD now)

/-- `lease`. -/
def lease (f : JobFile) (fence : CustodyLease) (now : Instant) : Except LedgerError Unit :=
  if f.holdsFence fence now then .ok () else .error (.custodyRecovery "custody_stale_lease")

/-- `scope`. -/
def scope (f : JobFile) (tenantId region : String) : Except LedgerError Unit :=
  if f.request.tenantId ≠ tenantId || f.request.region ≠ region ||
      f.job.custody.policy ≠ requiredPolicy then
    .error (.custodyRecovery "custody_scope_mismatch")
  else .ok ()

/-- The work row that `park` writes. -/
def parkedWork (w : WorkRow) (reason : String) (now : Instant) : WorkRow :=
  { w.released with
    status := .failed
    lastErrorCategory := some (clip 80 reason)
    lastErrorSummary := some "Custody unresolved; automatic work parked."
    updatedAt := isoformat now }

/-- The custody columns that `park` writes. -/
def parkedCustody (c : CustodyColumns) (reason : String) : CustodyColumns :=
  { c with
    state := some .blocked
    reason := some (clip 80 reason)
    epoch := c.epoch + 1 }

/-- `park`. -/
def park (f : JobFile) (reason : String) (now : Instant) : Except LedgerError JobFile :=
  if f.job.custody.state = some .verified then .ok f
  else
    match f.work with
    | none => .error (.custodyRecovery "custody_work_missing")
    | some w => do
        let f ← (f.setWork (parkedWork w reason now)).updateJob
          { f.job with custody := parkedCustody f.job.custody reason }
        f.appendStatusEvent (some f.job.status) f.job.status "job_custody_parked"
          (some (clip 240 reason)) [("reason_code", .str (clip 80 reason))] none
          "report-job-worker" f.request.correlationId f.request.traceId now

/-- The lease that the calling worker is bound to must be current; the capture transitions are
made by a bound worker only. -/
def requireWorkerLease (f : JobFile) (toStatus : ReportJobStatus)
    (identity : Option (String × String)) (now : Instant) : Except LedgerError Unit :=
  match identity with
  | some (workItemId, token) => f.lease ⟨workItemId, token, f.job.custody.epoch⟩ now
  | none =>
      if toStatus ∈ [.collectingData, .dataReady] then
        .error (.custodyRecovery "custody_worker_lease_required")
      else .ok ()

/-- `guard_transition`: whether custody has dealt with the transition. -/
def guardTransition (f : JobFile) (toStatus : ReportJobStatus)
    (identity : Option (String × String)) (now : Instant) :
    Except LedgerError (Bool × JobFile) :=
  if f.job.custody.policy ≠ requiredPolicy then .ok (false, f)
  else do
    f.lockPair
    f.requireWorkerLease toStatus identity now
    if f.job.custody.state = some .verified then return (toStatus ≠ .archived, f)
    else if custodyProtected f.job ∧ toStatus ∈ [.failed, .cancelled, .archived] then
      let f ← f.park "custody_transition_blocked" now
      return (true, f)
    else if toStatus ∈ [.rendering, .completed, .archiving] then
      .error (.custodyRecovery "custody_fenced_transition_required")
    else return (false, f)

/-- `scheduled_at`. -/
def scheduledAt (f : JobFile) (proposed : Instant) : Instant :=
  match f.job.custody.nextAttemptAt with
  | some due => if f.job.custody.policy = requiredPolicy then max proposed due.instant else proposed
  | none => proposed

/-- `protect_work`: whether custody has settled or parked the work item. -/
def protectWork (f : JobFile) (completing : Bool) (now : Instant) :
    Except LedgerError (Bool × JobFile) :=
  match f.work with
  | none => .error (.custodyRecovery "custody_work_missing")
  | some w =>
      if f.job.custody.policy = requiredPolicy ∧ f.job.custody.state = some .verified then
        .ok (true, f.setWork { w.released with status := .completed })
      else if custodyProtected f.job then do
        let f ← f.park
          (if completing then "custody_completion_blocked" else "custody_retry_exhausted") now
        return (true, f)
      else .ok (false, f)

/-- `validate_work`. -/
def validateWork (f : JobFile) (workItemId token : String) (now : Instant) :
    Except LedgerError Unit := do
  f.lockPair
  if f.job.custody.policy = requiredPolicy then
    f.lease ⟨workItemId, token, f.job.custody.epoch⟩ now
  else .ok ()

/-- `settle_verified_work`: the rows when custody is verified. -/
def settleVerifiedWork (f : JobFile) (now : Instant) : Except LedgerError (Option JobFile) :=
  if f.job.custody.state = some .verified then do
    let (_, f) ← f.protectWork false now
    return some f
  else .ok none

/-- `claimed`: a claim of required work raises the epoch. -/
def claimed (f : JobFile) (leaseSeconds : Int) (now : Instant) : Except LedgerError JobFile :=
  match f.work with
  | none => .error (.custodyRecovery "custody_work_missing")
  | some w =>
      if f.job.custody.policy = requiredPolicy then
        if leaseSeconds < 120 then .error (.custodyRecovery "custody_lease_budget_invalid")
        else do
          f.lease ⟨w.workItemId, w.leaseToken.getD "", f.job.custody.epoch⟩ now
          f.updateJob { f.job with custody := { f.job.custody with
            epoch := f.job.custody.epoch + 1 } }
      else .ok f

end JobFile

end LotusReport.Jobs
