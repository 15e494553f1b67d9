import LotusReport.Fallible.Checks
import LotusReport.Jobs.CustodyPorts
import LotusReport.Jobs.WorkQueue

/-!
# What a transaction can do to the rows of a job

`FileStep` lists every change that an operation can make to the rows of one
job, with the facts the operation has checked by then. Each operation is
inverted here once; the properties of runs are proved from the list.
-/

namespace LotusReport.Jobs

open Encoding Fallible

/-- The effects that operations have on the rows of a job. -/
inductive Effect where
  | recorded
  | moved
  | cancelled
  | parked
  | claimed (leaseToken : String)
  | completed
  | settled
  | deferred
  | attemptFailed (maxAttempts : Nat)
  | offered
  | reserved
  | refused
  | archiveRequested
  | waiting
  | scheduled
  | confirmed
  | resumed
  | enqueued
deriving DecidableEq, Repr

/-- The triggers of the job table admit the update. -/
structure Admitted (old new : JobRow) : Prop where
  immutable : custodyImmutable old new = false
  shape : custodyShape old new = false

/-- The event records a status change of the job. -/
structure Records (f : JobFile) (source target : ReportJobStatus) (e : EventRow) : Prop where
  job : e.reportJobId = f.job.reportJobId
  source : e.fromStatus = some source
  target : e.toStatus = target
  key : JobFile.KeyNormal e

/-- Custody lets the generic transition path write the status. -/
def Unguarded (job : JobRow) (target : ReportJobStatus) : Prop :=
  job.custody.policy = requiredPolicy →
    (job.custody.state = some .verified → target = .archived) ∧
    (job.custody.state ≠ some .verified →
      target ∉ [ReportJobStatus.rendering, .completed, .archiving] ∧
      (custodyProtected job = true → target ∉ [ReportJobStatus.failed, .cancelled, .archived]))

/-- Only a render transition writes render columns, and only an archive transition writes the
archive request and the archived document. -/
structure Transition.Plain (t : Transition) : Prop where
  render : t.toStatus ≠ .rendering → t.toStatus ≠ .completed → t.render = {}
  archiveRequest : t.toStatus ≠ .archiving → t.toStatus ≠ .archived → t.archiveRequestId = none
  archiveDocument : t.toStatus ≠ .archived → t.archiveDocumentId = none

namespace JobFile

/-- The rows after the job was parked. -/
def parkedFile (f : JobFile) (w : WorkRow) (reason : String) (now : Instant) (e : EventRow) :
    JobFile :=
  { f with
    job := { f.job with custody := parkedCustody f.job.custody reason }
    work := some (parkedWork w reason now)
    events := f.events ++ [e] }

/-- The rows after a transition. -/
def movedFile (f : JobFile) (t : Transition) (now : Instant) (e : EventRow) : JobFile :=
  { f with job := transitionedJob f.job t now, events := f.events ++ [e] }

/-- The job row with an archive request; the status moves on without a status event. -/
def requestedJob (job : JobRow) (requestId : String) : JobRow :=
  { job with archiveRequestId := some requestId, status := .archiving }

/-- The rows after an archive request was recorded. -/
def requestedFile (f : JobFile) (requestId : String) : JobFile :=
  { f with
    job := { requestedJob f.job requestId with
      custody := { f.job.custody with state := some .waiting } } }

/-- A worker holds the work item. -/
def Leased (f : JobFile) : Prop := ∃ w, f.work = some w ∧ w.status = .leased

/-- A job row with other custody columns. -/
def withCustody (job : JobRow) (custody : CustodyColumns) : JobRow := { job with custody := custody }

end JobFile

open JobFile

/-- One change of the rows of a job. -/
inductive FileStep : Effect → JobFile → JobFile → Prop where
  | record {f : JobFile} {e : EventRow} (he : Records f f.job.status f.job.status e) :
      FileStep .recorded f { f with events := f.events ++ [e] }
  | move {f : JobFile} {t : Transition} {now : Instant} {e : EventRow} (ht : t.Plain)
      (hguard : Unguarded f.job t.toStatus)
      (hallowed : isReportJobTransitionAllowed f.job.status t.toStatus = true)
      (hadmitted : Admitted f.job (transitionedJob f.job t now))
      (he : Records f f.job.status t.toStatus e) :
      FileStep .moved f (f.movedFile t now e)
  | cancel {f : JobFile} {now : Instant} {e : EventRow} (hguard : Unguarded f.job .cancelled)
      (hcancellable : isReportJobCancellable f.job.status = true)
      (hadmitted : Admitted f.job (cancelledJob f.job now))
      (he : Records f f.job.status .cancelled e) :
      FileStep .cancelled f { f with job := cancelledJob f.job now, events := f.events ++ [e] }
  | park {f : JobFile} {w : WorkRow} {reason : String} {now : Instant} {e : EventRow}
      (hpolicy : f.job.custody.policy = requiredPolicy)
      (hstate : f.job.custody.state ≠ some .verified) (hw : f.work = some w)
      (hadmitted : Admitted f.job (withCustody f.job (parkedCustody f.job.custody reason)))
      (he : Records f f.job.status f.job.status e)
      (hcause : f.Leased ∨ reason = "custody_transition_blocked") :
      FileStep .parked f (f.parkedFile w reason now e)
  | claim {f : JobFile} {w : WorkRow} {workerId token : String} {leaseSeconds : Int}
      {claimedAt : Instant} (hpolicy : f.job.custody.policy ≠ requiredPolicy)
      (hw : f.work = some w) (hstatus : w.status ∈ [ReportJobWorkStatus.pending, .retryPending]) :
      FileStep (.claimed token) f (f.setWork (leasedWork w workerId token leaseSeconds claimedAt))
  | claimRequired {f : JobFile} {w : WorkRow} {workerId token : String} {leaseSeconds : Int}
      {claimedAt : Instant} (hpolicy : f.job.custody.policy = requiredPolicy)
      (hw : f.work = some w) (hstatus : w.status ∈ [ReportJobWorkStatus.pending, .retryPending])
      (hadmitted : Admitted f.job (withCustody f.job
        { f.job.custody with epoch := f.job.custody.epoch + 1 })) :
      FileStep (.claimed token) f
        { f with
          job := withCustody f.job { f.job.custody with epoch := f.job.custody.epoch + 1 }
          work := some (leasedWork w workerId token leaseSeconds claimedAt) }
  | complete {f : JobFile} {w : WorkRow} {token : String} {now : Instant} (hw : f.work = some w)
      (hlease : leasedUnder w token = true) :
      FileStep .completed f (f.setWork (completedWork w now))
  | settle {f : JobFile} {w : WorkRow} (hpolicy : f.job.custody.policy = requiredPolicy)
      (hstate : f.job.custody.state = some .verified) (hw : f.work = some w) :
      FileStep .settled f (f.setWork { w.released with status := .completed })
  | defer {f : JobFile} {w : WorkRow} {token waitReason : String} {availableAt now : Instant}
      (hw : f.work = some w) (hlease : leasedUnder w token = true) :
      FileStep .deferred f (f.setWork (deferredWork w waitReason availableAt now))
  | retry {f : JobFile} {w : WorkRow} {category summary : String} {availableAt now : Instant}
      {maxAttempts : Nat} (hw : f.work = some w) (hlease : w.status = .leased)
      (hbudget : w.attemptCount < maxAttempts) :
      FileStep (.attemptFailed maxAttempts) f
        (f.setWork (failedWork w .retryPending category summary availableAt now))
  | exhaustTerminal {f : JobFile} {w : WorkRow} {category summary : String}
      {availableAt now : Instant} {maxAttempts : Nat} (hw : f.work = some w) (hlease : w.status = .leased)
      (hterminal : f.job.status.terminal = true) :
      FileStep (.attemptFailed maxAttempts) f
        (f.setWork (failedWork w .failed category summary availableAt now))
  | exhaustSettled {f : JobFile} {w : WorkRow} {category summary : String}
      {availableAt now : Instant} {maxAttempts : Nat} (hpolicy : f.job.custody.policy = requiredPolicy)
      (hstate : f.job.custody.state = some .verified) (hw : f.work = some w)
      (hlease : w.status = .leased) :
      FileStep (.attemptFailed maxAttempts) f (f.setWork
        { (failedWork w .failed category summary availableAt now).released with
          status := .completed })
  | exhaustParked {f : JobFile} {w : WorkRow} {category summary reason : String}
      {availableAt now parkedAt : Instant} {e : EventRow} {maxAttempts : Nat}
      (hpolicy : f.job.custody.policy = requiredPolicy)
      (hstate : f.job.custody.state ≠ some .verified) (hw : f.work = some w)
      (hlease : w.status = .leased)
      (hadmitted : Admitted f.job (withCustody f.job (parkedCustody f.job.custody reason)))
      (he : Records f f.job.status f.job.status e) :
      FileStep (.attemptFailed maxAttempts) f (f.parkedFile
        (failedWork w .failed category summary availableAt now) reason parkedAt e)
  | exhaustFailed {f : JobFile} {w : WorkRow} {category summary : String} {t : Transition}
      {availableAt now movedAt : Instant} {e : EventRow} {maxAttempts : Nat} (hw : f.work = some w)
      (hlease : w.status = .leased) (ht : t.Plain) (hfailed : t.toStatus = .failed)
      (hguard : Unguarded f.job .failed)
      (hallowed : isReportJobTransitionAllowed f.job.status .failed = true)
      (hadmitted : Admitted f.job (transitionedJob f.job t movedAt))
      (he : Records f f.job.status .failed e) :
      FileStep (.attemptFailed maxAttempts) f
        ((f.movedFile t movedAt e).setWork (failedWork w .failed category summary availableAt now))
  | offer {f : JobFile} {body digest renderId : String} {e : EventRow}
      (hpolicy : f.job.custody.policy = requiredPolicy) (hlease : f.Leased)
      (hready : f.job.status = .dataReady)
      (hbody : f.job.custody.offerBody = none) (hrender : renderId ≠ "")
      (hadmitted : Admitted f.job (offeredJob f.job body digest renderId))
      (he : Records f .dataReady .rendering e) :
      FileStep .offered f
        { f with job := offeredJob f.job body digest renderId, events := f.events ++ [e] }
  | reserve {f : JobFile} {operation : CustodyOperation} {window next now : Instant}
      (hpolicy : f.job.custody.policy = requiredPolicy) (hlease : f.Leased)
      (hstate : f.job.custody.state ∉ [some CustodyState.blocked, some .refused, some .verified])
      (hbudget : (budget f.job.custody operation).1 < (budget f.job.custody operation).2)
      (hadmitted : Admitted f.job (withCustody f.job
        (reservedCustody f.job.custody operation window next)))
      (hdue : ∀ due, f.job.custody.nextAttemptAt = some due → due.instant ≤ now)
      (hwindow : (f.job.custody.windowStartedAt.map (·.instant)).getD now = window)
      (hopen : now < window + recoveryWindow) (hnext : now ≤ next) :
      FileStep .reserved f
        { f with
          job := withCustody f.job (reservedCustody f.job.custody operation window next) }
  | refuse {f : JobFile} {w : WorkRow} {reason : String} {now : Instant} {e : EventRow}
      (hpolicy : f.job.custody.policy = requiredPolicy)
      (hstate : f.job.custody.state ≠ some .verified) (hw : f.work = some w)
      (he : Records f f.job.status f.job.status e) (hreason : reason = "custody_refused") :
      FileStep .refused f
        { (f.parkedFile w reason now e) with
          job := withCustody f.job
            { (parkedCustody f.job.custody reason) with state := some .refused } }
  | archiveRequest {f : JobFile} {requestId : String}
      (hpolicy : f.job.custody.policy = requiredPolicy) (hlease : f.Leased)
      (hstate : f.job.custody.state ≠ some .verified) (hid : requestId ≠ "")
      (himmutable : f.job.archiveRequestId.isSome → f.job.archiveRequestId = some requestId) :
      FileStep .archiveRequested f (f.requestedFile requestId)
  | wait {f : JobFile} (hpolicy : f.job.custody.policy = requiredPolicy) (hlease : f.Leased)
      (hstate : f.job.custody.state ≠ some .verified)
      (hadmitted : Admitted f.job (withCustody f.job
        { f.job.custody with state := some .waiting })) :
      FileStep .waiting f
        { f with job := withCustody f.job { f.job.custody with state := some .waiting } }
  | schedule {f : JobFile} {next : Timestamp} (hpolicy : f.job.custody.policy = requiredPolicy)
      (hlease : f.Leased)
      (hadmitted : Admitted f.job (withCustody f.job
        { f.job.custody with nextAttemptAt := some next }))
      (hnext : ∀ due, f.job.custody.nextAttemptAt = some due → due.instant ≤ next.instant) :
      FileStep .scheduled f
        { f with job := withCustody f.job { f.job.custody with nextAttemptAt := some next } }
  | confirm {f : JobFile} {archiveDocumentId : String} {proof : Json} {now : Instant} {e : EventRow}
      (hpolicy : f.job.custody.policy = requiredPolicy) (hlease : f.Leased)
      (hadmitted : Admitted f.job (verifiedJob f.job archiveDocumentId proof now))
      (he : Records f f.job.status .archived e) :
      FileStep .confirmed f
        { f with
          job := verifiedJob f.job archiveDocumentId proof now, events := f.events ++ [e] }
  | resume {f : JobFile} {w : WorkRow} {now : Instant}
      (hpolicy : f.job.custody.policy = requiredPolicy) (hw : f.work = some w)
      (hstatus : w.status = .failed) (hstate : f.job.custody.state = some .blocked)
      (hadmitted : Admitted f.job (resumedJob f.job now))
      (hreason : f.job.custody.reason ∈
        [some "custody_retry_budget_exhausted", some "custody_retry_exhausted"]) :
      FileStep .resumed f
        { f with
          job := resumedJob f.job now
          work := some (resumedWork w now) }
  | enqueue {f : JobFile} {w : WorkRow} (hw : f.work = none)
      (hopen : f.job.status.terminal = false) (hjob : w.reportJobId = f.job.reportJobId)
      (hstatus : w.status = .pending) (hattempt : w.attemptCount = 0) (htoken : w.leaseToken = none) :
      FileStep .enqueued f (f.setWork w)

section Inversion

variable {f f' : JobFile}

theorem updateJob_admitted {new : JobRow} (h : f.updateJob new = .ok f') :
    f' = { f with job := new } ∧ Admitted f.job new := by
  obtain ⟨heq, hi, hs⟩ := updateJob_eq_ok h
  exact ⟨heq, hi, hs⟩

/-- Parking leaves a verified job alone and parks any other. -/
theorem park_eq_ok {reason : String} {now : Instant} (h : f.park reason now = .ok f') :
    f.job.custody.state = some .verified ∧ f' = f ∨
      f.job.custody.state ≠ some .verified ∧ ∃ w e, f.work = some w ∧
        Admitted f.job (withCustody f.job (parkedCustody f.job.custody reason)) ∧
        Records f f.job.status f.job.status e ∧ f' = f.parkedFile w reason now e := by
  unfold park at h
  split at h
  · rename_i hv
    cases h
    exact Or.inl ⟨hv, rfl⟩
  · rename_i hv
    split at h
    · cases h
    · rename_i w hw
      obtain ⟨f₁, h₁, h₂⟩ := bind_eq_ok.mp h
      obtain ⟨rfl, hadmitted⟩ := updateJob_admitted h₁
      obtain ⟨e, rfl, hjob, hsource, htarget, hkey⟩ := appendStatusEvent_eq_ok h₂
      exact Or.inr ⟨hv, w, e, hw, hadmitted, ⟨hjob, hsource, htarget, keyNormal_of_eq hkey⟩, rfl⟩

theorem park_fileStep {reason : String} {now : Instant}
    (hpolicy : f.job.custody.policy = requiredPolicy) (hlease : f.Leased)
    (h : f.park reason now = .ok f') :
    f' = f ∨ FileStep .parked f f' := by
  rcases park_eq_ok h with ⟨-, rfl⟩ | ⟨hstate, w, e, hw, hadmitted, he, rfl⟩
  · exact Or.inl rfl
  · exact Or.inr (.park hpolicy hstate hw hadmitted he (Or.inl hlease))

/-- A job that was parked. -/
structure ParkedBy (f : JobFile) (reason : String) (now : Instant) (f' : JobFile) : Prop where
  policy : f.job.custody.policy = requiredPolicy
  state : f.job.custody.state ≠ some .verified
  admitted : Admitted f.job (withCustody f.job (parkedCustody f.job.custody reason))
  parked : ∃ w e, f.work = some w ∧ Records f f.job.status f.job.status e ∧
    f' = f.parkedFile w reason now e

theorem custodyProtected_policy {job : JobRow} (h : custodyProtected job = true) :
    job.custody.policy = requiredPolicy ∧ job.custody.state ≠ some .verified := by
  simp only [custodyProtected, Bool.and_eq_true, beq_iff_eq, decide_eq_true_eq] at h
  exact h.1

/-- The guard lets a transition pass, or has dealt with it and perhaps parked the job. -/
theorem guardTransition_eq_ok {target : ReportJobStatus} {identity : Option (String × String)}
    {now : Instant} {handled : Bool}
    (h : f.guardTransition target identity now = .ok (handled, f')) :
    handled = false ∧ f' = f ∧ Unguarded f.job target ∨
      handled = true ∧ (f' = f ∧ f.job.custody.policy = requiredPolicy ∧
          f.job.custody.state = some .verified ∨
        custodyProtected f.job = true ∧ FileStep .parked f f') := by
  unfold guardTransition at h
  split at h
  · rename_i hpolicy
    cases h
    exact Or.inl ⟨rfl, rfl, fun hreq => absurd hreq hpolicy⟩
  · rename_i hpolicy
    simp only [ne_eq, Decidable.not_not] at hpolicy
    obtain ⟨-, -, h⟩ := bind_eq_ok.mp h
    obtain ⟨-, -, h⟩ := bind_eq_ok.mp h
    split at h
    · rename_i hverified
      cases h
      by_cases htarget : target = .archived
      · exact Or.inl ⟨by simp [htarget], rfl, fun _ =>
          ⟨fun _ => htarget, fun hnot => absurd hverified hnot⟩⟩
      · exact Or.inr ⟨by simp [htarget], Or.inl ⟨rfl, hpolicy, hverified⟩⟩
    · rename_i hverified
      split at h
      · rename_i hprotected
        obtain ⟨f₁, hpark, h⟩ := bind_eq_ok.mp h
        cases h
        rcases park_eq_ok hpark with ⟨hv, -⟩ | ⟨-, w, e, hw, hadmitted, he, rfl⟩
        · exact absurd hv hverified
        · exact Or.inr ⟨rfl, Or.inr ⟨hprotected.1,
            .park hpolicy hverified hw hadmitted he (Or.inr rfl)⟩⟩
      · rename_i hprotected
        split at h
        · cases h
        · rename_i hfenced
          cases h
          exact Or.inl ⟨rfl, rfl, fun _ => ⟨fun hv => absurd hv hverified,
            fun _ => ⟨hfenced, fun hp htarget => hprotected ⟨hp, htarget⟩⟩⟩⟩

/-- A transition that was carried out. -/
structure MovedBy (f : JobFile) (t : Transition) (now : Instant) (f' : JobFile) : Prop where
  guard : Unguarded f.job t.toStatus
  allowed : isReportJobTransitionAllowed f.job.status t.toStatus = true
  admitted : Admitted f.job (transitionedJob f.job t now)
  moved : ∃ e, Records f f.job.status t.toStatus e ∧ f' = f.movedFile t now e

theorem transitionJob_eq_ok {t : Transition} {c : CallContext}
    (h : f.transitionJob t c = .ok f') :
    f' = f ∧ (f.job.status = t.toStatus ∨ f.job.custody.policy = requiredPolicy ∧
        f.job.custody.state = some .verified) ∨
      custodyProtected f.job = true ∧ FileStep .parked f f' ∨ MovedBy f t c.now f' := by
  obtain ⟨⟨handled, f₁⟩, hguard, hrest⟩ := bind_eq_ok.mp h
  simp only at hrest
  rcases guardTransition_eq_ok hguard with ⟨rfl, rfl, hun⟩ | ⟨rfl, hstep⟩
  · simp only [Bool.false_eq_true, if_false] at hrest
    split at hrest
    · rename_i hsame
      cases hrest
      exact Or.inl ⟨rfl, Or.inl hsame⟩
    · split at hrest
      · cases hrest
      · rename_i hallowed
        obtain ⟨f₂, hupdate, happend⟩ := bind_eq_ok.mp hrest
        obtain ⟨rfl, hadmitted⟩ := updateJob_admitted hupdate
        obtain ⟨e, rfl, hjob, hsource, htarget, hkey⟩ := appendStatusEvent_eq_ok happend
        exact Or.inr (Or.inr ⟨hun, by simpa using hallowed, hadmitted, e,
          ⟨hjob, hsource, htarget, keyNormal_of_eq hkey⟩, rfl⟩)
  · rw [if_pos rfl] at hrest
    cases hrest
    rcases hstep with ⟨rfl, hverified⟩ | hstep
    · exact Or.inl ⟨rfl, Or.inr hverified⟩
    · exact Or.inr (Or.inl hstep)

theorem transitionJob_fileStep {t : Transition} (ht : t.Plain) {c : CallContext}
    (h : f.transitionJob t c = .ok f') :
    f' = f ∨ FileStep .parked f f' ∨ FileStep .moved f f' := by
  rcases transitionJob_eq_ok h with ⟨rfl, -⟩ | ⟨-, hpark⟩ | ⟨hguard, hallowed, hadmitted, e, he, rfl⟩
  · exact Or.inl rfl
  · exact Or.inr (Or.inl hpark)
  · exact Or.inr (Or.inr (.move ht hguard hallowed hadmitted he))

theorem cancelJob_fileStep {c : CallContext} (h : f.cancelJob c = .ok f') :
    f' = f ∨ FileStep .parked f f' ∨ FileStep .cancelled f f' := by
  obtain ⟨⟨handled, f₁⟩, hguard, hrest⟩ := bind_eq_ok.mp h
  simp only at hrest
  rcases guardTransition_eq_ok hguard with ⟨rfl, rfl, hun⟩ | ⟨rfl, hstep⟩
  · simp only [Bool.false_eq_true, if_false] at hrest
    split at hrest
    · cases hrest
    · rename_i hcancel
      obtain ⟨f₂, hupdate, happend⟩ := bind_eq_ok.mp hrest
      obtain ⟨rfl, hadmitted⟩ := updateJob_admitted hupdate
      obtain ⟨e, rfl, hjob, hsource, htarget, hkey⟩ := appendStatusEvent_eq_ok happend
      exact Or.inr (Or.inr (.cancel hun (by simpa using hcancel) hadmitted
        ⟨hjob, hsource, htarget, keyNormal_of_eq hkey⟩))
  · rw [if_pos rfl] at hrest
    cases hrest
    rcases hstep with ⟨rfl, -⟩ | ⟨-, hstep⟩
    · exact Or.inl rfl
    · exact Or.inr (Or.inl hstep)

theorem appendJobEvent_fileStep {eventType message : String} {payload : Fields}
    {key : Option String} {skip appended : Bool} {c : CallContext}
    (h : f.appendJobEvent eventType message payload key skip c = .ok (appended, f')) :
    f' = f ∨ FileStep .recorded f f' := by
  unfold appendJobEvent at h
  split at h
  · cases h
    exact Or.inl rfl
  · obtain ⟨f₁, happend, h⟩ := bind_eq_ok.mp h
    cases h
    obtain ⟨e, rfl, hjob, hsource, htarget, hkey⟩ := appendStatusEvent_eq_ok happend
    exact Or.inr (.record ⟨hjob, hsource, htarget, keyNormal_of_eq hkey⟩)

theorem claimed_eq_ok {leaseSeconds : Int} {now : Instant}
    (h : f.claimed leaseSeconds now = .ok f') :
    f.job.custody.policy ≠ requiredPolicy ∧ f' = f ∨
      f.job.custody.policy = requiredPolicy ∧
        Admitted f.job (withCustody f.job
          { f.job.custody with epoch := f.job.custody.epoch + 1 }) ∧
        f' = { f with
          job := withCustody f.job { f.job.custody with epoch := f.job.custody.epoch + 1 } } := by
  unfold claimed at h
  split at h
  · cases h
  · split at h
    · rename_i hpolicy
      split at h
      · cases h
      · obtain ⟨-, -, hupdate⟩ := bind_eq_ok.mp h
        obtain ⟨rfl, hadmitted⟩ := updateJob_admitted hupdate
        exact Or.inr ⟨hpolicy, hadmitted, rfl⟩
    · rename_i hpolicy
      cases h
      exact Or.inl ⟨hpolicy, rfl⟩

theorem claimWork_fileStep {workerId token : String} {leaseSeconds : Int}
    {claimedAt now : Instant} {leased : Option WorkRow}
    (h : f.claimWork workerId token leaseSeconds claimedAt now = .ok (leased, f')) :
    leased = none ∧ f' = f ∨ (∃ w, f.work = some w ∧
      leased = some (leasedWork w workerId token leaseSeconds claimedAt)) ∧
      FileStep (.claimed token) f f' ∧ f'.work = leased := by
  unfold claimWork at h
  split at h
  · cases h
    exact Or.inl ⟨rfl, rfl⟩
  · rename_i w hw
    split at h
    · rename_i hstatus
      obtain ⟨f₁, hclaimed, h⟩ := bind_eq_ok.mp h
      cases h
      rcases claimed_eq_ok hclaimed with ⟨hpolicy, rfl⟩ | ⟨hpolicy, hadmitted, rfl⟩
      · exact Or.inr ⟨⟨w, hw, rfl⟩, .claim hpolicy hw hstatus, rfl⟩
      · exact Or.inr ⟨⟨w, hw, rfl⟩, .claimRequired hpolicy hw hstatus hadmitted, rfl⟩
    · cases h
      exact Or.inl ⟨rfl, rfl⟩

/-- What `protect_work` did: settled verified work, parked protected work, or nothing. -/
theorem protectWork_eq_ok {completing handled : Bool} {now : Instant}
    (h : f.protectWork completing now = .ok (handled, f')) :
    handled = true ∧ FileStep .settled f f' ∨
      handled = true ∧ (∃ reason, ParkedBy f reason now f') ∨
      handled = false ∧ f' = f ∧ custodyProtected f.job = false ∧
        ¬ (f.job.custody.policy = requiredPolicy ∧ f.job.custody.state = some .verified) := by
  unfold protectWork at h
  split at h
  · cases h
  · rename_i w hw
    split at h
    · rename_i hverified
      cases h
      exact Or.inl ⟨rfl, .settle hverified.1 hverified.2 hw⟩
    · rename_i hverified
      split at h
      · rename_i hprotected
        obtain ⟨f₁, hpark, h⟩ := bind_eq_ok.mp h
        cases h
        obtain ⟨hpolicy, hstate⟩ := custodyProtected_policy hprotected
        rcases park_eq_ok hpark with ⟨hv, -⟩ | ⟨-, w, e, hw, hadmitted, he, rfl⟩
        · exact absurd hv hstate
        · exact Or.inr (Or.inl ⟨rfl, _, hpolicy, hstate, hadmitted, w, e, hw, he, rfl⟩)
      · rename_i hprotected
        cases h
        exact Or.inr (Or.inr ⟨rfl, rfl, by simpa using hprotected, hverified⟩)

/-- A fenced port acts only under a current fence on a job of the required policy. -/
structure Fenced (f : JobFile) (fence : CustodyLease) (now : Instant) : Prop where
  holds : f.holdsFence fence now = true
  policy : f.job.custody.policy = requiredPolicy

theorem Fenced.leased {fence : CustodyLease} {now : Instant} (h : Fenced f fence now) :
    f.Leased := by
  have hholds := h.holds
  unfold holdsFence at hholds
  split at hholds
  · cases hholds
  · rename_i w hw
    simp only [Bool.and_eq_true, beq_iff_eq] at hholds
    exact ⟨w, hw, hholds.1.1.1.2⟩

theorem lease_eq_ok {fence : CustodyLease} {now : Instant} (h : f.lease fence now = .ok ()) :
    f.holdsFence fence now = true := by
  unfold lease at h
  split at h
  · assumption
  · cases h

/-- A settlement of required work is made under its lease. -/
theorem validateWork_leased {workItemId token : String} {now : Instant}
    (h : f.validateWork workItemId token now = .ok ())
    (hpolicy : f.job.custody.policy = requiredPolicy) : f.Leased := by
  obtain ⟨-, -, hlease⟩ := bind_eq_ok.mp h
  rw [if_pos hpolicy] at hlease
  exact Fenced.leased ⟨lease_eq_ok hlease, hpolicy⟩

theorem completeWork_fileStep {workItemId token : String} {now : Instant}
    (h : f.completeWork workItemId token now = .ok f') :
    FileStep .settled f f' ∨ FileStep .parked f f' ∨ FileStep .completed f f' := by
  obtain ⟨⟨⟩, hvalid, hwork⟩ := bind_eq_ok.mp h
  obtain ⟨⟨handled, f₁⟩, hprotect, hrest⟩ := bind_eq_ok.mp hwork
  simp only at hrest
  rcases protectWork_eq_ok hprotect with ⟨rfl, hstep⟩ | ⟨rfl, reason, hparked⟩ | ⟨rfl, rfl, -, -⟩
  · rw [if_pos rfl] at hrest
    cases hrest
    exact Or.inl hstep
  · rw [if_pos rfl] at hrest
    cases hrest
    obtain ⟨w, e, hw, he, rfl⟩ := hparked.parked
    exact Or.inr (Or.inl (.park hparked.policy hparked.state hw hparked.admitted he
      (Or.inl (validateWork_leased hvalid hparked.policy))))
  · simp only [Bool.false_eq_true, if_false] at hrest
    split at hrest
    · rename_i w hw
      split at hrest
      · rename_i hlease
        cases hrest
        exact Or.inr (Or.inr (.complete hw hlease))
      · cases hrest
    · cases hrest

/-- Verified work is settled before anything else looks at it. -/
theorem settleVerifiedWork_eq_ok {now : Instant} {settled : Option JobFile}
    (h : f.settleVerifiedWork now = .ok settled) :
    f.job.custody.state ≠ some .verified ∧ settled = none ∨
      f.job.custody.state = some .verified ∧ ∃ f₁, settled = some f₁ ∧
        (FileStep .settled f f₁ ∨ f₁ = f ∧ f.job.custody.policy ≠ requiredPolicy) := by
  unfold settleVerifiedWork at h
  split at h
  · rename_i hverified
    obtain ⟨⟨handled, f₁⟩, hprotect, h⟩ := bind_eq_ok.mp h
    cases h
    refine Or.inr ⟨hverified, f₁, rfl, ?_⟩
    rcases protectWork_eq_ok hprotect with ⟨-, hstep⟩ | ⟨-, reason, hparked⟩ | ⟨-, rfl, -, hnot⟩
    · exact Or.inl hstep
    · exact absurd hverified hparked.state
    · exact Or.inr ⟨rfl, fun hpolicy => hnot ⟨hpolicy, hverified⟩⟩
  · rename_i hverified
    cases h
    exact Or.inl ⟨hverified, rfl⟩

theorem deferWork_fileStep {workItemId token waitReason : String} {delaySeconds : Int}
    {now : Instant} (h : f.deferWork workItemId token waitReason delaySeconds now = .ok f') :
    f' = f ∧ f.job.custody.state = some .verified ∧ f.job.custody.policy ≠ requiredPolicy ∨
      FileStep .settled f f' ∨ FileStep .deferred f f' := by
  obtain ⟨-, -, h⟩ := bind_eq_ok.mp h
  obtain ⟨settled, hsettle, h⟩ := bind_eq_ok.mp h
  rcases settleVerifiedWork_eq_ok hsettle with ⟨-, rfl⟩ | ⟨hv, f₁, rfl, hstep⟩
  · simp only at h
    split at h
    · rename_i w hw
      split at h
      · rename_i hlease
        cases h
        exact Or.inr (Or.inr (.defer hw hlease))
      · cases h
    · cases h
  · cases h
    rcases hstep with hstep | ⟨rfl, hpolicy⟩
    · exact Or.inr (Or.inl hstep)
    · exact Or.inl ⟨rfl, hv, hpolicy⟩

theorem exhaustedTransition_plain (category : ReportFailureCategory) (summary : String) :
    (exhaustedTransition category summary).Plain :=
  ⟨fun _ _ => rfl, fun _ _ => rfl, fun _ => rfl⟩

/-- The last attempt of a work item ends its job, unless custody or the job itself is settled. -/
theorem terminalizeFromWork_fileStep {w : WorkRow} {category summary actor failureSummary : String}
    {availableAt now at_ : Instant} {failureCategory : ReportFailureCategory} {maxAttempts : Nat}
    {lease : Option (String × String)} (hw : f.work = some w) (hlease : w.status = .leased)
    (h : (f.setWork (failedWork w .failed category summary availableAt now)).terminalizeFromWork
      actor failureCategory failureSummary lease at_ = .ok f') :
    FileStep (.attemptFailed maxAttempts) f f' := by
  obtain ⟨⟨handled, f₁⟩, hprotect, hrest⟩ := bind_eq_ok.mp h
  simp only at hrest
  rcases protectWork_eq_ok hprotect with
    ⟨rfl, hstep⟩ | ⟨rfl, reason, hparked⟩ | ⟨rfl, rfl, hopen, hnot⟩
  · rw [if_pos rfl] at hrest
    cases hrest
    cases hstep with
    | settle hpolicy hstate hw' =>
        cases hw'
        exact .exhaustSettled hpolicy hstate hw hlease
  · rw [if_pos rfl] at hrest
    cases hrest
    obtain ⟨w', e, hw', he, rfl⟩ := hparked.parked
    cases hw'
    exact .exhaustParked hparked.policy hparked.state hw hlease hparked.admitted
      ⟨he.job, he.source, he.target, he.key⟩
  · simp only [Bool.false_eq_true, if_false] at hrest
    split at hrest
    · rename_i hterminal
      cases hrest
      exact .exhaustTerminal hw hlease hterminal
    · rename_i hterminal
      rcases transitionJob_eq_ok hrest with
        ⟨-, hsame | hverified⟩ | ⟨hprotected, -⟩ | ⟨hguard, hallowed, hadmitted, e, he, rfl⟩
      · simp [hsame, exhaustedTransition, ReportJobStatus.terminal] at hterminal
      · exact absurd hverified hnot
      · simp [hopen] at hprotected
      · exact .exhaustFailed hw hlease (exhaustedTransition_plain _ _) rfl hguard hallowed hadmitted
          ⟨he.job, he.source, he.target, he.key⟩

theorem failWork_fileStep {workItemId token errorCategory errorSummary : String}
    {policy : ReportJobWorkRetryPolicy} {lease : Option (String × String)} {now : Instant}
    (h : f.failWork workItemId token errorCategory errorSummary policy lease now = .ok f') :
    f' = f ∧ f.job.custody.state = some .verified ∧ f.job.custody.policy ≠ requiredPolicy ∨
      FileStep .settled f f' ∨ (f.job.custody.state ≠ some .verified ∧
        ∃ w, f.work = some w ∧ leasedUnder w token = true) ∧
        FileStep (.attemptFailed policy.maxAttempts) f f' := by
  obtain ⟨-, -, hwork⟩ := bind_eq_ok.mp h
  obtain ⟨settled, hsettle, hrest⟩ := bind_eq_ok.mp hwork
  rcases settleVerifiedWork_eq_ok hsettle with ⟨hopen, rfl⟩ | ⟨hv, f₁, rfl, hstep⟩
  · simp only at hrest
    split at hrest
    · rename_i w hw
      split at hrest
      · rename_i hlease
        have hleased : w.status = .leased := by
          simp only [leasedUnder, Bool.and_eq_true, beq_iff_eq] at hlease
          exact hlease.1
        refine Or.inr (Or.inr ⟨⟨hopen, w, hw, hlease⟩, ?_⟩)
        by_cases hterminal : policy.maxAttempts ≤ w.attemptCount
        · simp only [decideReportJobWorkFailure, ReportJobWorkFailureDecision.status, hterminal,
            decide_true, if_true] at hrest
          exact terminalizeFromWork_fileStep hw hleased hrest
        · simp only [decideReportJobWorkFailure, ReportJobWorkFailureDecision.status, hterminal,
            decide_false, Bool.false_eq_true, if_false] at hrest
          cases hrest
          exact .retry hw hleased (by omega)
      · cases hrest
    · cases hrest
  · cases hrest
    rcases hstep with hstep | ⟨rfl, hpolicy⟩
    · exact Or.inr (Or.inl hstep)
    · exact Or.inl ⟨rfl, hv, hpolicy⟩

theorem expireWork_fileStep {policy : ReportJobWorkRetryPolicy} {lease : Option (String × String)}
    {recoveredAt now : Instant} (h : f.expireWork policy lease recoveredAt now = .ok f') :
    FileStep (.attemptFailed policy.maxAttempts) f f' := by
  unfold expireWork at h
  split at h
  · rename_i w hw
    split at h
    · rename_i hexpired
      have hleased : w.status = .leased := by
        simp only [workLeaseExpired, Bool.and_eq_true, beq_iff_eq] at hexpired
        exact hexpired.1
      by_cases hterminal : policy.maxAttempts ≤ w.attemptCount
      · simp only [decideReportJobWorkFailure, ReportJobWorkFailureDecision.status, hterminal,
          decide_true, if_true] at h
        exact terminalizeFromWork_fileStep hw hleased h
      · simp only [decideReportJobWorkFailure, ReportJobWorkFailureDecision.status, hterminal,
          decide_false, Bool.false_eq_true, if_false] at h
        cases h
        exact .retry hw hleased (by omega)
    · cases h
  · cases h

theorem ensureWork_fileStep (workItemId : String) (now : Instant) :
    f.ensureWork workItemId now = f ∨ FileStep .enqueued f (f.ensureWork workItemId now) := by
  unfold ensureWork
  split
  · exact Or.inl rfl
  · rename_i hopen
    simp only [Bool.or_eq_true, not_or, Bool.not_eq_true, Option.isSome_eq_false_iff,
      Option.isNone_iff_eq_none] at hopen
    exact Or.inr (.enqueue hopen.2 hopen.1 rfl rfl rfl rfl)

theorem scope_eq_ok {tenantId region : String} (h : f.scope tenantId region = .ok ()) :
    f.request.tenantId = tenantId ∧ f.job.custody.policy = requiredPolicy := by
  unfold scope at h
  split at h
  · cases h
  · rename_i hscope
    simp only [Bool.or_eq_true, decide_eq_true_eq, not_or, ne_eq, Decidable.not_not] at hscope
    exact ⟨hscope.1.1, hscope.2⟩

/-- The three checks with which every fenced port begins. -/
theorem fenced_of_checks {α : Type} {tenantId region : String} {fence : CustodyLease}
    {now : Instant} {rest : Except LedgerError α} {a : α}
    (h : (do f.lockPair; f.lease fence now; f.scope tenantId region; rest) = .ok a) :
    Fenced f fence now ∧ rest = .ok a := by
  obtain ⟨-, -, h₁⟩ := bind_eq_ok.mp h
  obtain ⟨⟨⟩, hlease, h₂⟩ := bind_eq_ok.mp h₁
  obtain ⟨⟨⟩, hscope, hrest⟩ := bind_eq_ok.mp h₂
  exact ⟨⟨lease_eq_ok hlease, (scope_eq_ok hscope).2⟩, hrest⟩

/-- An offer that was retained, within the quotas on the bytes retained before it. -/
structure OfferedBy (f : JobFile) (tenantId : String) (total tenantTotal : Nat) (f' : JobFile) :
    Prop where
  tenant : f.request.tenantId = tenantId
  ready : f.job.status = .dataReady
  unretained : f.job.custody.offerBody = none
  offered : ∃ body digest renderId e, renderId ≠ "" ∧
    total + body.utf8ByteSize ≤ maxRetainedBytes ∧
    tenantTotal + body.utf8ByteSize ≤ maxTenantBytes ∧
    Admitted f.job (offeredJob f.job body digest renderId) ∧ Records f .dataReady .rendering e ∧
    f' = { f with job := offeredJob f.job body digest renderId, events := f.events ++ [e] }

/-- A commit repeats a retained offer or retains a new one. -/
theorem commitOffer_eq_ok {py : Runtime} {tenantId region digest : String}
    {fence : CustodyLease} {payload : Fields} {total tenantTotal : Nat}
    {now : Instant}
    (h : f.commitOffer py tenantId region fence payload total tenantTotal now = .ok (digest, f')) :
    Fenced f fence now ∧ (f' = f ∨ OfferedBy f tenantId total tenantTotal f') := by
  obtain ⟨body, -, hbody⟩ := bind_eq_ok.mp h
  simp only at hbody
  split at hbody
  · rename_i renderId hrender
    split at hbody
    · cases hbody
    · rename_i hne
      obtain ⟨-, -, hlocked⟩ := bind_eq_ok.mp hbody
      obtain ⟨⟨⟩, hlease, hleased⟩ := bind_eq_ok.mp hlocked
      obtain ⟨⟨⟩, hscope, hrest⟩ := bind_eq_ok.mp hleased
      obtain ⟨htenant, hpolicy⟩ := scope_eq_ok hscope
      refine ⟨⟨lease_eq_ok hlease, hpolicy⟩, ?_⟩
      split at hrest
      · split at hrest
        · cases hrest
        · cases hrest
          exact Or.inl rfl
      · obtain ⟨-, -, hchecked⟩ := bind_eq_ok.mp hrest
        split at hchecked
        · cases hchecked
        · rename_i hready
          split at hchecked
          · cases hchecked
          · rename_i hquota
            split at hchecked
            · cases hchecked
            · rename_i hnone
              obtain ⟨f₁, hupdate, hwritten⟩ := bind_eq_ok.mp hchecked
              obtain ⟨rfl, hadmitted⟩ := updateJob_admitted hupdate
              obtain ⟨f₂, happend, hlast⟩ := bind_eq_ok.mp hwritten
              obtain ⟨e, rfl, hjob, hsource, htarget, hkey⟩ := appendStatusEvent_eq_ok happend
              cases hlast
              simp only [Bool.or_eq_true, decide_eq_true_eq, not_or, not_lt] at hquota
              exact Or.inr ⟨htenant, by simpa using hready, by simpa using hnone, body, _, renderId,
                e, hne, hquota.1, hquota.2, hadmitted, ⟨hjob, hsource, htarget, keyNormal_of_eq hkey⟩, rfl⟩
  · cases hbody

theorem commitOffer_fileStep {py : Runtime} {tenantId region digest : String}
    {fence : CustodyLease} {payload : Fields} {total tenantTotal : Nat}
    {now : Instant}
    (h : f.commitOffer py tenantId region fence payload total tenantTotal now = .ok (digest, f')) :
    Fenced f fence now ∧ (f' = f ∨ FileStep .offered f f') := by
  obtain ⟨hfenced, hsame | hoffered⟩ := commitOffer_eq_ok h
  · exact ⟨hfenced, Or.inl hsame⟩
  · obtain ⟨body, digest, renderId, e, hne, -, -, hadmitted, he, rfl⟩ := hoffered.offered
    exact ⟨hfenced, Or.inr (.offer hfenced.policy hfenced.leased hoffered.ready
      hoffered.unretained hne hadmitted he)⟩

/-- The next attempt is never due before the granted one. -/
theorem next_of_recoveryDelay (c : CustodyColumns) (operation : CustodyOperation) (jitter : Nat)
    (now : Instant) : now ≤ now + seconds (recoveryDelay c operation jitter) := by
  have hdelays : ∀ n, 0 ≤ recoveryDelays n := by
    intro n
    unfold recoveryDelays
    split <;> decide
  have hdelay : 0 ≤ recoveryDelay c operation jitter := by
    cases operation with
    | initial | retry => exact Int.add_nonneg (hdelays _) (Int.natCast_nonneg jitter)
    | poll => exact Int.le_refl 0
  exact Int.le_add_of_nonneg_right (Int.mul_nonneg hdelay (by decide))

/-- A reservation that was granted. -/
structure GrantedBy (f : JobFile) (operation : CustodyOperation) (now : Instant) (f' : JobFile) :
    Prop where
  policy : f.job.custody.policy = requiredPolicy
  state : f.job.custody.state ∉ [some CustodyState.blocked, some .refused, some .verified]
  due : ∀ due, f.job.custody.nextAttemptAt = some due → due.instant ≤ now
  budget : (budget f.job.custody operation).1 < (budget f.job.custody operation).2
  reserved : ∃ window next,
    (f.job.custody.windowStartedAt.map (·.instant)).getD now = window ∧
    now < window + recoveryWindow ∧ now ≤ next ∧
    Admitted f.job (withCustody f.job (reservedCustody f.job.custody operation window next)) ∧
    f' = { f with
      job := withCustody f.job (reservedCustody f.job.custody operation window next) }

/-- A reservation is granted, or it is refused and the job is perhaps parked. -/
theorem reserve_eq_ok {tenantId region : String} {fence : CustodyLease}
    {operation : CustodyOperation} {jitter : Nat} {now : Instant} {granted : Bool}
    (h : f.reserve tenantId region fence operation jitter now = .ok (granted, f')) :
    Fenced f fence now ∧ (granted = false ∧ (f' = f ∨ FileStep .parked f f') ∨
      granted = true ∧ GrantedBy f operation now f') := by
  obtain ⟨hfenced, hrest⟩ := fenced_of_checks h
  refine ⟨hfenced, ?_⟩
  simp only at hrest
  split at hrest
  · cases hrest
    exact Or.inl ⟨rfl, Or.inl rfl⟩
  · rename_i hstate
    split at hrest
    · obtain ⟨f₁, hpark, hlast⟩ := bind_eq_ok.mp hrest
      cases hlast
      exact Or.inl ⟨rfl, park_fileStep hfenced.policy hfenced.leased hpark⟩
    · rename_i hbudget
      obtain ⟨f₁, hupdate, hlast⟩ := bind_eq_ok.mp hrest
      cases hlast
      obtain ⟨rfl, hadmitted⟩ := updateJob_admitted hupdate
      rw [not_or] at hstate hbudget
      refine Or.inr ⟨rfl, hfenced.policy, hstate.1, fun due hdue => ?_, by omega, _, _, rfl, not_le.mp hbudget.2,
        next_of_recoveryDelay _ _ _ _, hadmitted, rfl⟩
      simpa [hdue] using hstate.2

theorem GrantedBy.fileStep {operation : CustodyOperation} {fence : CustodyLease} {now : Instant}
    (h : GrantedBy f operation now f') (hfenced : Fenced f fence now) :
    FileStep .reserved f f' := by
  obtain ⟨window, next, hwindow, hopen, hnext, hadmitted, rfl⟩ := h.reserved
  exact .reserve h.policy hfenced.leased h.state h.budget hadmitted h.due hwindow hopen hnext

theorem reserve_fileStep {tenantId region : String} {fence : CustodyLease}
    {operation : CustodyOperation} {jitter : Nat} {now : Instant} {granted : Bool}
    (h : f.reserve tenantId region fence operation jitter now = .ok (granted, f')) :
    Fenced f fence now ∧ (f' = f ∨ FileStep .parked f f' ∨ FileStep .reserved f f') := by
  obtain ⟨hfenced, ⟨-, hstep⟩ | ⟨-, hgranted⟩⟩ := reserve_eq_ok h
  · exact ⟨hfenced, hstep.imp_right Or.inl⟩
  · exact ⟨hfenced, Or.inr (Or.inr (hgranted.fileStep hfenced))⟩

/-- The triggers refuse an update that takes a verified job back. -/
theorem Admitted.not_verified {old new : JobRow} (h : Admitted old new)
    (hnew : new.custody.state ≠ some .verified) : old.custody.state ≠ some .verified := by
  intro hold
  have := h.immutable
  simp [custodyImmutable, hold, hnew] at this

theorem Admitted.archiveRequest_kept {old new : JobRow} (h : Admitted old new)
    (hpolicy : old.custody.policy = requiredPolicy) (hsome : old.archiveRequestId.isSome) :
    new.archiveRequestId = old.archiveRequestId := by
  have hkept := h.immutable
  simp only [custodyImmutable, hpolicy, hsome, Bool.or_eq_false_iff, beq_self_eq_true,
    Bool.true_and, decide_eq_false_iff_not, ne_eq, Decidable.not_not] at hkept
  exact hkept.1.1.2

/-- The checks under which `disposition` records the archive request of a response. -/
structure RecordsRequest (f : JobFile) (tenantId region : String) (fence : CustodyLease)
    (response : Fields) (httpStatus : Int) (now : Instant) (requestId : String) :
    Prop where
  pair : f.lockPair = .ok ()
  lease : f.lease fence now = .ok ()
  scope : f.scope tenantId region = .ok ()
  agrees : conflictingResponse f.job response = .ok false
  accepted : refusedResponse response httpStatus = false
  request : acceptedRequestId response = some requestId
  recorded : admitUpdate f.job (requestedJob f.job requestId) = .ok ()
  waits : admitUpdate (requestedJob f.job requestId) (f.requestedFile requestId).job = .ok ()

theorem updateJob_eq_ok_iff {new : JobRow} :
    f.updateJob new = .ok f' ↔ admitUpdate f.job new = .ok () ∧ f' = { f with job := new } := by
  unfold updateJob
  cases h : admitUpdate f.job new with
  | error e => simp
  | ok u =>
      simp only [Except.ok.injEq, true_and]
      exact eq_comm

theorem RecordsRequest.disposition_eq {tenantId region requestId : String} {fence : CustodyLease}
    {response : Fields} {httpStatus : Int} {now : Instant}
    (h : RecordsRequest f tenantId region fence response httpStatus now requestId) :
    f.disposition tenantId region fence response httpStatus now =
      .ok (f.requestedFile requestId) := by
  refine bind_eq_ok.mpr ⟨(), h.pair, bind_eq_ok.mpr ⟨(), h.lease, bind_eq_ok.mpr ⟨(), h.scope,
    bind_eq_ok.mpr ⟨false, h.agrees, ?_⟩⟩⟩⟩
  simp only [Bool.false_eq_true, if_false, h.accepted]
  refine bind_eq_ok.mpr ⟨{ f with job := requestedJob f.job requestId }, ?_, ?_⟩
  · unfold recordArchiveRequest
    rw [h.request]
    exact updateJob_eq_ok_iff.mpr ⟨h.recorded, rfl⟩
  · exact updateJob_eq_ok_iff.mpr ⟨h.waits, rfl⟩

theorem disposition_eq_ok {tenantId region : String} {fence : CustodyLease}
    {response : Fields} {httpStatus : Int} {now : Instant}
    (h : f.disposition tenantId region fence response httpStatus now = .ok f') :
    Fenced f fence now ∧ (f' = f ∨ FileStep .parked f f' ∨ FileStep .refused f f' ∨
      FileStep .waiting f f' ∨ ∃ requestId,
        RecordsRequest f tenantId region fence response httpStatus now requestId ∧
          f' = f.requestedFile requestId) := by
  obtain ⟨⟨⟩, hpair, hlocked⟩ := bind_eq_ok.mp h
  obtain ⟨⟨⟩, hlease, hleased⟩ := bind_eq_ok.mp hlocked
  obtain ⟨⟨⟩, hscope, hrest⟩ := bind_eq_ok.mp hleased
  have hfenced : Fenced f fence now := ⟨lease_eq_ok hlease, (scope_eq_ok hscope).2⟩
  refine ⟨hfenced, ?_⟩
  obtain ⟨conflict, hconflict, hanswer⟩ := bind_eq_ok.mp hrest
  split at hanswer
  · rcases park_fileStep hfenced.policy hfenced.leased hanswer with rfl | hstep
    · exact Or.inl rfl
    · exact Or.inr (Or.inl hstep)
  · rename_i hagrees
    split at hanswer
    · obtain ⟨f₁, hpark, hupdate⟩ := bind_eq_ok.mp hanswer
      obtain ⟨rfl, hadmitted⟩ := updateJob_admitted hupdate
      rcases park_eq_ok hpark with ⟨hverified, rfl⟩ | ⟨hstate, w, e, hw, -, he, rfl⟩
      · exact absurd hverified (hadmitted.not_verified (by simp))
      · exact Or.inr (Or.inr (Or.inl (.refuse hfenced.policy hstate hw he rfl)))
    · rename_i haccepted
      obtain ⟨f₁, hrecord, hupdate⟩ := bind_eq_ok.mp hanswer
      unfold recordArchiveRequest at hrecord
      split at hrecord
      · rename_i requestId hrequest
        obtain ⟨hrecorded, rfl⟩ := updateJob_eq_ok_iff.mp hrecord
        obtain ⟨hwaits, rfl⟩ := updateJob_eq_ok_iff.mp hupdate
        simp only [Bool.not_eq_true] at hagrees haccepted
        subst hagrees
        exact Or.inr (Or.inr (Or.inr (Or.inr ⟨requestId,
          ⟨hpair, hlease, hscope, hconflict, haccepted, hrequest, hrecorded, hwaits⟩, rfl⟩)))
      · cases hrecord
        obtain ⟨rfl, hadmitted⟩ := updateJob_admitted hupdate
        exact Or.inr (Or.inr (Or.inr (Or.inl (.wait hfenced.policy hfenced.leased
          (hadmitted.not_verified (by simp)) hadmitted))))

theorem acceptedRequestId_ne_empty {response : Fields} {requestId : String}
    (h : acceptedRequestId response = some requestId) : requestId ≠ "" := by
  unfold acceptedRequestId at h
  split at h
  · split at h
    · rename_i hbound
      cases h
      exact hbound.1
    · cases h
  · cases h

theorem RecordsRequest.fileStep {tenantId region requestId : String} {fence : CustodyLease}
    {response : Fields} {httpStatus : Int} {now : Instant}
    (h : RecordsRequest f tenantId region fence response httpStatus now requestId) :
    FileStep .archiveRequested f (f.requestedFile requestId) := by
  have hfenced : Fenced f fence now := ⟨lease_eq_ok h.lease, (scope_eq_ok h.scope).2⟩
  have hrecorded := (updateJob_admitted (updateJob_eq_ok_iff.mpr ⟨h.recorded, rfl⟩)).2
  have hopen : f.job.custody.state ≠ some .verified :=
    (updateJob_admitted (f := { f with job := requestedJob f.job requestId })
      (updateJob_eq_ok_iff.mpr ⟨h.waits, rfl⟩)).2.not_verified (by simp [requestedFile])
  exact .archiveRequest hfenced.policy hfenced.leased hopen (acceptedRequestId_ne_empty h.request)
    fun hsome => (hrecorded.archiveRequest_kept hfenced.policy hsome).symm

theorem disposition_fileStep {tenantId region : String} {fence : CustodyLease}
    {response : Fields} {httpStatus : Int} {now : Instant}
    (h : f.disposition tenantId region fence response httpStatus now = .ok f') :
    Fenced f fence now ∧ (f' = f ∨ FileStep .parked f f' ∨ FileStep .refused f f' ∨
      FileStep .waiting f f' ∨ acceptedRequestId response ≠ none ∧
        FileStep .archiveRequested f f') := by
  obtain ⟨hfenced, hstep⟩ := disposition_eq_ok h
  refine ⟨hfenced, hstep.imp_right (Or.imp_right (Or.imp_right (Or.imp_right ?_)))⟩
  rintro ⟨requestId, hrecords, rfl⟩
  exact ⟨by simp [hrecords.request], hrecords.fileStep⟩

theorem block_fileStep {tenantId region : String} {fence : CustodyLease} {now : Instant}
    (h : f.block tenantId region fence now = .ok f') :
    Fenced f fence now ∧ (f' = f ∨ FileStep .parked f f') := by
  obtain ⟨hfenced, hrest⟩ := fenced_of_checks h
  exact ⟨hfenced, park_fileStep hfenced.policy hfenced.leased hrest⟩

theorem recordOwnerDue_fileStep {tenantId region : String} {fence : CustodyLease}
    {due now : Instant} {recorded : Bool}
    (h : f.recordOwnerDue tenantId region fence due now = .ok (recorded, f')) :
    Fenced f fence now ∧ (f' = f ∨ FileStep .parked f f' ∨ FileStep .scheduled f f') := by
  obtain ⟨hfenced, hrest⟩ := fenced_of_checks h
  refine ⟨hfenced, ?_⟩
  simp only at hrest
  split at hrest
  · obtain ⟨f₁, hpark, hlast⟩ := bind_eq_ok.mp hrest
    cases hlast
    rcases park_fileStep hfenced.policy hfenced.leased hpark with rfl | hstep
    · exact Or.inl rfl
    · exact Or.inr (Or.inl hstep)
  · obtain ⟨f₁, hupdate, hlast⟩ := bind_eq_ok.mp hrest
    cases hlast
    obtain ⟨rfl, hadmitted⟩ := updateJob_admitted hupdate
    refine Or.inr (Or.inr (.schedule hfenced.policy hfenced.leased hadmitted fun next hnext => ?_))
    simp [hnext, isoformat]

theorem confirmFinal_fileStep {tenantId region : String} {fence : CustodyLease}
    {identity : FinalIdentity} {now : Instant}
    (h : f.confirmFinal tenantId region fence identity now = .ok f') :
    Fenced f fence now ∧ FileStep .confirmed f f' := by
  obtain ⟨hfenced, hrest⟩ := fenced_of_checks h
  refine ⟨hfenced, ?_⟩
  split at hrest
  · cases hrest
  · obtain ⟨f₁, hupdate, happend⟩ := bind_eq_ok.mp hrest
    obtain ⟨rfl, hadmitted⟩ := updateJob_admitted hupdate
    obtain ⟨e, rfl, hjob, hsource, htarget, hkey⟩ := appendStatusEvent_eq_ok happend
    exact .confirm hfenced.policy hfenced.leased hadmitted
      ⟨hjob, hsource, htarget, keyNormal_of_eq hkey⟩

theorem resume_fileStep {tenantId region expectedDigest : String} {expectedEpoch : Nat}
    {now : Instant} (h : f.resume tenantId region expectedEpoch expectedDigest now = .ok f') :
    f' = f ∧ (∃ w, f.work = some w ∧ w.status = .retryPending) ∨ FileStep .resumed f f' := by
  obtain ⟨-, -, h₁⟩ := bind_eq_ok.mp h
  obtain ⟨⟨⟩, hscope, hrest⟩ := bind_eq_ok.mp h₁
  split at hrest
  · cases hrest
  · rename_i w hw
    split at hrest
    · rename_i hrepeated
      cases hrest
      exact Or.inl ⟨rfl, w, hw, hrepeated.1⟩
    · split at hrest
      · cases hrest
      · rename_i hcond
        simp only [not_or, ne_eq, Decidable.not_not] at hcond
        obtain ⟨f₁, hupdate, hlast⟩ := bind_eq_ok.mp hrest
        obtain ⟨rfl, hadmitted⟩ := updateJob_admitted hupdate
        cases hlast
        exact Or.inr (.resume (scope_eq_ok hscope).2 hw hcond.1 hcond.2.2.2.1 hadmitted hcond.2.2.2.2)

end Inversion

end LotusReport.Jobs
