import Mathlib.Data.List.Basic

/-!
# Batch and batch-item lifecycle policy

The statuses of a batch and of its items, the outcome of a failed item, and
the batch status that a set of item statuses reconciles to.
-/

namespace LotusReport.Batch

/-- `BatchStatus`. -/
inductive BatchStatus where
  | materialized
  | running
  | paused
  | cancelled
  | completed
  | completedWithFailures
  | failed
deriving DecidableEq, Repr

/-- `BatchItemStatus`. -/
inductive BatchItemStatus where
  | materialized
  | leased
  | waitingOnReportJob
  | succeeded
  | failedRetryable
  | failedTerminal
  | cancelled
  | recoveryPending
deriving DecidableEq, Repr

/-- `BATCH_ACTIVE_STATUSES`. -/
def BatchStatus.active : BatchStatus → Bool
  | materialized | running => true
  | _ => false

/-- `BATCH_COMPLETED_STATUSES`: the batch is finished. -/
def BatchStatus.finished : BatchStatus → Bool
  | completed | completedWithFailures | failed => true
  | _ => false

/-- `BATCH_STATUS_REFRESH_BLOCKED_STATUSES`. -/
def BatchStatus.refreshBlocked : BatchStatus → Bool
  | paused | cancelled => true
  | _ => false

/-- `BATCH_ITEM_CANCEL_ELIGIBLE_STATUSES`. -/
def BatchItemStatus.cancelEligible : BatchItemStatus → Bool
  | materialized | recoveryPending | failedRetryable | leased => true
  | _ => false

/-- Work on the item is still outstanding. -/
def BatchItemStatus.outstanding : BatchItemStatus → Bool
  | materialized | recoveryPending | leased | waitingOnReportJob => true
  | _ => false

/-- The status of an item after a failure, and whether it may be retried. -/
def batchItemFailureOutcome (retryable : Bool) (attemptCount maxAttempts : Nat) :
    BatchItemStatus × Bool :=
  let status : BatchItemStatus :=
    if retryable && decide (attemptCount < maxAttempts) then .failedRetryable else .failedTerminal
  (status, status == .failedRetryable)

/-- The batch status that the item statuses amount to, if they amount to one. -/
def reconciledBatchStatus (statuses : List BatchItemStatus) : Option BatchStatus :=
  if statuses.isEmpty then none
  else if statuses.all fun s => s ∈ [.succeeded, .cancelled] then
    some (if .cancelled ∉ statuses then .completed else .cancelled)
  else if statuses.all fun s => s ∈ [.succeeded, .failedTerminal, .cancelled] then
    some .completedWithFailures
  else if .failedRetryable ∈ statuses ∧
      statuses.all (fun s => s ∈ [.succeeded, .failedRetryable]) then
    some .failed
  else none

theorem not_outstanding_of_reconciled {statuses : List BatchItemStatus} {status : BatchStatus}
    (h : reconciledBatchStatus statuses = some status) {s : BatchItemStatus}
    (hs : s ∈ statuses) : s.outstanding = false := by
  unfold reconciledBatchStatus at h
  split_ifs at h with _ hdone _ hsettled hretry
  · have := List.all_eq_true.mp hdone s hs
    cases s <;> simp_all [BatchItemStatus.outstanding]
  · have := List.all_eq_true.mp hdone s hs
    cases s <;> simp_all [BatchItemStatus.outstanding]
  · have := List.all_eq_true.mp hsettled s hs
    cases s <;> simp_all [BatchItemStatus.outstanding]
  · have := List.all_eq_true.mp hretry.2 s hs
    cases s <;> simp_all [BatchItemStatus.outstanding]

theorem batchItemFailureOutcome_not_outstanding (retryable : Bool) (attemptCount maxAttempts : Nat) :
    (batchItemFailureOutcome retryable attemptCount maxAttempts).1.outstanding = false := by
  unfold batchItemFailureOutcome
  simp only
  split_ifs <;> rfl

end LotusReport.Batch
