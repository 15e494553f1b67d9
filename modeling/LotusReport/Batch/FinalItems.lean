import LotusReport.Batch.Changes

/-!
# Final items

An item that succeeded, was cancelled or failed for good should stay so,
whatever the workers, replays and control calls that still hold an earlier
record of it do next. Every update of an item names the status that it starts
from, except the one that records a failure.
-/

namespace LotusReport.Batch

open Encoding Relational StateMachine

/-- The item is settled for good. -/
def BatchItemStatus.final : BatchItemStatus → Bool
  | succeeded | cancelled | failedTerminal => true
  | _ => false

/-- The call records a failure of a final item that moves it to another status. -/
def Unsettles (s : BatchLedger) : BatchCall → Prop
  | .markItemFailed batchItemId _ _ retryable maxAttempts _ _ =>
      ∃ i ∈ s.items.rows, i.batchItemId = batchItemId ∧ i.status.final = true ∧
        (batchItemFailureOutcome retryable (i.attemptCount + 1) maxAttempts).1 ≠ i.status
  | _ => False

/-- At every moment of the run, an item that is final keeps its status until the end of every
later part of the run. -/
def FinalStays (py : Runtime) (calls : List BatchCall) : Prop :=
  ∀ before middle after i, calls = before ++ middle ++ after →
    i ∈ (run (step py) BatchLedger.empty before).items.rows → i.status.final = true →
    ∃ i' ∈ (run (step py) BatchLedger.empty (before ++ middle)).items.rows,
      i'.batchItemId = i.batchItemId ∧ i'.status = i.status

section Step

variable {py : Runtime} {s : BatchLedger} {call : BatchCall} {i i' : BatchItemRow}

theorem ItemStep.status_of_final (h : ItemStep s call i i') (hmem : i ∈ s.items.rows)
    (hfinal : i.status.final = true) (hcall : ¬ Unsettles s call) : i'.status = i.status := by
  cases h with
  | acquire h =>
      simp only [BatchLedger.acquirable, Bool.and_eq_true, Bool.or_eq_true, beq_iff_eq] at h
      rcases h.2 with ((hstatus | hstatus) | ⟨hstatus, -⟩) | ⟨⟨hstatus, -⟩, -⟩ <;>
        · rw [hstatus] at hfinal
          cases hfinal
  | heartbeat h => rfl
  | dispatch h =>
      simp only [BatchLedger.holdsLease, Bool.and_eq_true, beq_iff_eq] at h
      rw [h.2] at hfinal
      cases hfinal
  | succeed _ _ hstatus =>
      rw [hstatus] at hfinal
      cases hfinal
  | fail hid =>
      by_contra hne
      exact hcall ⟨i, hmem, hid, hfinal, hne⟩
  | retry h =>
      simp only [BatchLedger.retryable, Bool.and_eq_true, beq_iff_eq] at h
      rw [h.1.1.1.1.2] at hfinal
      cases hfinal
  | cancel _ hstatus _ =>
      revert hstatus hfinal
      cases i.status <;> simp [BatchItemStatus.final, BatchItemStatus.cancelEligible]
  | recover _ hstatus _ _ =>
      rw [hstatus] at hfinal
      cases hfinal
  | relink _ h =>
      simp only [BatchLedger.relinkable, Bool.and_eq_true, beq_iff_eq] at h
      rw [h.1.1.1.2] at hfinal
      cases hfinal

theorem final_step (py : Runtime) (hmem : i ∈ s.items.rows) (hfinal : i.status.final = true)
    (hcall : ¬ Unsettles s call) :
    ∃ i' ∈ (step py s call).items.rows, i'.batchItemId = i.batchItemId ∧ i'.status = i.status := by
  obtain ⟨i', hi', hstep⟩ := step_item py call hmem
  rcases hstep with rfl | hstep
  · exact ⟨i', hi', rfl, rfl⟩
  · exact ⟨i', hi', hstep.batchItemId, hstep.status_of_final hmem hfinal hcall⟩

theorem final_run {calls : List BatchCall} (hmem : i ∈ s.items.rows)
    (hfinal : i.status.final = true)
    (hcalls : Along (step py) (fun s call => ¬ Unsettles s call) s calls) :
    ∃ i' ∈ (run (step py) s calls).items.rows,
      i'.batchItemId = i.batchItemId ∧ i'.status = i.status := by
  induction calls generalizing s i with
  | nil => exact ⟨i, hmem, rfl, rfl⟩
  | cons call calls ih =>
      obtain ⟨i₁, hi₁, hid₁, hstatus₁⟩ := final_step py hmem hfinal hcalls.1
      obtain ⟨i₂, hi₂, hid₂, hstatus₂⟩ := ih hi₁ (hstatus₁ ▸ hfinal) hcalls.2
      exact ⟨i₂, hi₂, hid₂.trans hid₁, hstatus₂.trans hstatus₁⟩

theorem exists_unsettled (py : Runtime) (h : Unsettles s call) :
    ∃ i ∈ s.items.rows, i.status.final = true ∧
      ∀ i' ∈ (step py s call).items.rows, i'.batchItemId = i.batchItemId → i'.status ≠ i.status := by
  cases call with
  | markItemFailed batchItemId errorCategory errorSummary retryable maxAttempts nextRetryAt now =>
      obtain ⟨i, hi, hid, hfinal, hne⟩ := h
      refine ⟨i, hi, hfinal, fun i' hi' hsame => ?_⟩
      rw [step, BatchLedger.markItemFailed, updateItem_of_mem hi hid rfl] at hi'
      simp only [BatchLedger.thenRefresh, stateAfter, items_refreshBatchStatus] at hi'
      rcases Table.mem_update.mp hi' with ⟨hold, hp⟩ | ⟨j, hj, hp, rfl⟩
      · simp [hsame, hid] at hp
      · have heq : j = i := List.inj_on_of_nodup_map s.items.key_nodup hj hi hsame
        rw [heq]
        exact hne
  | _ => exact h.elim

end Step

/-- For every interleaving of ledger calls, final items keep their status throughout exactly when
no call of the run records a failure of a final item that moves it to another status. -/
theorem final_stays_iff (py : Runtime) (calls : List BatchCall) :
    FinalStays py calls ↔
      Along (step py) (fun s call => ¬ Unsettles s call) BatchLedger.empty calls := by
  constructor
  · intro h
    refine along_iff.mpr fun before call after heq hunsettles => ?_
    obtain ⟨i, hi, hfinal, hmoved⟩ := exists_unsettled py hunsettles
    obtain ⟨i', hi', hid, hstatus⟩ := h before [call] after i (by rw [heq]; simp) hi hfinal
    rw [run_append] at hi'
    exact hmoved i' hi' hid hstatus
  · rintro h before middle after i rfl hi hfinal
    have hmiddle := (along_append.mp (along_append.mp h).1).2
    rw [run_append]
    exact final_run hi hfinal hmiddle

/-- Two workers have read the same waiting item: the first settles it as succeeded, the second
then records that its own execution failed. -/
def overtakenRun : List BatchCall :=
  dispatchedBatch ["PF_1"] ++
    [ .markItemSucceeded "rbit_1" "rjob_1" 3000000,
      .markItemFailed "rbit_1" "batch_execution_failed" "ReadTimeout" true 3 none 4000000 ]

/-- The item that had succeeded has failed. -/
theorem not_finalStays_overtakenRun : ¬ FinalStays Runtime.verbatim overtakenRun := by
  intro h
  obtain ⟨i, hi, hp⟩ := List.any_eq_true.mp
    (by decide +kernel : ((run (step Runtime.verbatim) BatchLedger.empty
      (overtakenRun.take 4)).items.rows.any fun i =>
        i.batchItemId == "rbit_1" && i.status == .succeeded) = true)
  simp only [Bool.and_eq_true, beq_iff_eq] at hp
  obtain ⟨i', hi', hid, hstatus⟩ := h (overtakenRun.take 4) (overtakenRun.drop 4) [] i
    (by simp) hi (by rw [hp.2]; rfl)
  have hmoved : ∀ i ∈ (run (step Runtime.verbatim) BatchLedger.empty overtakenRun).items.rows,
      i.batchItemId = "rbit_1" → i.status ≠ .succeeded := by decide +kernel
  rw [List.take_append_drop] at hi'
  exact hmoved i' hi' (hid.trans hp.1) (hstatus.trans hp.2)

end LotusReport.Batch
