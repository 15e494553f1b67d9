import LotusReport.Batch.Changes

/-!
# The worker scan

`list_runnable_batch_ids` offers batches to the workers, and a worker then
recovers expired leases, acquires items for dispatch and executes the items
that wait on a report job. The three filters were written apart from each
other. They agree on every reachable item except one kind: an item that failed
with its job recorded is due for the scan but never acquired.
-/

namespace LotusReport.Batch

open Encoding Relational StateMachine

namespace BatchLedger

variable (s : BatchLedger)

/-- The item condition of `list_runnable_batch_ids`. -/
def runnableItem (now : Timestamp) (i : BatchItemRow) : Bool :=
  (i.status == .materialized || i.status == .recoveryPending ||
    i.status == .waitingOnReportJob) ||
  (i.status == .leased && i.reportJobId.isNone && leaseExpired i now) ||
  (i.status == .failedRetryable && i.retryEligible && retryDue i now)

/-- The batches that the scan selects, before the window is applied. -/
def runnableBatches (tenantIds : List String) (now : Timestamp) : List BatchRow :=
  s.batches.rows.filter fun b =>
    decide (b.tenantId ∈ tenantIds) && b.status.active &&
      (s.itemsOf b.batchId).any (runnableItem now)

/-- `ORDER BY created_at, batch_id`. -/
def createdBefore (a b : BatchRow) : Bool :=
  a.createdAt.lt b.createdAt || (a.createdAt == b.createdAt && decide (a.batchId < b.batchId))

/-- `ROW_NUMBER() OVER (PARTITION BY tenant_id …)`, counted from zero. -/
def tenantRank (batches : List BatchRow) (b : BatchRow) : Nat :=
  batches.countP fun a => a.tenantId == b.tenantId && createdBefore a b

/-- `list_runnable_batch_ids`; `random` is the value of `RANDOM()` for each row. -/
def listRunnableBatchIds (tenantIds : List String) (limit : Int) (now : Instant)
    (random : String → Int) : List String :=
  if limit < 1 || tenantIds.isEmpty then []
  else
    let runnable := s.runnableBatches tenantIds (dtToText now)
    let key := fun b : BatchRow => (tenantRank runnable b, random b.batchId)
    ((runnable.insertionSort fun a b => (key a).1 < (key b).1 ∨
      ((key a).1 = (key b).1 ∧ (key a).2 ≤ (key b).2)).take limit.toNat).map (·.batchId)

/-- The `WHERE` clause of `recover_expired_leases`. -/
def recoverable (batchId : String) (now : Timestamp) (i : BatchItemRow) : Bool :=
  i.batchId == batchId && i.status == .leased && i.reportJobId.isNone && leaseExpired i now

/-- `ReportBatchWorker.run_once` would act on the item. -/
def workable (batchId : String) (now : Timestamp) (i : BatchItemRow) : Bool :=
  s.acquirable batchId now i || recoverable batchId now i ||
    (i.status == .waitingOnReportJob && i.reportJobId.isSome)

/-- The scan selects the item, and no call of a worker takes it: it failed, is due for a retry,
and already carries the job of its last attempt. -/
def linkedRetry (now : Timestamp) (i : BatchItemRow) : Bool :=
  i.status == .failedRetryable && i.retryEligible && retryDue i now && i.reportJobId.isSome

end BatchLedger

/-- Every batch that the scan offers has an item that a worker would act on. -/
def OffersWork (s : BatchLedger) (now : Instant) : Prop :=
  ∀ tenantIds limit random, ∀ batchId ∈ s.listRunnableBatchIds tenantIds limit now random,
    ∃ i ∈ s.itemsOf batchId, s.workable batchId (dtToText now) i = true

/-- The batch is active, and the only items of it that the scan selects are retries that carry a
job. -/
def Stuck (s : BatchLedger) (now : Instant) (b : BatchRow) : Prop :=
  b.status.active = true ∧
    (∃ i ∈ s.itemsOf b.batchId, BatchLedger.linkedRetry (dtToText now) i = true) ∧
    ∀ i ∈ s.itemsOf b.batchId, BatchLedger.runnableItem (dtToText now) i = true →
      BatchLedger.linkedRetry (dtToText now) i = true

section Links

variable {py : Runtime} {s : BatchLedger} {call : BatchCall} {i i' : BatchItemRow}

/-- An item before its dispatch has no job, and an item that waits has one. -/
structure JobRecorded (i : BatchItemRow) : Prop where
  before : i.status = .materialized ∨ i.status = .recoveryPending ∨ i.status = .leased →
    i.reportJobId = none
  waiting : i.status = .waitingOnReportJob → i.reportJobId.isSome = true

theorem ItemStep.jobRecorded (h : ItemStep s call i i') (hi : JobRecorded i) : JobRecorded i' := by
  cases h with
  | acquire h =>
      simp only [BatchLedger.acquirable, Bool.and_eq_true, Option.isNone_iff_eq_none] at h
      exact ⟨fun _ => h.1.1.2, by simp⟩
  | heartbeat h => exact ⟨hi.before, hi.waiting⟩
  | dispatch h => exact ⟨by simp, by simp⟩
  | succeed => exact ⟨by simp, by simp⟩
  | fail =>
      unfold batchItemFailureOutcome
      constructor <;> intro h <;> simp only at h <;> split at h <;> simp at h
  | retry h =>
      simp only [BatchLedger.retryable, Bool.and_eq_true, Option.isNone_iff_eq_none] at h
      exact ⟨fun _ => h.1.1.1.2, by simp⟩
  | cancel => exact ⟨by simp, by simp⟩
  | recover _ _ hjob => exact ⟨fun _ => hjob, by simp⟩
  | relink => exact ⟨by simp, by simp⟩

theorem jobRecorded_run (py : Runtime) (calls : List BatchCall) :
    ∀ i ∈ (run (step py) BatchLedger.empty calls).items.rows, JobRecorded i := by
  refine run_induction (I := fun s : BatchLedger => ∀ i ∈ s.items.rows, JobRecorded i) (fun s call hs i' hi' => ?_)
    (by intro i hi; cases hi) calls
  rcases item_of_step hi' with ⟨i, hi, rfl | hstep⟩ | ⟨_, _, _, hnew, -⟩
  · exact hs i' hi
  · exact hstep.jobRecorded (hs i hi)
  · exact ⟨fun _ => hnew.job, by simp [hnew.status]⟩

end Links

section Scan

variable {s : BatchLedger} {now : Instant}

/-- A batch that the scan returns is active and has an item that the scan selects. -/
theorem mem_listRunnableBatchIds {tenantIds : List String} {limit : Int} {random : String → Int}
    {batchId : String} (h : batchId ∈ s.listRunnableBatchIds tenantIds limit now random) :
    ∃ b ∈ s.batches.rows, b.batchId = batchId ∧ b.status.active = true ∧
      ∃ i ∈ s.itemsOf batchId, BatchLedger.runnableItem (dtToText now) i = true := by
  unfold BatchLedger.listRunnableBatchIds at h
  split at h
  · cases h
  · obtain ⟨b, hb, rfl⟩ := List.mem_map.mp h
    have hselected := (List.perm_insertionSort _ _).mem_iff.mp (List.mem_of_mem_take hb)
    obtain ⟨hmem, hp⟩ := List.mem_filter.mp hselected
    simp only [Bool.and_eq_true, List.any_eq_true] at hp
    exact ⟨b, hmem, rfl, hp.1.2, hp.2⟩

/-- A scan of its tenant with a wide enough window returns every batch that has such an item. -/
theorem listRunnableBatchIds_of_mem {b : BatchRow} (hb : b ∈ s.batches.rows)
    (hactive : b.status.active = true) {i : BatchItemRow} (hi : i ∈ s.itemsOf b.batchId)
    (hrunnable : BatchLedger.runnableItem (dtToText now) i = true) :
    b.batchId ∈ s.listRunnableBatchIds [b.tenantId] (s.batches.rows.length + 1) now fun _ => 0 := by
  have hselected : b ∈ s.runnableBatches [b.tenantId] (dtToText now) := by
    refine List.mem_filter.mpr ⟨hb, ?_⟩
    simp only [List.mem_singleton, decide_true, hactive, Bool.true_and, List.any_eq_true]
    exact ⟨i, hi, hrunnable⟩
  have hlength : (s.runnableBatches [b.tenantId] (dtToText now)).length ≤
      ((s.batches.rows.length : Int) + 1).toNat := by
    have hle : (s.runnableBatches [b.tenantId] (dtToText now)).length ≤ s.batches.rows.length :=
      List.length_filter_le _ _
    omega
  unfold BatchLedger.listRunnableBatchIds
  rw [if_neg (by simp)]
  refine List.mem_map_of_mem ?_
  rw [List.take_of_length_le (by rw [List.length_insertionSort]; exact hlength)]
  exact (List.perm_insertionSort _ _).mem_iff.mpr hselected

/-- A worker acts on every item that the scan selects in an active batch, except on a retry that
carries a job. -/
theorem workable_of_runnable {b : BatchRow} (hb : b ∈ s.batches.rows)
    (hactive : b.status.active = true) {i : BatchItemRow} (hi : i ∈ s.itemsOf b.batchId)
    (hlinks : JobRecorded i) (hrunnable : BatchLedger.runnableItem (dtToText now) i = true)
    (hretry : BatchLedger.linkedRetry (dtToText now) i = false) :
    s.workable b.batchId (dtToText now) i = true := by
  have hid : i.batchId = b.batchId := by simpa using (List.mem_filter.mp hi).2
  have hbatch : (s.batches.rows.any fun a => a.batchId == i.batchId && a.status.active) = true :=
    List.any_eq_true.mpr ⟨b, hb, by simp [hid, hactive]⟩
  simp only [BatchLedger.runnableItem, Bool.or_eq_true, Bool.and_eq_true, beq_iff_eq] at hrunnable
  simp only [BatchLedger.workable, BatchLedger.acquirable, BatchLedger.recoverable, hbatch,
    Bool.or_eq_true, Bool.and_eq_true, beq_iff_eq, Option.isNone_iff_eq_none]
  rcases hrunnable with (((hstatus | hstatus) | hstatus) | ⟨⟨hstatus, hjob⟩, hexpired⟩) |
    ⟨⟨hstatus, heligible⟩, hdue⟩
  · exact Or.inl (Or.inl ⟨⟨⟨hid, hlinks.before (Or.inl hstatus)⟩, trivial⟩, by simp [hstatus]⟩)
  · exact Or.inl (Or.inl ⟨⟨⟨hid, hlinks.before (Or.inr (Or.inl hstatus))⟩, trivial⟩, by simp [hstatus]⟩)
  · exact Or.inr ⟨hstatus, hlinks.waiting hstatus⟩
  · exact Or.inl (Or.inr ⟨⟨⟨hid, hstatus⟩, by simpa using hjob⟩, hexpired⟩)
  · have hjob : i.reportJobId = none := by
      simpa [BatchLedger.linkedRetry, hstatus, heligible, hdue] using hretry
    exact Or.inl (Or.inl ⟨⟨⟨hid, hjob⟩, trivial⟩, by simp [hstatus, heligible, hdue]⟩)

/-- No worker acts on a retry that carries a job. -/
theorem not_workable_of_linkedRetry {batchId : String} {i : BatchItemRow}
    (h : BatchLedger.linkedRetry (dtToText now) i = true) :
    s.workable batchId (dtToText now) i = false := by
  simp only [BatchLedger.linkedRetry, Bool.and_eq_true, beq_iff_eq, Option.isSome_iff_exists] at h
  obtain ⟨⟨⟨hstatus, -⟩, -⟩, jobId, hjob⟩ := h
  simp [BatchLedger.workable, BatchLedger.acquirable, BatchLedger.recoverable, hstatus, hjob]

/-- An item that a worker acts on is selected by the scan. -/
theorem runnable_of_workable {batchId : String} {i : BatchItemRow}
    (h : s.workable batchId (dtToText now) i = true) :
    BatchLedger.runnableItem (dtToText now) i = true := by
  simp only [BatchLedger.workable, BatchLedger.acquirable, BatchLedger.recoverable, Bool.or_eq_true,
    Bool.and_eq_true, beq_iff_eq] at h
  simp only [BatchLedger.runnableItem, Bool.or_eq_true, Bool.and_eq_true, beq_iff_eq]
  tauto

end Scan

/-- In every reachable state and at every instant, every batch offered to a worker has work exactly
when no active batch is left with retries that carry a job and nothing else that is due. -/
theorem offers_work_iff (py : Runtime) (calls : List BatchCall) (now : Instant) :
    OffersWork (run (step py) BatchLedger.empty calls) now ↔
      ∀ b ∈ (run (step py) BatchLedger.empty calls).batches.rows,
        ¬ Stuck (run (step py) BatchLedger.empty calls) now b := by
  have hlinks := jobRecorded_run py calls
  generalize run (step py) BatchLedger.empty calls = s at hlinks
  constructor
  · rintro h b hb ⟨hactive, ⟨i, hi, hretry⟩, honly⟩
    have hrunnable : BatchLedger.runnableItem (dtToText now) i = true := by
      simp only [BatchLedger.linkedRetry, Bool.and_eq_true, beq_iff_eq] at hretry
      simp [BatchLedger.runnableItem, hretry.1.1.1, hretry.1.1.2, hretry.1.2]
    obtain ⟨j, hj, hworkable⟩ := h _ _ _ b.batchId (listRunnableBatchIds_of_mem hb hactive hi hrunnable)
    have hlinked := honly j hj (runnable_of_workable hworkable)
    rw [not_workable_of_linkedRetry hlinked] at hworkable
    cases hworkable
  · intro h tenantIds limit random batchId hmem
    obtain ⟨b, hb, rfl, hactive, i, hi, hrunnable⟩ := mem_listRunnableBatchIds hmem
    by_contra hnone
    have honly : ∀ j ∈ s.itemsOf b.batchId, BatchLedger.runnableItem (dtToText now) j = true →
        BatchLedger.linkedRetry (dtToText now) j = true := by
      intro j hj hjrunnable
      by_contra hretry
      refine hnone ⟨j, hj, workable_of_runnable hb hactive hj ?_ hjrunnable (by simpa using hretry)⟩
      exact hlinks j (List.mem_filter.mp hj).1
    exact h b hb ⟨hactive, ⟨i, hi, honly i hi hrunnable⟩, honly⟩

/-- A batch of two items: the job of the first fails for good, that of the second may be retried. -/
def stuckBatchRun : List BatchCall :=
  dispatchedBatch ["PF_1", "PF_2"] ++
    [ .markItemFailed "rbit_1" "data_incomplete" "No data." false 3 none 3000000,
      .markItemFailed "rbit_2" "render_execution_failed" "Render failed." true 3 none 3000000 ]

/-- The scan offers the batch again and again, and no worker finds an item to act on. -/
theorem not_offersWork_stuckBatchRun :
    ¬ OffersWork (run (step Runtime.verbatim) BatchLedger.empty stuckBatchRun) 4000000 := by
  intro h
  have hidle : ∀ i ∈ (run (step Runtime.verbatim) BatchLedger.empty stuckBatchRun).itemsOf "rbch_1",
      (run (step Runtime.verbatim) BatchLedger.empty stuckBatchRun).workable "rbch_1"
        (dtToText 4000000) i = false := by decide +kernel
  obtain ⟨i, hi, hworkable⟩ := h ["tenant-sg"] 10 (fun _ => 0) "rbch_1" (by decide +kernel)
  rw [hidle i hi] at hworkable
  cases hworkable

end LotusReport.Batch
