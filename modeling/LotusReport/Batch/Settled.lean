import LotusReport.Batch.Changes

/-!
# Finished batches

A batch whose stored status is final should have no item left to work on,
because dispatch and the worker scan skip such a batch. Each call of the
ledger keeps this, except the two calls that move a failed item back to a live
status without looking at the status of its batch.
-/

namespace LotusReport.Batch

open Encoding Relational StateMachine

/-- No finished batch has an outstanding item. -/
def Settled (s : BatchLedger) : Prop :=
  ∀ b ∈ s.batches.rows, b.status.finished = true →
    ∀ i ∈ s.items.rows, i.batchId = b.batchId → i.status.outstanding = false

instance (s : BatchLedger) : Decidable (Settled s) := by
  unfold Settled
  infer_instance

/-- The stored status of the batch is final. -/
def FinishedBatch (s : BatchLedger) (batchId : String) : Prop :=
  ∃ b ∈ s.batches.rows, b.batchId = batchId ∧ b.status.finished = true

/-- The call moves a failed item of a finished batch back to a live status. -/
def Strands (s : BatchLedger) : BatchCall → Prop
  | .retryFailedItems batchId maxAttempts now =>
      FinishedBatch s batchId ∧
        ∃ i ∈ s.items.rows, BatchLedger.retryable batchId maxAttempts (dtToText now) i = true
  | .relinkFailedItemForReplay batchId batchItemId _ maxAttempts _ =>
      FinishedBatch s batchId ∧
        ∃ i ∈ s.items.rows, i.batchItemId = batchItemId ∧
          BatchLedger.relinkable batchId maxAttempts i = true
  | _ => False

section Preservation

variable {s s' : BatchLedger}

/-- A change keeps `Settled` when every batch that is finished afterwards was finished before and
every outstanding item of it was there before. -/
theorem Settled.of_mem (hs : Settled s)
    (hbatch : ∀ b ∈ s'.batches.rows, b.status.finished = true →
      ∃ b' ∈ s.batches.rows, b'.batchId = b.batchId ∧ b'.status.finished = true)
    (hitem : ∀ i ∈ s'.items.rows, i.status.outstanding = true → FinishedBatch s i.batchId →
      ∃ i' ∈ s.items.rows, i'.batchId = i.batchId ∧ i'.status.outstanding = true) :
    Settled s' := by
  intro b hb hfin i hi hib
  obtain ⟨b', hb', hid, hfin'⟩ := hbatch b hb hfin
  by_contra hout
  obtain ⟨i', hi', hib', hout'⟩ := hitem i hi (by simpa using hout)
    ⟨b', hb', hid.trans hib.symm, hfin'⟩
  have hquiet := hs b' hb' hfin' i' hi' (by rw [hib', hib, hid])
  simp [hquiet] at hout'

/-- An update of items keeps `Settled` when what it assigns is not outstanding, or when it takes
only outstanding items, in which case a finished batch has none. -/
theorem Settled.update_items (hs : Settled s) (p : BatchItemRow → Bool)
    (a : ItemAssignment)
    (hbatch : ∀ i, (a.set i).batchId = i.batchId)
    (h : ∀ i ∈ s.items.rows, p i = true → (a.set i).status.outstanding = true →
      i.status.outstanding = true) :
    Settled { s with items := s.items.update p a } := by
  refine hs.of_mem (fun b hb hfin => ⟨b, hb, rfl, hfin⟩) fun i hi hout _ => ?_
  rcases Table.mem_update.mp hi with ⟨hi', -⟩ | ⟨i', hi', hp, rfl⟩
  · exact ⟨i, hi', rfl, hout⟩
  · exact ⟨i', hi', (hbatch i').symm, h i' hi' hp hout⟩

/-- An update of batches keeps `Settled` when it assigns no final status. -/
theorem Settled.update_batches {batches : Table BatchRow.batchId BatchRow.idempotencyKey}
    {items : Table BatchItemRow.batchItemId BatchItemRow.itemIdempotencyKey}
    (hs : Settled ⟨batches, items⟩) (p : BatchRow → Bool)
    (a : Table.Assignment BatchRow.batchId BatchRow.idempotencyKey)
    (h : ∀ b, (a.set b).status.finished = false) :
    Settled ⟨batches.update p a, items⟩ := by
  refine hs.of_mem (fun b hb hfin => ?_) fun i hi hout _ => ⟨i, hi, rfl, hout⟩
  rcases Table.mem_update.mp hb with ⟨hb', -⟩ | ⟨b', -, -, rfl⟩
  · exact ⟨b, hb', rfl, hfin⟩
  · simp [h b'] at hfin

theorem mem_refreshBatchStatus {batchId : String} {now : Instant} {b : BatchRow}
    (hb : b ∈ (s.refreshBatchStatus batchId now).batches.rows) :
    b ∈ s.batches.rows ∨ b.batchId = batchId ∧
      ∀ i ∈ s.items.rows, i.batchId = batchId → i.status.outstanding = false := by
  unfold BatchLedger.refreshBatchStatus at hb
  split at hb
  · exact Or.inl hb
  · rename_i status hstatus
    rcases Table.mem_update.mp hb with ⟨hb', -⟩ | ⟨b', -, hp, rfl⟩
    · exact Or.inl hb'
    · simp only [Bool.and_eq_true, beq_iff_eq] at hp
      refine Or.inr ⟨hp.1, fun i hi hib => not_outstanding_of_reconciled hstatus ?_⟩
      exact List.mem_map_of_mem (List.mem_filter.mpr ⟨hi, by simpa using hib⟩)

theorem Settled.refresh (hs : Settled s) (batchId : String) (now : Instant) :
    Settled (s.refreshBatchStatus batchId now) := by
  intro b hb hfin i hi hib
  rw [items_refreshBatchStatus] at hi
  rcases mem_refreshBatchStatus hb with hb' | ⟨hid, hquiet⟩
  · exact hs b hb' hfin i hi hib
  · exact hquiet i hi (hib.trans hid)

theorem refreshBatchStatus_of_outstanding {batchId : String} {now : Instant} {i : BatchItemRow}
    (hi : i ∈ s.items.rows) (hib : i.batchId = batchId) (hout : i.status.outstanding = true) :
    s.refreshBatchStatus batchId now = s := by
  unfold BatchLedger.refreshBatchStatus
  split
  · rfl
  · rename_i status hstatus
    have hmem : i.status ∈ (s.itemsOf batchId).map (·.status) :=
      List.mem_map_of_mem (List.mem_filter.mpr ⟨hi, by simpa using hib⟩)
    simp [not_outstanding_of_reconciled hstatus hmem] at hout

/-- A transaction keeps `Settled` when its result does. -/
theorem Settled.stateAfter {α : Type} (hs : Settled s) {t : Transaction (α × BatchLedger)}
    (h : ∀ result s', t = .ok (result, s') → Settled s') : Settled (stateAfter s t) := by
  match t with
  | .ok (result, s') => exact h result s' rfl
  | .error _ => exact hs

theorem Settled.thenRefresh (hs : Settled s) {now : Instant}
    {t : Transaction (BatchItemRow × BatchLedger)}
    (h : ∀ item s', t = .ok (item, s') → Settled s') :
    Settled (Batch.stateAfter s (BatchLedger.thenRefresh now t)) := by
  match t with
  | .ok (item, s') => exact (h item s' rfl).refresh item.batchId now
  | .error _ => exact hs

/-- A fenced update of one item keeps `Settled` as an update of items does. -/
theorem Settled.updateItem (hs : Settled s) {batchItemId : String} {p : BatchItemRow → Bool}
    {a : ItemAssignment}
    {missing : BatchLedgerError} (hbatch : ∀ i, (a.set i).batchId = i.batchId)
    (h : ∀ i ∈ s.items.rows, p i = true → (a.set i).status.outstanding = true →
      i.status.outstanding = true) {item : BatchItemRow}
    (hok : s.updateItem batchItemId p a missing = .ok (item, s')) : Settled s' := by
  obtain ⟨rfl, -⟩ := updateItem_eq_ok hok
  refine hs.update_items _ a hbatch fun i hi hp => h i hi ?_
  simp only [Bool.and_eq_true] at hp
  exact hp.2

end Preservation

section Step

variable {py : Runtime} {s : BatchLedger}

theorem settled_createBatch (hs : Settled s) (request : BatchCreateRequest)
    (callerContext : ReportCallerContext) (idempotencyKey : Option String) (batchId : String)
    (itemId : Nat → String) (now : Instant) :
    Settled (step py s
      (.createBatch request callerContext idempotencyKey batchId itemId now)) := by
  refine hs.stateAfter fun record s' hok => ?_
  rcases createBatch_eq_ok hok with rfl | ⟨row, new, -, hcreated⟩
  · exact hs
  refine hs.of_mem (fun b hb hfin => ?_) fun i hi hout hfin => ?_
  · rw [hcreated.batches, List.mem_append, List.mem_singleton] at hb
    rcases hb with hb | rfl
    · exact ⟨b, hb, rfl, hfin⟩
    · rw [hcreated.status] at hfin
      cases hfin
  · rw [hcreated.items, List.mem_append] at hi
    rcases hi with hi | hi
    · exact ⟨i, hi, rfl, hout⟩
    · obtain ⟨b, hb, hbid, -⟩ := hfin
      exact absurd (hbid.trans (hcreated.new i hi).batch)
        ((Table.find?_eq_none_iff _ _).mp hcreated.fresh b hb)

theorem settled_acquireDispatchItems (hs : Settled s) (batchId workerId : String)
    (leaseSeconds limit : Int) (leaseToken : String) (now : Instant) :
    Settled (step py s
      (.acquireDispatchItems batchId workerId leaseSeconds limit leaseToken now)) := by
  refine hs.stateAfter fun items s' hok => ?_
  unfold BatchLedger.acquireDispatchItems at hok
  simp only at hok
  split at hok
  · cases hok
    exact hs
  · obtain ⟨-, rfl⟩ := Prod.mk.inj (Except.ok.inj hok)
    refine hs.of_mem (fun b hb hfin => ?_) fun i hi hout hfin => ?_
    · rcases Table.mem_update.mp hb with ⟨hb', -⟩ | ⟨b', -, -, rfl⟩
      · exact ⟨b, hb', rfl, hfin⟩
      · cases hfin
    · rcases Table.mem_update.mp hi with ⟨hi', -⟩ | ⟨i', hi', hp, rfl⟩
      · exact ⟨i, hi', rfl, hout⟩
      · -- the item was selected, so a batch with its id is active; ids are distinct
        have hsel : i' ∈ s.items.rows.filter (s.acquirable batchId (dtToText now)) := by
          obtain ⟨j, hj, hji⟩ := List.mem_map.mp (of_decide_eq_true hp)
          have hj' := (List.perm_insertionSort _ _).mem_iff.mp (List.mem_of_mem_take hj)
          have heq : j = i' :=
            List.inj_on_of_nodup_map s.items.key_nodup (List.mem_filter.mp hj').1 hi' hji
          exact heq ▸ hj'
        have hacq := (List.mem_filter.mp hsel).2
        simp only [BatchLedger.acquirable, Bool.and_eq_true, List.any_eq_true, beq_iff_eq] at hacq
        obtain ⟨b, hb, hbid, hactive⟩ := hacq.1.2
        obtain ⟨b', hb', hbid', hfin'⟩ := hfin
        have heq : b = b' :=
          List.inj_on_of_nodup_map s.batches.key_nodup hb hb' (hbid.trans hbid'.symm)
        subst heq
        revert hactive hfin'
        cases b.status <;> simp [BatchStatus.active, BatchStatus.finished]

/-- Items of a batch that is not finished may be moved back to a live status. -/
theorem settled_of_revived (hs : Settled s) {p : BatchItemRow → Bool}
    {a : ItemAssignment}
    (hbatch : ∀ i, (a.set i).batchId = i.batchId)
    (h : ∀ i ∈ s.items.rows, p i = true → ¬ FinishedBatch s i.batchId) :
    Settled { s with items := s.items.update p a } := by
  refine hs.of_mem (fun b hb hfin => ⟨b, hb, rfl, hfin⟩) fun i hi hout hfin => ?_
  rcases Table.mem_update.mp hi with ⟨hi', -⟩ | ⟨i', hi', hp, rfl⟩
  · exact ⟨i, hi', rfl, hout⟩
  · exact absurd (hbatch i' ▸ hfin) (h i' hi' hp)

/-- An item of a finished batch that is moved back to a live status is stranded there. -/
theorem not_settled_of_revived (now : Instant) {p : BatchItemRow → Bool} {batchId : String}
    {a : ItemAssignment}
    (hbatch : ∀ i, (a.set i).batchId = i.batchId)
    (hlive : ∀ i, (a.set i).status.outstanding = true) (hfin : FinishedBatch s batchId)
    {i : BatchItemRow} (hi : i ∈ s.items.rows) (hp : p i = true) (hib : i.batchId = batchId) :
    ¬ Settled (({ s with items := s.items.update p a } : BatchLedger).refreshBatchStatus
      batchId now) := by
  intro hsettled
  obtain ⟨b, hb, hbid, hfinished⟩ := hfin
  have hmem : a.set i ∈ (s.items.update p a).rows := Table.mem_update.mpr (Or.inr ⟨i, hi, hp, rfl⟩)
  have hset : (a.set i).batchId = batchId := (hbatch i).trans hib
  rw [refreshBatchStatus_of_outstanding hmem hset (hlive i)] at hsettled
  have hquiet := hsettled b hb hfinished (a.set i) hmem (hset.trans hbid.symm)
  simp [hlive i] at hquiet

theorem settled_retryFailedItems (hs : Settled s) (batchId : String) (maxAttempts : Nat)
    (now : Instant) :
    Settled (step py s (.retryFailedItems batchId maxAttempts now)) ↔
      ¬ Strands s (.retryFailedItems batchId maxAttempts now) := by
  have hbatchOf : ∀ i, BatchLedger.retryable batchId maxAttempts (dtToText now) i = true →
      i.batchId = batchId := by
    intro i hp
    simp only [BatchLedger.retryable, Bool.and_eq_true, beq_iff_eq] at hp
    exact hp.1.1.1.1.1
  constructor
  · rintro hsettled ⟨hfin, i, hi, hp⟩
    refine not_settled_of_revived now (a := BatchLedger.resetForRetry) (fun _ => rfl)
      (fun _ => rfl) hfin hi hp (hbatchOf i hp) ?_
    obtain ⟨b, hb, hbid, -⟩ := hfin
    have hmem : BatchLedger.resetForRetry.set i ∈ (s.items.update
        (BatchLedger.retryable batchId maxAttempts (dtToText now)) BatchLedger.resetForRetry).rows :=
      Table.mem_update.mpr (Or.inr ⟨i, hi, hp, rfl⟩)
    have hset : (BatchLedger.resetForRetry.set i).batchId = batchId := hbatchOf i hp
    rw [step, BatchLedger.retryFailedItems] at hsettled
    rwa [stateAfter_controlResult (b := b) ?_ hbid] at hsettled
    rw [refreshBatchStatus_of_outstanding hmem hset rfl]
    exact hb
  · intro hstrands
    refine hs.stateAfter fun result s' hok => ?_
    rw [controlResult_eq_ok hok]
    refine (settled_of_revived hs (fun _ => rfl) fun i hi hp hfin => ?_).refresh batchId now
    exact hstrands ⟨hbatchOf i hp ▸ hfin, i, hi, hp⟩

theorem settled_relinkFailedItemForReplay (hs : Settled s)
    (batchId batchItemId replayedReportJobId : String) (maxAttempts : Nat) (now : Instant) :
    Settled (step py s
        (.relinkFailedItemForReplay batchId batchItemId replayedReportJobId maxAttempts now)) ↔
      ¬ Strands s
        (.relinkFailedItemForReplay batchId batchItemId replayedReportJobId maxAttempts now) := by
  have hrelinkable : ∀ i, BatchLedger.relinkable batchId maxAttempts i = true →
      i.batchId = batchId ∧ i.status = .failedRetryable := by
    intro i hp
    simp only [BatchLedger.relinkable, Bool.and_eq_true, beq_iff_eq] at hp
    exact ⟨hp.1.1.1.1, hp.1.1.1.2⟩
  constructor
  · rintro hsettled ⟨hfin, i, hi, hid, hp⟩
    obtain ⟨hib, hstatus⟩ := hrelinkable i hp
    refine not_settled_of_revived now (a := BatchLedger.relinkTo replayedReportJobId now)
      (p := fun i => i.batchItemId == batchItemId && BatchLedger.relinkable batchId maxAttempts i)
      (fun _ => rfl) (fun _ => rfl) hfin hi (by simp [hid, hp]) hib ?_
    have hfind : (s.items.rows.find? fun i => i.batchId == batchId && i.batchItemId == batchItemId)
        = some i := by
      obtain ⟨j, hj⟩ := Option.isSome_iff_exists.mp
        (List.find?_isSome (p := fun i => i.batchId == batchId && i.batchItemId == batchItemId).mpr
          ⟨i, hi, by simp [hib, hid]⟩)
      have hjid : j.batchItemId = batchItemId := by
        have := List.find?_some hj
        simp only [Bool.and_eq_true, beq_iff_eq] at this
        exact this.2
      rw [hj, List.inj_on_of_nodup_map s.items.key_nodup (List.mem_of_find?_eq_some hj) hi
        (hjid.trans hid.symm)]
    rw [step, BatchLedger.relinkFailedItemForReplay, hfind] at hsettled
    simpa [hstatus, updateItem_of_mem hi hid hp, BatchLedger.thenRefresh, stateAfter, hib,
      BatchLedger.relinkTo, BatchLedger.itemSet] using hsettled
  · intro hstrands
    rw [step, BatchLedger.relinkFailedItemForReplay]
    split
    · refine hs.stateAfter fun item s' hok => ?_
      unfold BatchLedger.loadBatch at hok
      split at hok <;> cases hok
    · split
      · exact hs
      · refine hs.thenRefresh fun item s' hok => ?_
        obtain ⟨rfl, -⟩ := updateItem_eq_ok hok
        refine settled_of_revived hs (fun _ => rfl) fun i hi hp hfin => ?_
        simp only [Bool.and_eq_true, beq_iff_eq] at hp
        exact hstrands ⟨(hrelinkable i hp.2).1 ▸ hfin, i, hi, hp.1, hp.2⟩

theorem settled_cancelBatch (hs : Settled s) (batchId : String) (now : Instant) :
    Settled (step py s (.cancelBatch batchId now)) := by
  refine hs.stateAfter fun result s' hok => ?_
  rw [controlResult_eq_ok hok]
  refine Settled.update_batches ?_ _ _ fun _ => rfl
  refine hs.update_items _ _ (fun _ => by rfl) fun i _ _ hout => ?_
  cases hout

theorem settled_recoverExpiredLeases (hs : Settled s) (batchId : String) (now : Instant) :
    Settled (step py s (.recoverExpiredLeases batchId now)) := by
  refine hs.stateAfter fun result s' hok => ?_
  obtain ⟨-, rfl⟩ := Prod.mk.inj (Except.ok.inj hok)
  refine (hs.update_items _ _ (fun _ => by rfl) fun i _ hp _ => ?_).refresh batchId now
  simp only [Bool.and_eq_true, beq_iff_eq] at hp
  simp [hp.1.1.2, BatchItemStatus.outstanding]

/-- One call keeps every finished batch settled exactly when it strands no item. -/
theorem settled_step_iff (hs : Settled s) (call : BatchCall) :
    Settled (step py s call) ↔ ¬ Strands s call := by
  have hplain {call : BatchCall} (hnot : Strands s call = False) (h : Settled (step py s call)) :
      Settled (step py s call) ↔ ¬ Strands s call := by simp [hnot, h]
  cases call with
  | createBatch request callerContext idempotencyKey batchId itemId now =>
      exact hplain rfl (settled_createBatch hs request callerContext idempotencyKey batchId itemId
        now)
  | acquireDispatchItems batchId workerId leaseSeconds limit leaseToken now =>
      exact hplain rfl (settled_acquireDispatchItems hs batchId workerId leaseSeconds limit
        leaseToken now)
  | heartbeatItemLease batchItemId leaseToken leaseSeconds now =>
      refine hplain rfl (hs.stateAfter fun item s' hok => ?_)
      exact hs.updateItem (fun _ => by rfl) (fun i _ _ hout => hout) hok
  | markItemWaitingOnReportJob batchItemId leaseToken reportJobId now =>
      refine hplain rfl (hs.stateAfter fun item s' hok => ?_)
      refine hs.updateItem (fun _ => by rfl) (fun i _ hp _ => ?_) hok
      simp only [BatchLedger.holdsLease, Bool.and_eq_true, beq_iff_eq] at hp
      simp [hp.2, BatchItemStatus.outstanding]
  | markItemSucceeded batchItemId reportJobId now =>
      refine hplain rfl (hs.thenRefresh fun item s' hok => ?_)
      refine hs.updateItem (fun _ => by rfl) (fun i _ _ hout => ?_) hok
      cases hout
  | markItemFailed batchItemId errorCategory errorSummary retryable maxAttempts nextRetryAt now =>
      refine hplain rfl (hs.thenRefresh fun item s' hok => ?_)
      refine hs.updateItem (fun _ => by rfl) (fun i _ _ hout => ?_) hok
      have := batchItemFailureOutcome_not_outstanding retryable (i.attemptCount + 1) maxAttempts
      exact absurd (this.symm.trans hout) (by simp)
  | retryFailedItems batchId maxAttempts now =>
      exact settled_retryFailedItems hs batchId maxAttempts now
  | pauseBatch batchId now =>
      refine hplain rfl (hs.stateAfter fun result s' hok => ?_)
      rw [controlResult_eq_ok hok]
      exact hs.update_batches _ _ fun _ => rfl
  | resumeBatch batchId now =>
      refine hplain rfl (hs.stateAfter fun result s' hok => ?_)
      rw [controlResult_eq_ok hok]
      exact hs.update_batches _ _ fun _ => rfl
  | cancelBatch batchId now => exact hplain rfl (settled_cancelBatch hs batchId now)
  | recoverExpiredLeases batchId now =>
      exact hplain rfl (settled_recoverExpiredLeases hs batchId now)
  | relinkFailedItemForReplay batchId batchItemId replayedReportJobId maxAttempts now =>
      exact settled_relinkFailedItemForReplay hs batchId batchItemId replayedReportJobId
        maxAttempts now

end Step

/-- In a run of the batch ledger every finished batch is settled at every moment exactly when no
call of the run moves a failed item of a finished batch back to a live status. -/
theorem settled_run_iff (py : Runtime) (calls : List BatchCall) :
    (∀ n, Settled (run (step py) BatchLedger.empty (calls.take n))) ↔
      Along (step py) (fun s call => ¬ Strands s call) BatchLedger.empty calls := by
  have hempty : Settled BatchLedger.empty := by simp [Settled, BatchLedger.empty]
  exact run_invariant_iff (I := Settled) (fun _ call hs => settled_step_iff hs call) hempty calls

/-- A single-portfolio batch whose item fails at dispatch and is retried by the operator. -/
def retriedBatchRun : List BatchCall :=
  [ .createBatch
      { selectorMode := .explicitPortfolioList
        portfolioIds := ["PF_1"]
        sourceCandidates :=
          [{ portfolioId := "PF_1", tenantId := "tenant-sg", region := "APAC", active := true }]
        asOfDate := "2026-04-22" }
      { triggeredBy := "advisor-123", callerApplication := "lotus-gateway",
        tenantId := "tenant-sg", region := "APAC", correlationId := "corr", traceId := "trace" }
      (some "key-1") "rbch_1" (fun n => "rbit_" ++ toString n) 0,
    .acquireDispatchItems "rbch_1" "worker-1" 60 10 "lease_1" 1000000,
    .markItemFailed "rbit_1" "dispatch_failed" "Dispatch failed." true 3 none 2000000,
    .retryFailedItems "rbch_1" 3 3000000 ]

/-- After the retry the batch is stored as failed while its item waits for dispatch. -/
theorem not_settled_retriedBatchRun :
    ¬ ∀ n, Settled (run (step Runtime.verbatim) BatchLedger.empty (retriedBatchRun.take n)) := by
  intro h
  exact absurd (h 4) (by decide)

end LotusReport.Batch
