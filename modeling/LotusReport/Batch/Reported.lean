import LotusReport.Batch.Changes

/-!
# The reported status of a batch

The settlement of an item refreshes the stored status of its batch, unless the
batch is paused or cancelled. So the stored status of every other batch is the
one that its items amount to, as long as no control call changes the batch
behind the refresh: `resume_batch` resets the status of a batch whose items may
have settled in the meantime, and `cancel_batch` cancels items of a finished
batch without touching its status.
-/

namespace LotusReport.Batch

open Encoding Relational StateMachine

/-- The status that the items of a batch amount to. -/
def BatchLedger.itemsStatus (s : BatchLedger) (batchId : String) : Option BatchStatus :=
  reconciledBatchStatus ((s.itemsOf batchId).map (·.status))

/-- Every batch that is neither paused nor cancelled has the status that its items amount to. -/
def Reported (s : BatchLedger) : Prop :=
  ∀ b ∈ s.batches.rows, b.status.refreshBlocked = false →
    ∀ status, s.itemsStatus b.batchId = some status → b.status = status

instance (s : BatchLedger) : Decidable (Reported s) :=
  decidable_of_iff (∀ b ∈ s.batches.rows, b.status.refreshBlocked = false →
      (s.itemsStatus b.batchId).all (fun status => b.status == status) = true) (by
    refine forall₃_congr fun b _ _ => ?_
    cases s.itemsStatus b.batchId <;> simp)

/-- The status of an item after its batch was cancelled. -/
def BatchItemRow.cancelledStatus (i : BatchItemRow) : BatchItemStatus :=
  if i.status.cancelEligible && i.reportJobId.isNone then .cancelled else i.status

/-- The call resumes a batch whose items have settled, or cancels items of a finished batch that
then amount to another status. -/
def Misreports (s : BatchLedger) : BatchCall → Prop
  | .resumeBatch batchId _ => ∃ b ∈ s.batches.rows, b.batchId = batchId ∧ b.status = .paused ∧
      (s.itemsStatus batchId).isSome = true
  | .cancelBatch batchId _ => ∃ b ∈ s.batches.rows, b.batchId = batchId ∧
      b.status.finished = true ∧ ∃ status,
        reconciledBatchStatus ((s.itemsOf batchId).map (·.cancelledStatus)) = some status ∧
          b.status ≠ status
  | _ => False

section Batches

variable {s s' : BatchLedger} {batchId : String}

/-- Items reconcile to a final status or to `cancelled`. -/
theorem not_active_of_reconciled {statuses : List BatchItemStatus} {status : BatchStatus}
    (h : reconciledBatchStatus statuses = some status) : status.active = false := by
  unfold reconciledBatchStatus at h
  split_ifs at h <;> cases h <;> rfl

theorem itemsOf_update_of_ne {p : BatchItemRow → Bool}
    {a : ItemAssignment}
    (hbatch : ∀ i, (a.set i).batchId = i.batchId)
    (hp : ∀ i ∈ s.items.rows, p i = true → i.batchId = batchId) {other : String}
    (hne : other ≠ batchId) {batches : Table BatchRow.batchId BatchRow.idempotencyKey} :
    BatchLedger.itemsOf ⟨batches, s.items.update p a⟩ other = s.itemsOf other := by
  have hkept : ((fun i : BatchItemRow => i.batchId == other) ∘ fun i => if p i then a.set i else i) =
      fun i => i.batchId == other := by
    funext i
    by_cases hpi : p i <;> simp [hpi, hbatch]
  simp only [BatchLedger.itemsOf, Table.update]
  rw [List.filter_map, hkept]
  conv_rhs => rw [← List.map_id (s.items.rows.filter _)]
  apply List.map_congr_left
  intro i hi
  obtain ⟨hmem, hother⟩ := List.mem_filter.mp hi
  cases hpi : p i with
  | false => simp
  | true => exact absurd ((beq_iff_eq.mp hother).symm.trans (hp i hmem hpi)) hne

theorem itemsStatus_update_of_status {p : BatchItemRow → Bool}
    {a : ItemAssignment}
    (hbatch : ∀ i, (a.set i).batchId = i.batchId) (hstatus : ∀ i, (a.set i).status = i.status)
    {batches : Table BatchRow.batchId BatchRow.idempotencyKey} :
    BatchLedger.itemsStatus ⟨batches, s.items.update p a⟩ batchId = s.itemsStatus batchId := by
  have hkept : ((fun i : BatchItemRow => i.batchId == batchId) ∘
      fun i => if p i then a.set i else i) = fun i => i.batchId == batchId := by
    funext i
    by_cases hpi : p i <;> simp [hpi, hbatch]
  simp only [BatchLedger.itemsStatus, BatchLedger.itemsOf, Table.update]
  rw [List.filter_map, hkept, List.map_map]
  congr 1
  apply List.map_congr_left
  intro i _
  by_cases hpi : p i <;> simp [hpi, hstatus]

/-- When a change touches one batch, the ledger stays reported exactly when that batch is. -/
theorem reported_iff_of_batch (batchId : String) (hs : Reported s)
    (hother : ∀ b ∈ s'.batches.rows, b.batchId ≠ batchId →
      b ∈ s.batches.rows ∧ s'.itemsOf b.batchId = s.itemsOf b.batchId) :
    Reported s' ↔ ∀ b ∈ s'.batches.rows, b.batchId = batchId → b.status.refreshBlocked = false →
      ∀ status, s'.itemsStatus batchId = some status → b.status = status := by
  constructor
  · rintro h b hb rfl
    exact h b hb
  · intro h b hb hopen status hstatus
    by_cases hid : b.batchId = batchId
    · exact h b hb hid hopen status (hid ▸ hstatus)
    · obtain ⟨hmem, hitems⟩ := hother b hb hid
      refine hs b hmem hopen status ?_
      rwa [BatchLedger.itemsStatus, ← hitems]

theorem itemsStatus_of_outstanding {i : BatchItemRow} (hi : i ∈ s.items.rows)
    (hid : i.batchId = batchId) (hout : i.status.outstanding = true) :
    s.itemsStatus batchId = none := by
  cases hstatus : s.itemsStatus batchId with
  | none => rfl
  | some status =>
      have hmem : i.status ∈ (s.itemsOf batchId).map (·.status) :=
        List.mem_map_of_mem (List.mem_filter.mpr ⟨hi, by simpa using hid⟩)
      rw [not_outstanding_of_reconciled hstatus hmem] at hout
      cases hout

/-- A batch after a refresh is an old one, or it is the refreshed one with its items' status. -/
theorem batch_of_refresh {now : Instant} {b : BatchRow}
    (hb : b ∈ (s.refreshBatchStatus batchId now).batches.rows) :
    (b ∈ s.batches.rows ∧ (b.batchId = batchId → b.status.refreshBlocked = false →
      s.itemsStatus batchId = none)) ∨
      b.batchId = batchId ∧ s.itemsStatus batchId = some b.status := by
  unfold BatchLedger.refreshBatchStatus at hb
  split at hb
  · rename_i hnone
    exact Or.inl ⟨hb, fun _ _ => hnone⟩
  · rename_i status hstatus
    rcases Table.mem_update.mp hb with ⟨hold, hp⟩ | ⟨b', hb', hp, rfl⟩
    · refine Or.inl ⟨hold, fun hid hopen => ?_⟩
      simp [hid, hopen] at hp
    · simp only [Bool.and_eq_true, beq_iff_eq] at hp
      exact Or.inr ⟨hp.1, hstatus⟩

theorem reported_refresh (hs : Reported s) {now : Instant}
    (hbatches : s'.batches = s.batches)
    (hitems : ∀ other, other ≠ batchId → s'.itemsOf other = s.itemsOf other) :
    Reported (s'.refreshBatchStatus batchId now) := by
  have hkept : ∀ other, (s'.refreshBatchStatus batchId now).itemsOf other = s'.itemsOf other := by
    intro other
    simp [BatchLedger.itemsOf]
  refine (reported_iff_of_batch batchId hs fun b hb hne => ?_).mpr fun b hb hid hopen status hstatus => ?_
  · rcases batch_of_refresh hb with ⟨hold, -⟩ | ⟨hid, -⟩
    · exact ⟨hbatches ▸ hold, by rw [hkept, hitems _ hne]⟩
    · exact absurd hid hne
  · have hbefore : s'.itemsStatus batchId = some status := by
      rwa [BatchLedger.itemsStatus, hkept] at hstatus
    rcases batch_of_refresh hb with ⟨-, hnone⟩ | ⟨-, hsome⟩
    · rw [hnone hid hopen] at hbefore
      cases hbefore
    · exact Option.some.inj (hsome.symm.trans hbefore)

theorem reported_of_outstanding (batchId : String) (hs : Reported s) {i : BatchItemRow}
    (hi : i ∈ s'.items.rows) (hid : i.batchId = batchId) (hout : i.status.outstanding = true)
    (hother : ∀ b ∈ s'.batches.rows, b.batchId ≠ batchId →
      b ∈ s.batches.rows ∧ s'.itemsOf b.batchId = s.itemsOf b.batchId) : Reported s' := by
  refine (reported_iff_of_batch batchId hs hother).mpr fun b _ _ _ status hstatus => ?_
  rw [itemsStatus_of_outstanding hi hid hout] at hstatus
  cases hstatus

theorem Reported.stateAfter {α : Type} (hs : Reported s) {t : Transaction (α × BatchLedger)}
    (h : ∀ result s', t = .ok (result, s') → Reported s') : Reported (stateAfter s t) := by
  rcases stateAfter_cases (s := s) t with hsame | ⟨result, s', hok, hafter⟩
  · rwa [hsame]
  · rw [hafter]
    exact h result s' hok

end Batches

section Step

variable {py : Runtime} {s : BatchLedger}

theorem reported_thenRefresh (hs : Reported s) {batchItemId : String} {p : BatchItemRow → Bool}
    {a : ItemAssignment}
    {missing : BatchLedgerError} (hbatch : ∀ i, (a.set i).batchId = i.batchId) (now : Instant) :
    Reported (stateAfter s
      (BatchLedger.thenRefresh now (s.updateItem batchItemId p a missing))) := by
  refine hs.stateAfter fun item s' hok => ?_
  obtain ⟨u, hupdate, rfl⟩ := thenRefresh_eq_ok hok
  obtain ⟨i, hi, hid, hset⟩ := updateItem_mem hupdate
  obtain ⟨rfl, -⟩ := updateItem_eq_ok hupdate
  refine reported_refresh hs rfl fun other hne => itemsOf_update_of_ne hbatch ?_ hne
  intro j hj hp
  simp only [Bool.and_eq_true, beq_iff_eq] at hp
  have heq : j = i := List.inj_on_of_nodup_map s.items.key_nodup hj hi (hp.1.trans hid.symm)
  rw [heq, ← hset, hbatch]

theorem reported_createBatch (hs : Reported s) (hlinked : s.Linked) (request : BatchCreateRequest)
    (callerContext : ReportCallerContext) (idempotencyKey : Option String) (batchId : String)
    (itemId : Nat → String) (now : Instant) :
    Reported (step py s
      (.createBatch request callerContext idempotencyKey batchId itemId now)) := by
  refine hs.stateAfter fun record s' hok => ?_
  rcases createBatch_eq_ok hok with rfl | ⟨row, new, -, hcreated⟩
  · exact hs
  have hfresh := (Table.find?_eq_none_iff _ _).mp hcreated.fresh
  have hnew : s'.itemsOf row.batchId = new := by
    have hold : s.items.rows.filter (fun i => i.batchId == row.batchId) = [] := by
      refine List.filter_eq_nil_iff.mpr fun i hi hid => ?_
      obtain ⟨b, hb, hbid⟩ := hlinked i hi
      exact hfresh b hb (hbid.trans (beq_iff_eq.mp hid))
    rw [BatchLedger.itemsOf, hcreated.items, List.filter_append, hold, List.nil_append]
    exact List.filter_eq_self.mpr fun i hi => by simp [(hcreated.new i hi).batch]
  refine (reported_iff_of_batch row.batchId hs fun b hb hne => ?_).mpr
    fun b _ _ _ status hstatus => ?_
  · rw [hcreated.batches, List.mem_append, List.mem_singleton] at hb
    refine ⟨hb.resolve_right fun heq => hne (by rw [heq]), ?_⟩
    have hothers : new.filter (fun i => i.batchId == b.batchId) = [] := by
      refine List.filter_eq_nil_iff.mpr fun i hi hid => hne ?_
      exact (beq_iff_eq.mp hid).symm.trans (hcreated.new i hi).batch
    simp [BatchLedger.itemsOf, hcreated.items, hothers]
  · rw [BatchLedger.itemsStatus, hnew] at hstatus
    cases new with
    | nil => cases hstatus
    | cons i new =>
        have hi := hcreated.new i List.mem_cons_self
        have hquiet := not_outstanding_of_reconciled hstatus (s := i.status) (by simp)
        rw [hi.status] at hquiet
        cases hquiet

theorem reported_acquireDispatchItems (hs : Reported s) (batchId workerId : String)
    (leaseSeconds limit : Int) (leaseToken : String) (now : Instant) :
    Reported (step py s
      (.acquireDispatchItems batchId workerId leaseSeconds limit leaseToken now)) := by
  rw [step, BatchLedger.acquireDispatchItems]
  simp only
  split
  · exact hs
  · rename_i hselected
    simp only [Bool.or_eq_true, decide_eq_true_eq, List.isEmpty_iff, not_or] at hselected
    obtain ⟨i, hi⟩ := List.exists_mem_of_ne_nil _ hselected.2
    obtain ⟨hmem, hacquirable⟩ := List.mem_filter.mp
      ((List.perm_insertionSort _ _).mem_iff.mp (List.mem_of_mem_take hi))
    have hbatchOf : ∀ i : BatchItemRow, s.acquirable batchId (dtToText now) i = true →
        i.batchId = batchId := by
      intro i h
      simp only [BatchLedger.acquirable, Bool.and_eq_true, beq_iff_eq] at h
      exact h.1.1.1
    refine reported_of_outstanding batchId hs
      (Table.mem_update.mpr (Or.inr ⟨i, hmem, ?_, rfl⟩)) (hbatchOf i hacquirable) rfl
      fun b hb hne => ⟨?_, itemsOf_update_of_ne (fun _ => rfl) ?_ hne⟩
    · exact decide_eq_true (List.mem_map_of_mem hi)
    · rcases Table.mem_update.mp hb with ⟨hold, -⟩ | ⟨b', -, hp, rfl⟩
      · exact hold
      · simp only [Bool.and_eq_true, beq_iff_eq] at hp
        exact absurd hp.1 hne
    · intro j hj hp
      exact hbatchOf j (acquirable_of_selected hj (of_decide_eq_true hp))

/-- A control call that only updates its batch takes effect: a missing batch has no row to update. -/
theorem stateAfter_control {batchId : String} {n : Nat} {p : BatchRow → Bool}
    {a : Table.Assignment BatchRow.batchId BatchRow.idempotencyKey}
    (hp : ∀ b, p b = true → b.batchId = batchId) :
    stateAfter s (BatchLedger.controlResult batchId n { s with batches := s.batches.update p a }) =
      { s with batches := s.batches.update p a } := by
  by_cases hknown : ∃ b ∈ s.batches.rows, b.batchId = batchId
  · obtain ⟨b, hb, hid⟩ := hknown
    obtain ⟨b', hb', hid'⟩ : ∃ b' ∈ (s.batches.update p a).rows, b'.batchId = batchId := by
      cases hpb : p b with
      | false => exact ⟨b, Table.mem_update.mpr (Or.inl ⟨hb, hpb⟩), hid⟩
      | true => exact ⟨a.set b, Table.mem_update.mpr (Or.inr ⟨b, hb, hpb, rfl⟩),
          (a.key_set b).trans hid⟩
    exact stateAfter_controlResult hb' hid'
  · have hsame : s.batches.update p a = s.batches := by
      refine Table.update_of_none fun b hb => Bool.eq_false_iff.mpr fun hpb => hknown ?_
      exact ⟨b, hb, hp b hpb⟩
    rw [hsame]
    rcases stateAfter_cases (s := s) (BatchLedger.controlResult batchId n s) with
      h | ⟨result, s', hok, h⟩
    · exact h
    · rw [h, controlResult_eq_ok hok]

theorem mem_batches_of_ne {batches : Table BatchRow.batchId BatchRow.idempotencyKey}
    {batchId : String} {p : BatchRow → Bool}
    {a : Table.Assignment BatchRow.batchId BatchRow.idempotencyKey}
    (hp : ∀ b, p b = true → b.batchId = batchId) {b : BatchRow}
    (hb : b ∈ (batches.update p a).rows) (hne : b.batchId ≠ batchId) : b ∈ batches.rows := by
  rcases Table.mem_update.mp hb with ⟨hold, -⟩ | ⟨b', -, hpb, rfl⟩
  · exact hold
  · exact absurd ((a.key_set b').trans (hp b' hpb)) hne

theorem reported_pauseBatch (hs : Reported s) (batchId : String) (now : Instant) :
    Reported (step py s (.pauseBatch batchId now)) := by
  have hp : ∀ b : BatchRow, (b.batchId == batchId && b.status.active) = true →
      b.batchId = batchId := by
    intro b h
    simp only [Bool.and_eq_true, beq_iff_eq] at h
    exact h.1
  rw [step, BatchLedger.pauseBatch, stateAfter_control hp]
  intro b hb hopen status hstatus
  rcases Table.mem_update.mp hb with ⟨hold, -⟩ | ⟨b', -, -, rfl⟩
  · exact hs b hold hopen status hstatus
  · cases hopen

/-- A resumed batch is reported exactly when its items had not settled. -/
theorem reported_resumeBatch (hs : Reported s) (batchId : String) (now : Instant) :
    Reported (step py s (.resumeBatch batchId now)) ↔
      ¬ Misreports s (.resumeBatch batchId now) := by
  have hp : ∀ b : BatchRow, (b.batchId == batchId && b.status == .paused) = true →
      b.batchId = batchId := by
    intro b h
    simp only [Bool.and_eq_true, beq_iff_eq] at h
    exact h.1
  rw [step, BatchLedger.resumeBatch, stateAfter_control hp]
  constructor
  · rintro h ⟨b, hb, hid, hpaused, hsettled⟩
    obtain ⟨status, hstatus⟩ := Option.isSome_iff_exists.mp hsettled
    have hmaterialized := h _ (Table.mem_update.mpr (Or.inr ⟨b, hb, by simp [hid, hpaused], rfl⟩))
      rfl status (hid ▸ hstatus)
    have hactive := not_active_of_reconciled hstatus
    rw [← hmaterialized] at hactive
    cases hactive
  · intro h b hb hopen status hstatus
    rcases Table.mem_update.mp hb with ⟨hold, -⟩ | ⟨b', hb', hpb, rfl⟩
    · exact hs b hold hopen status hstatus
    · simp only [Bool.and_eq_true, beq_iff_eq] at hpb
      refine absurd ⟨b', hb', hpb.1, hpb.2, Option.isSome_iff_exists.mpr ⟨status, ?_⟩⟩ h
      exact hpb.1 ▸ hstatus

/-- The items of a cancelled batch amount to what their statuses after the cancellation say. -/
theorem itemsStatus_cancelled {batchId : String} {batches : Table BatchRow.batchId BatchRow.idempotencyKey}
    {a : ItemAssignment}
    (hbatch : ∀ i, (a.set i).batchId = i.batchId) (hstatus : ∀ i, (a.set i).status = .cancelled) :
    BatchLedger.itemsStatus ⟨batches, s.items.update (fun i => i.batchId == batchId &&
        i.status.cancelEligible && i.reportJobId.isNone) a⟩ batchId =
      reconciledBatchStatus ((s.itemsOf batchId).map (·.cancelledStatus)) := by
  have hkept : ((fun i : BatchItemRow => i.batchId == batchId) ∘ fun i =>
      if i.batchId == batchId && i.status.cancelEligible && i.reportJobId.isNone then a.set i
      else i) = fun i => i.batchId == batchId := by
    funext i
    simp only [Function.comp_apply]
    split <;> simp [hbatch]
  simp only [BatchLedger.itemsStatus, BatchLedger.itemsOf, Table.update]
  rw [List.filter_map, hkept, List.map_map]
  congr 1
  apply List.map_congr_left
  intro i hi
  have hid := (List.mem_filter.mp hi).2
  simp only [Function.comp_apply, hid, Bool.true_and, BatchItemRow.cancelledStatus]
  split <;> simp [hstatus]

/-- A cancelled batch is reported, unless it was finished and its items now amount to another
status. -/
theorem reported_cancelBatch (hs : Reported s) (batchId : String) (now : Instant) :
    Reported (step py s (.cancelBatch batchId now)) ↔
      ¬ Misreports s (.cancelBatch batchId now) := by
  by_cases hknown : ∃ b ∈ s.batches.rows, b.batchId = batchId
  · obtain ⟨b, hb, hid⟩ := hknown
    obtain ⟨b', hb', hid'⟩ : ∃ b' ∈ (s.batches.update (fun b => b.batchId == batchId &&
        !b.status.finished) (BatchLedger.batchSet .cancelled (dtToText now) id id
          (fun _ => some (dtToText now)) id)).rows, b'.batchId = batchId := by
      cases hfin : b.status.finished with
      | true => exact ⟨b, Table.mem_update.mpr (Or.inl ⟨hb, by simp [hfin]⟩), hid⟩
      | false => exact ⟨_, Table.mem_update.mpr (Or.inr ⟨b, hb, by simp [hid, hfin], rfl⟩), hid⟩
    rw [step, BatchLedger.cancelBatch]
    rw [stateAfter_controlResult (by exact hb') hid']
    have hother : ∀ i ∈ s.items.rows, (i.batchId == batchId && i.status.cancelEligible &&
        i.reportJobId.isNone) = true → i.batchId = batchId := by
      intro i _ hp
      simp only [Bool.and_eq_true, beq_iff_eq] at hp
      exact hp.1.1
    rw [reported_iff_of_batch batchId hs fun b hb hne => ⟨mem_batches_of_ne (fun b hp => ?_) hb hne,
      itemsOf_update_of_ne (fun _ => rfl) hother hne⟩]
    · rw [itemsStatus_cancelled (fun _ => rfl) fun _ => rfl]
      constructor
      · rintro h ⟨b, hb, hid, hfin, status, hstatus, hne⟩
        refine hne (h b (Table.mem_update.mpr (Or.inl ⟨hb, by simp [hfin]⟩)) hid ?_ status hstatus)
        revert hfin
        cases b.status <;> simp [BatchStatus.finished, BatchStatus.refreshBlocked]
      · intro h b hb hid hopen status hstatus
        rcases Table.mem_update.mp hb with ⟨hold, hp⟩ | ⟨b'', -, -, rfl⟩
        · by_contra hne
          refine h ⟨b, hold, hid, ?_, status, hstatus, hne⟩
          simpa [hid] using hp
        · cases hopen
    · simp only [Bool.and_eq_true, beq_iff_eq] at hp
      exact hp.1
  · have hsame : step py s (.cancelBatch batchId now) = s := by
      rw [step, BatchLedger.cancelBatch]
      rw [Table.update_of_none (t := s.batches) fun b hb => ?_]
      · have hnone : s.batches.find? batchId = none :=
          (Table.find?_eq_none_iff _ _).mpr fun b hb hid => hknown ⟨b, hb, hid⟩
        simp [BatchLedger.controlResult, BatchLedger.loadBatch, hnone, stateAfter, bind, Except.bind]
      · simp [show b.batchId ≠ batchId from fun hid => hknown ⟨b, hb, hid⟩]
    rw [hsame]
    refine iff_of_true hs ?_
    rintro ⟨b, hb, hid, -⟩
    exact hknown ⟨b, hb, hid⟩

theorem reported_step_iff (py : Runtime) (hs : Reported s) (hlinked : s.Linked) (call : BatchCall) :
    Reported (step py s call) ↔ ¬ Misreports s call := by
  have hplain {call : BatchCall} (hnot : Misreports s call = False)
      (h : Reported (step py s call)) : Reported (step py s call) ↔ ¬ Misreports s call := by
    simp [hnot, h]
  cases call with
  | createBatch request callerContext idempotencyKey batchId itemId now =>
      exact hplain rfl (reported_createBatch hs hlinked request callerContext idempotencyKey batchId
        itemId now)
  | acquireDispatchItems batchId workerId leaseSeconds limit leaseToken now =>
      exact hplain rfl (reported_acquireDispatchItems hs batchId workerId leaseSeconds limit
        leaseToken now)
  | heartbeatItemLease batchItemId leaseToken leaseSeconds now =>
      refine hplain rfl (hs.stateAfter fun item s' hok => ?_)
      obtain ⟨rfl, -⟩ := updateItem_eq_ok hok
      intro b hb hopen status hstatus
      refine hs b hb hopen status ?_
      rwa [itemsStatus_update_of_status (fun _ => rfl) fun _ => rfl] at hstatus
  | markItemWaitingOnReportJob batchItemId leaseToken reportJobId now =>
      refine hplain rfl (hs.stateAfter fun item s' hok => ?_)
      obtain ⟨i, hi, hid, hset⟩ := updateItem_mem hok
      obtain ⟨rfl, hmem⟩ := updateItem_eq_ok hok
      refine reported_of_outstanding i.batchId hs hmem (hset ▸ rfl : item.batchId = i.batchId) (hset ▸ rfl)
        fun b hb hne => ⟨hb, itemsOf_update_of_ne (fun _ => rfl) (fun j hj hp => ?_) hne⟩
      simp only [Bool.and_eq_true, beq_iff_eq] at hp
      rw [List.inj_on_of_nodup_map s.items.key_nodup hj hi (hp.1.trans hid.symm)]
  | markItemSucceeded batchItemId reportJobId now =>
      exact hplain rfl (reported_thenRefresh hs (fun _ => rfl) now)
  | markItemFailed batchItemId errorCategory errorSummary retryable maxAttempts nextRetryAt now =>
      exact hplain rfl (reported_thenRefresh hs (fun _ => rfl) now)
  | retryFailedItems batchId maxAttempts now =>
      refine hplain rfl (hs.stateAfter fun result s' hok => ?_)
      rw [controlResult_eq_ok hok]
      refine reported_refresh hs rfl fun other hne =>
        itemsOf_update_of_ne (fun _ => rfl) (fun i _ hp => ?_) hne
      simp only [BatchLedger.retryable, Bool.and_eq_true, beq_iff_eq] at hp
      exact hp.1.1.1.1.1
  | pauseBatch batchId now => exact hplain rfl (reported_pauseBatch hs batchId now)
  | resumeBatch batchId now => exact reported_resumeBatch hs batchId now
  | cancelBatch batchId now => exact reported_cancelBatch hs batchId now
  | recoverExpiredLeases batchId now =>
      refine hplain rfl (reported_refresh hs rfl fun other hne =>
        itemsOf_update_of_ne (fun _ => rfl) (fun i _ hp => ?_) hne)
      simp only [Bool.and_eq_true, beq_iff_eq] at hp
      exact hp.1.1.1
  | relinkFailedItemForReplay batchId batchItemId replayedReportJobId maxAttempts now =>
      refine hplain rfl ?_
      rw [step, BatchLedger.relinkFailedItemForReplay]
      split
      · cases hload : s.loadBatch batchId <;> exact hs
      · split
        · exact hs
        · exact reported_thenRefresh hs (fun _ => rfl) now

end Step

/-- In a run of the batch ledger every batch that is neither paused nor cancelled has the status
that its items amount to at every moment, exactly when no call of the run resumes a batch whose
items have settled or cancels items of a finished batch so that they amount to another status. -/
theorem reported_run_iff (py : Runtime) (calls : List BatchCall) :
    (∀ n, Reported (run (step py) BatchLedger.empty (calls.take n))) ↔
      Along (step py) (fun s call => ¬ Misreports s call) BatchLedger.empty calls := by
  have hempty : Reported BatchLedger.empty := by
    intro b hb
    cases hb
  rw [← run_invariant_iff (I := fun s => Reported s ∧ s.Linked) (fun s call hs => ?_)
    ⟨hempty, linked_run py []⟩ calls]
  · exact forall_congr' fun n => ⟨fun h => ⟨h, linked_run py _⟩, And.left⟩
  · rw [← reported_step_iff py hs.1 hs.2 call]
    exact ⟨And.left, fun h => ⟨h, hs.2.step call⟩⟩

/-- A batch whose only item succeeds while the batch is paused. -/
def resumedBatchRun : List BatchCall :=
  dispatchedBatch ["PF_1"] ++
    [ .pauseBatch "rbch_1" 3000000,
      .markItemSucceeded "rbit_1" "rjob_1" 4000000,
      .resumeBatch "rbch_1" 5000000 ]

/-- After it is resumed the batch is stored as materialized, though its items amount to completed. -/
theorem not_reported_resumedBatchRun :
    ¬ ∀ n, Reported (run (step Runtime.verbatim) BatchLedger.empty (resumedBatchRun.take n)) := by
  intro h
  exact absurd (h 6) (by decide +kernel)

end LotusReport.Batch
