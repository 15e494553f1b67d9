import LotusReport.Batch.Ledger

/-!
# What a call does to the batch ledger

The inversion of the calls of the batch ledger. A call that changes items
takes each of them through one `ItemStep`, which states the condition that the
item met and the columns that were written; a creation adds a batch with its
items. The results about runs of the ledger are case analyses over these steps.
-/

namespace LotusReport.Batch

open Encoding Relational StateMachine

section Transactions

variable {s s' : BatchLedger}

@[simp] theorem items_refreshBatchStatus (batchId : String) (now : Instant) :
    (s.refreshBatchStatus batchId now).items = s.items := by
  unfold BatchLedger.refreshBatchStatus
  split <;> rfl

/-- A fenced update of one item changes the rows that meet the fence, and there is one. -/
theorem updateItem_eq_ok {batchItemId : String} {p : BatchItemRow → Bool}
    {a : ItemAssignment}
    {missing : BatchLedgerError} {item : BatchItemRow}
    (h : s.updateItem batchItemId p a missing = .ok (item, s')) :
    s' = { s with items := s.items.update (fun i => i.batchItemId == batchItemId && p i) a } ∧
      item ∈ s'.items.rows := by
  unfold BatchLedger.updateItem at h
  split at h
  · simp only at h
    split at h
    · rename_i item' hitem
      obtain ⟨rfl, rfl⟩ := Prod.mk.inj (Except.ok.inj h)
      exact ⟨rfl, Table.mem_of_find? hitem⟩
    · cases h
  · cases h

theorem updateItem_mem {batchItemId : String} {p : BatchItemRow → Bool}
    {a : ItemAssignment}
    {missing : BatchLedgerError} {item : BatchItemRow}
    (h : s.updateItem batchItemId p a missing = .ok (item, s')) :
    ∃ i ∈ s.items.rows, i.batchItemId = batchItemId ∧ a.set i = item := by
  unfold BatchLedger.updateItem at h
  split at h
  · rename_i hany
    obtain ⟨i, hi, hp⟩ := List.any_eq_true.mp hany
    have hid : i.batchItemId = batchItemId := by
      simp only [Bool.and_eq_true, beq_iff_eq] at hp
      exact hp.1
    have hmem : a.set i ∈
        (s.items.update (fun i => i.batchItemId == batchItemId && p i) a).rows :=
      Table.mem_update.mpr (Or.inr ⟨i, hi, hp, rfl⟩)
    have hfind := Table.find?_key hmem
    rw [a.key_set, hid] at hfind
    simp only [hfind] at h
    exact ⟨i, hi, hid, (Prod.mk.inj (Except.ok.inj h)).1⟩
  · cases h

/-- A fenced update succeeds on the item that meets its fence. -/
theorem updateItem_of_mem {batchItemId : String} {p : BatchItemRow → Bool}
    {a : ItemAssignment}
    {missing : BatchLedgerError} {i : BatchItemRow} (hi : i ∈ s.items.rows)
    (hid : i.batchItemId = batchItemId) (hp : p i = true) :
    s.updateItem batchItemId p a missing = .ok (a.set i,
      { s with items := s.items.update (fun i => i.batchItemId == batchItemId && p i) a }) := by
  have hany : (s.items.rows.any fun i => i.batchItemId == batchItemId && p i) = true :=
    List.any_eq_true.mpr ⟨i, hi, by simp [hid, hp]⟩
  have hmem : a.set i ∈ (s.items.update (fun i => i.batchItemId == batchItemId && p i) a).rows :=
    Table.mem_update.mpr (Or.inr ⟨i, hi, by simp [hid, hp], rfl⟩)
  have hfind := Table.find?_key hmem
  rw [a.key_set, hid] at hfind
  simp only [BatchLedger.updateItem, hany, hfind, if_true]

theorem controlResult_eq_ok {batchId : String} {n : Nat} {result : BatchControlResult}
    (h : BatchLedger.controlResult batchId n s = .ok (result, s')) : s' = s := by
  unfold BatchLedger.controlResult BatchLedger.loadBatch at h
  split at h
  · simp only [bind, Except.bind, pure, Except.pure, Except.ok.injEq, Prod.mk.injEq] at h
    exact h.2.symm
  · cases h

theorem stateAfter_controlResult {batchId : String} {n : Nat} {b : BatchRow}
    (hb : b ∈ s'.batches.rows) (hid : b.batchId = batchId) :
    stateAfter s (BatchLedger.controlResult batchId n s') = s' := by
  have hfind : s'.batches.find? batchId = some b := hid ▸ Table.find?_key hb
  simp [BatchLedger.controlResult, BatchLedger.loadBatch, hfind, stateAfter, bind, Except.bind,
    pure, Except.pure]

theorem stateAfter_cases {α : Type} (t : Transaction (α × BatchLedger)) :
    stateAfter s t = s ∨ ∃ result s', t = .ok (result, s') ∧ stateAfter s t = s' := by
  match t with
  | .ok (result, s') => exact Or.inr ⟨result, s', rfl, rfl⟩
  | .error _ => exact Or.inl rfl

theorem thenRefresh_eq_ok {now : Instant} {t : Transaction (BatchItemRow × BatchLedger)}
    {item : BatchItemRow} (h : BatchLedger.thenRefresh now t = .ok (item, s')) :
    ∃ u, t = .ok (item, u) ∧ s' = u.refreshBatchStatus item.batchId now := by
  match t with
  | .ok (item', u) =>
      obtain ⟨rfl, rfl⟩ := Prod.mk.inj (Except.ok.inj h)
      exact ⟨u, rfl, rfl⟩
  | .error _ => cases h

end Transactions

section Creation

variable {s s' : BatchLedger}

/-- An item as the creation of its batch inserts it. -/
structure NewItem (batchId normalizedKey asOfDate : String) (i : BatchItemRow) : Prop where
  batch : i.batchId = batchId
  status : i.status = .materialized
  job : i.reportJobId = none
  lease : i.lease = {}
  key : ∃ n : Nat, i.itemIdempotencyKey =
    normalizedKey ++ ":" ++ asOfDate ++ ":" ++ toString n ++ ":" ++ i.portfolioId

/-- A creation adds the batch `row` with the items `new`. -/
structure Created (s : BatchLedger) (request : BatchCreateRequest)
    (callerContext : ReportCallerContext) (idempotencyKey : Option String) (row : BatchRow)
    (new : List BatchItemRow) (s' : BatchLedger) : Prop where
  fresh : s.batches.find? row.batchId = none
  novel : s.batches.lookup? row.idempotencyKey = none
  key : row.idempotencyKey = strip (idempotencyKey.getD "")
  status : row.status = .materialized
  tenant : row.tenantId = callerContext.tenantId
  region : row.region = callerContext.region
  asOfDate : row.asOfDate = request.asOfDate
  options : row.options = Json.canonical (.obj request.options)
  batches : s'.batches.rows = s.batches.rows ++ [row]
  items : s'.items.rows = s.items.rows ++ new
  new : ∀ i ∈ new, NewItem row.batchId row.idempotencyKey row.asOfDate i

theorem insertItem_eq_ok {item : BatchItemRow} (h : s.insertItem item = .ok s') :
    s'.batches = s.batches ∧ s'.items.rows = s.items.rows ++ [item] := by
  unfold BatchLedger.insertItem at h
  split at h
  · cases h
  · split at h
    · rename_i items hitems
      cases h
      exact ⟨rfl, ((Table.insert?_eq_some_iff _ _ _).mp hitems).2.2⟩
    · cases h

theorem insertItems_eq_ok {normalizedKey asOfDate batchId : String} {itemId : Nat → String}
    {now : Timestamp} {position : Nat} {portfolios : List MaterializedPortfolio}
    (h : BatchLedger.insertItems normalizedKey asOfDate batchId itemId now position portfolios s =
      .ok s') :
    s'.batches = s.batches ∧ ∃ new, s'.items.rows = s.items.rows ++ new ∧
      ∀ i ∈ new, NewItem batchId normalizedKey asOfDate i := by
  induction portfolios generalizing position s with
  | nil =>
      cases h
      exact ⟨rfl, [], by simp, by simp⟩
  | cons portfolio portfolios ih =>
      simp only [BatchLedger.insertItems, bind, Except.bind] at h
      split at h
      · cases h
      · rename_i s₁ hs₁
        obtain ⟨hbatches, hrows⟩ := insertItem_eq_ok hs₁
        obtain ⟨hbatches', new, hrows', hnew⟩ := ih h
        refine ⟨hbatches'.trans hbatches, _ :: new, by rw [hrows', hrows]; simp; rfl, ?_⟩
        intro i hi
        rcases List.mem_cons.mp hi with rfl | hi
        · exact ⟨rfl, rfl, rfl, rfl, position, rfl⟩
        · exact hnew i hi

/-- A creation changes nothing, or adds one materialized batch and items of it. -/
theorem createBatch_eq_ok {py : Runtime} {request : BatchCreateRequest}
    {callerContext : ReportCallerContext} {idempotencyKey : Option String} {batchId : String}
    {itemId : Nat → String} {now : Instant} {record : ReportBatchRecord}
    (h : s.createBatch py request callerContext idempotencyKey batchId itemId now =
      .ok (record, s')) :
    s' = s ∨ ∃ row new, row.batchId = batchId ∧
      Created s request callerContext idempotencyKey row new s' := by
  unfold BatchLedger.createBatch at h
  simp only [bind, Except.bind, pure, Except.pure] at h
  split at h
  · cases h
  · split at h
    · cases h
    · split at h
      · split at h
        · cases h
        · split at h
          · cases h
          · exact Or.inl (Prod.mk.inj (Except.ok.inj h)).2.symm
      · rename_i hnovel
        split at h
        · cases h
        · rename_i batches hinsert
          split at h
          · cases h
          · rename_i s₁ hs₁
            split at h
            · cases h
            · obtain ⟨-, rfl⟩ := Prod.mk.inj (Except.ok.inj h)
              obtain ⟨hfresh, -, hrows⟩ := (Table.insert?_eq_some_iff _ _ _).mp hinsert
              obtain ⟨hbatches, new, hitems, hnew⟩ := insertItems_eq_ok hs₁
              have hrows' := (congrArg Table.rows hbatches).trans hrows
              exact Or.inr ⟨_, new, by rfl, hfresh, hnovel, by rfl, by rfl, by rfl, by rfl, by rfl,
                by rfl, hrows', hitems, hnew⟩

end Creation

section Items

variable {py : Runtime} {s : BatchLedger} {call : BatchCall} {i i' : BatchItemRow}

/-- What a call does to an item that it changes, with the condition that the item met. -/
inductive ItemStep (s : BatchLedger) : BatchCall → BatchItemRow → BatchItemRow → Prop where
  | acquire {batchId workerId : String} {leaseSeconds limit : Int} {leaseToken : String}
      {now : Instant} {i : BatchItemRow}
      (h : s.acquirable batchId (dtToText now) i = true) :
      ItemStep s (.acquireDispatchItems batchId workerId leaseSeconds limit leaseToken now) i
        { i with
          status := .leased
          lease :=
            { owner := some workerId
              token := some leaseToken
              acquiredAt := some (dtToText now)
              expiresAt := some (dtToText (now + seconds leaseSeconds))
              lastHeartbeatAt := some (dtToText now) }
          startedAt := BatchLedger.coalesce (dtToText now) i.startedAt }
  | heartbeat {batchItemId leaseToken : String} {leaseSeconds : Int} {now : Instant}
      {i : BatchItemRow} (h : BatchLedger.holdsLease batchItemId leaseToken i = true) :
      ItemStep s (.heartbeatItemLease batchItemId leaseToken leaseSeconds now) i
        { i with
          lease :=
            { i.lease with
              lastHeartbeatAt := some (dtToText now)
              expiresAt := some (dtToText (now + seconds leaseSeconds)) } }
  | dispatch {batchItemId leaseToken reportJobId : String} {now : Instant} {i : BatchItemRow}
      (h : BatchLedger.holdsLease batchItemId leaseToken i = true) :
      ItemStep s (.markItemWaitingOnReportJob batchItemId leaseToken reportJobId now) i
        { i with
          status := .waitingOnReportJob
          reportJobId := some reportJobId
          dispatchedAt := some (dtToText now) }
  | succeed {batchItemId reportJobId : String} {now : Instant} {i : BatchItemRow}
      (hid : i.batchItemId = batchItemId) (hjob : i.reportJobId = some reportJobId)
      (hstatus : i.status = .waitingOnReportJob) :
      ItemStep s (.markItemSucceeded batchItemId reportJobId now) i
        { i with
          status := .succeeded
          retryEligible := false
          nextRetryAt := none
          lastErrorCategory := none
          lastErrorSummary := none
          lease := {}
          completedAt := some (dtToText now) }
  | fail {batchItemId errorCategory errorSummary : String} {retryable : Bool} {maxAttempts : Nat}
      {nextRetryAt : Option Instant} {now : Instant} {i : BatchItemRow}
      (hid : i.batchItemId = batchItemId) :
      ItemStep s (.markItemFailed batchItemId errorCategory errorSummary retryable maxAttempts
          nextRetryAt now) i
        { i with
          status := (batchItemFailureOutcome retryable (i.attemptCount + 1) maxAttempts).1
          attemptCount := i.attemptCount + 1
          retryEligible := (batchItemFailureOutcome retryable (i.attemptCount + 1) maxAttempts).2
          nextRetryAt := nextRetryAt.map dtToText
          lastErrorCategory := some errorCategory
          lastErrorSummary := some errorSummary
          lease := {}
          completedAt := some (dtToText now) }
  | retry {batchId : String} {maxAttempts : Nat} {now : Instant} {i : BatchItemRow}
      (h : BatchLedger.retryable batchId maxAttempts (dtToText now) i = true) :
      ItemStep s (.retryFailedItems batchId maxAttempts now) i
        { i with status := .materialized, retryEligible := false, nextRetryAt := none, lease := {} }
  | cancel {batchId : String} {now : Instant} {i : BatchItemRow} (hbatch : i.batchId = batchId)
      (hstatus : i.status.cancelEligible = true) (hjob : i.reportJobId = none) :
      ItemStep s (.cancelBatch batchId now) i
        { i with
          status := .cancelled
          retryEligible := false
          nextRetryAt := none
          lease := {}
          cancelledAt := some (dtToText now) }
  | recover {batchId : String} {now : Instant} {i : BatchItemRow} (hbatch : i.batchId = batchId)
      (hstatus : i.status = .leased) (hjob : i.reportJobId = none)
      (hexpired : BatchLedger.leaseExpired i (dtToText now) = true) :
      ItemStep s (.recoverExpiredLeases batchId now) i
        { i with
          status := .recoveryPending
          retryEligible := true
          lease := {}
          lastErrorCategory := some "expired_item_lease"
          lastErrorSummary := some "Batch item lease expired before report-job dispatch." }
  | relink {batchId batchItemId replayedReportJobId : String} {maxAttempts : Nat} {now : Instant}
      {i : BatchItemRow} (hid : i.batchItemId = batchItemId)
      (h : BatchLedger.relinkable batchId maxAttempts i = true) :
      ItemStep s (.relinkFailedItemForReplay batchId batchItemId replayedReportJobId maxAttempts
          now) i
        { i with
          status := .waitingOnReportJob
          reportJobId := some replayedReportJobId
          retryEligible := false
          nextRetryAt := none
          lease := {}
          lastErrorCategory := none
          lastErrorSummary := none
          startedAt := BatchLedger.coalesce (dtToText now) i.startedAt
          completedAt := none
          cancelledAt := none }

/-- What a call does to the item table. -/
inductive ItemsStep (s : BatchLedger) : BatchCall → BatchLedger → Prop where
  | same {call : BatchCall} {s' : BatchLedger} (h : s'.items = s.items) : ItemsStep s call s'
  | updated {call : BatchCall} {s' : BatchLedger} {p : BatchItemRow → Bool}
      {a : ItemAssignment}
      (hset : s'.items = s.items.update p a)
      (h : ∀ i ∈ s.items.rows, p i = true → ItemStep s call i (a.set i)) : ItemsStep s call s'
  | created {request : BatchCreateRequest} {callerContext : ReportCallerContext}
      {idempotencyKey : Option String} {itemId : Nat → String} {now : Instant} {row : BatchRow}
      {new : List BatchItemRow} {s' : BatchLedger}
      (h : Created s request callerContext idempotencyKey row new s') :
      ItemsStep s (.createBatch request callerContext idempotencyKey row.batchId itemId now) s'

theorem acquirable_of_selected {batchId : String} {now : Instant} {limit : Nat}
    (hi : i ∈ s.items.rows) (hselected : i.batchItemId ∈
      ((BatchLedger.byPosition (s.items.rows.filter (s.acquirable batchId (dtToText now)))).take
        limit).map (·.batchItemId)) :
    s.acquirable batchId (dtToText now) i = true := by
  obtain ⟨j, hj, hji⟩ := List.mem_map.mp hselected
  obtain ⟨hmem, hacquirable⟩ := List.mem_filter.mp
    ((List.perm_insertionSort _ _).mem_iff.mp (List.mem_of_mem_take hj))
  have heq : j = i := List.inj_on_of_nodup_map s.items.key_nodup hmem hi hji
  exact heq ▸ hacquirable

theorem itemsStep_updateItem {batchItemId : String} {p : BatchItemRow → Bool}
    {a : ItemAssignment}
    {missing : BatchLedgerError}
    (h : ∀ i, i.batchItemId = batchItemId → p i = true → ItemStep s call i (a.set i)) :
    ItemsStep s call (stateAfter s (s.updateItem batchItemId p a missing)) ∧
      ∀ now, ItemsStep s call
        (stateAfter s (BatchLedger.thenRefresh now (s.updateItem batchItemId p a missing))) := by
  cases hupdate : s.updateItem batchItemId p a missing with
  | error e => exact ⟨.same rfl, fun _ => .same rfl⟩
  | ok result =>
      obtain ⟨item, s'⟩ := result
      obtain ⟨rfl, -⟩ := updateItem_eq_ok hupdate
      have hstep : ∀ i ∈ s.items.rows, (i.batchItemId == batchItemId && p i) = true →
          ItemStep s call i (a.set i) := by
        intro i _ hp
        simp only [Bool.and_eq_true, beq_iff_eq] at hp
        exact h i hp.1 hp.2
      refine ⟨.updated rfl hstep, fun now => .updated ?_ hstep⟩
      exact items_refreshBatchStatus _ _

theorem itemsStep_controlResult {batchId : String} {n : Nat} {s' : BatchLedger}
    (h : ItemsStep s call s') :
    ItemsStep s call (stateAfter s (BatchLedger.controlResult batchId n s')) := by
  rcases stateAfter_cases (s := s) (BatchLedger.controlResult batchId n s') with
    hsame | ⟨result, t, hok, ht⟩
  · exact .same (by rw [hsame])
  · rw [ht, controlResult_eq_ok hok]
    exact h

/-- Every call changes the item table by item steps, or creates a batch. -/
theorem step_itemsStep (py : Runtime) (s : BatchLedger) (call : BatchCall) :
    ItemsStep s call (step py s call) := by
  cases call with
  | createBatch request callerContext idempotencyKey batchId itemId now =>
      rw [step]
      rcases stateAfter_cases (s := s)
        (s.createBatch py request callerContext idempotencyKey batchId itemId now) with
        hsame | ⟨record, t, hok, ht⟩
      · exact .same (by rw [hsame])
      · rw [ht]
        rcases createBatch_eq_ok hok with rfl | ⟨row, new, rfl, hcreated⟩
        · exact .same rfl
        · exact .created hcreated
  | acquireDispatchItems batchId workerId leaseSeconds limit leaseToken now =>
      rw [step, BatchLedger.acquireDispatchItems]
      simp only
      split
      · exact .same rfl
      · refine .updated rfl fun i hi hp => ?_
        exact .acquire (acquirable_of_selected hi (of_decide_eq_true hp))
  | heartbeatItemLease batchItemId leaseToken leaseSeconds now =>
      exact (itemsStep_updateItem fun i _ hp => .heartbeat hp).1
  | markItemWaitingOnReportJob batchItemId leaseToken reportJobId now =>
      exact (itemsStep_updateItem fun i _ hp => .dispatch hp).1
  | markItemSucceeded batchItemId reportJobId now =>
      refine (itemsStep_updateItem fun i hid hp => ?_).2 now
      simp only [Bool.and_eq_true, beq_iff_eq] at hp
      exact .succeed hid hp.1 hp.2
  | markItemFailed batchItemId errorCategory errorSummary retryable maxAttempts nextRetryAt now =>
      exact (itemsStep_updateItem fun i hid _ => .fail hid).2 now
  | retryFailedItems batchId maxAttempts now =>
      refine itemsStep_controlResult (.updated (items_refreshBatchStatus _ _) fun i _ hp => ?_)
      exact .retry hp
  | pauseBatch batchId now => exact itemsStep_controlResult (.same rfl)
  | resumeBatch batchId now => exact itemsStep_controlResult (.same rfl)
  | cancelBatch batchId now =>
      refine itemsStep_controlResult (.updated rfl fun i _ hp => ?_)
      simp only [Bool.and_eq_true, beq_iff_eq, Option.isNone_iff_eq_none] at hp
      exact .cancel hp.1.1 hp.1.2 hp.2
  | recoverExpiredLeases batchId now =>
      refine .updated (items_refreshBatchStatus _ _) fun i _ hp => ?_
      simp only [Bool.and_eq_true, beq_iff_eq, Option.isNone_iff_eq_none] at hp
      exact .recover hp.1.1.1 hp.1.1.2 hp.1.2 hp.2
  | relinkFailedItemForReplay batchId batchItemId replayedReportJobId maxAttempts now =>
      rw [step, BatchLedger.relinkFailedItemForReplay]
      split
      · cases hload : s.loadBatch batchId <;> exact .same (by rfl)
      · split
        · exact .same rfl
        · exact (itemsStep_updateItem fun i hid hp => .relink hid hp).2 now

/-- An item after a call is an old one, changed or not, or was created by the call. -/
theorem item_of_step (hi' : i' ∈ (step py s call).items.rows) :
    (∃ i ∈ s.items.rows, i' = i ∨ ItemStep s call i i') ∨
      ∃ batchId key asOfDate, NewItem batchId key asOfDate i' ∧
        s.batches.find? batchId = none ∧ s.items.find? i'.batchItemId = none := by
  have hstep := step_itemsStep py s call
  generalize step py s call = s' at hi' hstep
  cases hstep with
  | same h => exact Or.inl ⟨i', h ▸ hi', Or.inl rfl⟩
  | updated hset h =>
      rw [hset] at hi'
      rcases Table.mem_update.mp hi' with ⟨hold, -⟩ | ⟨i, hi, hp, rfl⟩
      · exact Or.inl ⟨i', hold, Or.inl rfl⟩
      · exact Or.inl ⟨i, hi, Or.inr (h i hi hp)⟩
  | created h =>
      have hmem := hi'
      rw [h.items, List.mem_append] at hi'
      rcases hi' with hi' | hi'
      · exact Or.inl ⟨i', hi', Or.inl rfl⟩
      · refine Or.inr ⟨_, _, _, h.new i' hi', h.fresh, (Table.find?_eq_none_iff _ _).mpr ?_⟩
        intro r hr hid
        have hnodup := s'.items.key_nodup
        rw [h.items, List.map_append] at hnodup
        exact List.disjoint_of_nodup_append hnodup (List.mem_map_of_mem hr)
          (hid ▸ List.mem_map_of_mem hi')

/-- An item is still there after a call, changed or not. -/
theorem step_item (py : Runtime) (call : BatchCall) (hi : i ∈ s.items.rows) :
    ∃ i' ∈ (step py s call).items.rows, i' = i ∨ ItemStep s call i i' := by
  have hstep := step_itemsStep py s call
  generalize step py s call = s' at hstep
  cases hstep with
  | same h => exact ⟨i, h ▸ hi, Or.inl rfl⟩
  | @updated _ _ p a hset h =>
      cases hp : p i with
      | false => exact ⟨i, hset ▸ Table.mem_update.mpr (Or.inl ⟨hi, hp⟩), Or.inl rfl⟩
      | true =>
          exact ⟨a.set i, hset ▸ Table.mem_update.mpr (Or.inr ⟨i, hi, hp, rfl⟩),
            Or.inr (h i hi hp)⟩
  | created h => exact ⟨i, by rw [h.items]; exact List.mem_append_left _ hi, Or.inl rfl⟩

theorem ItemStep.batchItemId (h : ItemStep s call i i') : i'.batchItemId = i.batchItemId := by
  cases h <;> rfl

theorem ItemStep.batchId (h : ItemStep s call i i') : i'.batchId = i.batchId := by
  cases h <;> rfl

end Items

section Batches

variable {py : Runtime} {s : BatchLedger} {call : BatchCall} {b b' : BatchRow}

/-- The batch goes on under the same request: only its status and its times may change. -/
def BatchRow.Continues (b b' : BatchRow) : Prop :=
  b' = { b with
    status := b'.status
    updatedAt := b'.updatedAt
    startedAt := b'.startedAt
    completedAt := b'.completedAt
    cancelledAt := b'.cancelledAt
    failedAt := b'.failedAt }

/-- What a call does to the batch table. -/
inductive BatchesStep (s : BatchLedger) : BatchCall → BatchLedger → Prop where
  | same {call : BatchCall} {s' : BatchLedger} (h : s'.batches = s.batches) : BatchesStep s call s'
  | updated {call : BatchCall} {s' : BatchLedger} {p : BatchRow → Bool}
      {a : Table.Assignment BatchRow.batchId BatchRow.idempotencyKey}
      (hset : s'.batches = s.batches.update p a) (h : ∀ b : BatchRow, b.Continues (a.set b)) :
      BatchesStep s call s'
  | created {request : BatchCreateRequest} {callerContext : ReportCallerContext}
      {idempotencyKey : Option String} {itemId : Nat → String} {now : Instant} {row : BatchRow}
      {new : List BatchItemRow} {s' : BatchLedger}
      (h : Created s request callerContext idempotencyKey row new s') :
      BatchesStep s (.createBatch request callerContext idempotencyKey row.batchId itemId now) s'

theorem batchesStep_refresh (items : Table BatchItemRow.batchItemId BatchItemRow.itemIdempotencyKey)
    (batchId : String) (now : Instant) :
    BatchesStep s call (BatchLedger.refreshBatchStatus ⟨s.batches, items⟩ batchId now) := by
  unfold BatchLedger.refreshBatchStatus
  split
  · exact .same rfl
  · exact .updated rfl fun b => rfl

theorem batchesStep_controlResult {batchId : String} {n : Nat} {s' : BatchLedger}
    (h : BatchesStep s call s') :
    BatchesStep s call (stateAfter s (BatchLedger.controlResult batchId n s')) := by
  rcases stateAfter_cases (s := s) (BatchLedger.controlResult batchId n s') with
    hsame | ⟨result, t, hok, ht⟩
  · exact .same (by rw [hsame])
  · rw [ht, controlResult_eq_ok hok]
    exact h

theorem batchesStep_updateItem {batchItemId : String} {p : BatchItemRow → Bool}
    {a : ItemAssignment}
    {missing : BatchLedgerError} :
    BatchesStep s call (stateAfter s (s.updateItem batchItemId p a missing)) ∧
      ∀ now, BatchesStep s call
        (stateAfter s (BatchLedger.thenRefresh now (s.updateItem batchItemId p a missing))) := by
  cases hupdate : s.updateItem batchItemId p a missing with
  | error e => exact ⟨.same rfl, fun _ => .same rfl⟩
  | ok result =>
      obtain ⟨item, s'⟩ := result
      obtain ⟨rfl, -⟩ := updateItem_eq_ok hupdate
      exact ⟨.same rfl, fun now => batchesStep_refresh _ _ _⟩

theorem step_batchesStep (py : Runtime) (s : BatchLedger) (call : BatchCall) :
    BatchesStep s call (step py s call) := by
  cases call with
  | createBatch request callerContext idempotencyKey batchId itemId now =>
      rw [step]
      rcases stateAfter_cases (s := s)
        (s.createBatch py request callerContext idempotencyKey batchId itemId now) with
        hsame | ⟨record, t, hok, ht⟩
      · exact .same (by rw [hsame])
      · rw [ht]
        rcases createBatch_eq_ok hok with rfl | ⟨row, new, rfl, hcreated⟩
        · exact .same rfl
        · exact .created hcreated
  | acquireDispatchItems batchId workerId leaseSeconds limit leaseToken now =>
      rw [step, BatchLedger.acquireDispatchItems]
      simp only
      split
      · exact .same rfl
      · exact .updated rfl fun b => rfl
  | heartbeatItemLease batchItemId leaseToken leaseSeconds now => exact batchesStep_updateItem.1
  | markItemWaitingOnReportJob batchItemId leaseToken reportJobId now =>
      exact batchesStep_updateItem.1
  | markItemSucceeded batchItemId reportJobId now => exact batchesStep_updateItem.2 now
  | markItemFailed batchItemId errorCategory errorSummary retryable maxAttempts nextRetryAt now =>
      exact batchesStep_updateItem.2 now
  | retryFailedItems batchId maxAttempts now =>
      exact batchesStep_controlResult (batchesStep_refresh _ _ _)
  | pauseBatch batchId now => exact batchesStep_controlResult (.updated rfl fun b => rfl)
  | resumeBatch batchId now => exact batchesStep_controlResult (.updated rfl fun b => rfl)
  | cancelBatch batchId now => exact batchesStep_controlResult (.updated rfl fun b => rfl)
  | recoverExpiredLeases batchId now => exact batchesStep_refresh _ _ _
  | relinkFailedItemForReplay batchId batchItemId replayedReportJobId maxAttempts now =>
      rw [step, BatchLedger.relinkFailedItemForReplay]
      split
      · cases hload : s.loadBatch batchId <;> exact .same (by rfl)
      · split
        · exact .same rfl
        · exact batchesStep_updateItem.2 now

/-- A batch after a call is an old one under the same request, or was created by the call. -/
theorem batch_of_step (hb' : b' ∈ (step py s call).batches.rows) :
    (∃ b ∈ s.batches.rows, b.Continues b') ∨
      ∃ request callerContext idempotencyKey itemId now new,
        call = .createBatch request callerContext idempotencyKey b'.batchId itemId now ∧
          Created s request callerContext idempotencyKey b' new (step py s call) := by
  have hstep := step_batchesStep py s call
  generalize step py s call = s' at hb' hstep ⊢
  cases hstep with
  | same h => exact Or.inl ⟨b', h ▸ hb', rfl⟩
  | updated hset h =>
      rw [hset] at hb'
      rcases Table.mem_update.mp hb' with ⟨hold, -⟩ | ⟨b, hb, -, rfl⟩
      · exact Or.inl ⟨b', hold, rfl⟩
      · exact Or.inl ⟨b, hb, h b⟩
  | created h =>
      rw [h.batches, List.mem_append, List.mem_singleton] at hb'
      rcases hb' with hold | rfl
      · exact Or.inl ⟨b', hold, rfl⟩
      · exact Or.inr ⟨_, _, _, _, _, _, rfl, h⟩

/-- A batch is still there after a call, under the same request. -/
theorem step_batch (py : Runtime) (call : BatchCall) (hb : b ∈ s.batches.rows) :
    ∃ b' ∈ (step py s call).batches.rows, b.Continues b' := by
  have hstep := step_batchesStep py s call
  generalize step py s call = s' at hstep
  cases hstep with
  | same h => exact ⟨b, h ▸ hb, rfl⟩
  | @updated _ _ p a hset h =>
      cases hp : p b with
      | false => exact ⟨b, hset ▸ Table.mem_update.mpr (Or.inl ⟨hb, hp⟩), rfl⟩
      | true => exact ⟨a.set b, hset ▸ Table.mem_update.mpr (Or.inr ⟨b, hb, hp, rfl⟩), h b⟩
  | created h => exact ⟨b, by rw [h.batches]; exact List.mem_append_left _ hb, rfl⟩

theorem BatchRow.Continues.batchId (h : b.Continues b') : b'.batchId = b.batchId := by
  rw [h]

end Batches

section Linked

variable {py : Runtime} {s : BatchLedger}

/-- Every item belongs to a stored batch. -/
def BatchLedger.Linked (s : BatchLedger) : Prop :=
  ∀ i ∈ s.items.rows, ∃ b ∈ s.batches.rows, b.batchId = i.batchId

theorem BatchLedger.Linked.step (hs : s.Linked) (call : BatchCall) : (step py s call).Linked := by
  intro i' hi'
  have hkept : ∀ {i : BatchItemRow}, i ∈ s.items.rows → i'.batchId = i.batchId →
      ∃ b ∈ (Batch.step py s call).batches.rows, b.batchId = i'.batchId := by
    intro i hi hbatch
    obtain ⟨b, hb, hid⟩ := hs i hi
    obtain ⟨b', hb', hcontinues⟩ := step_batch py call hb
    exact ⟨b', hb', by rw [hcontinues.batchId, hid, hbatch]⟩
  have hstep := step_itemsStep py s call
  have hold : (∃ i ∈ s.items.rows, i'.batchId = i.batchId) ∨
      ∃ b ∈ (Batch.step py s call).batches.rows, b.batchId = i'.batchId := by
    generalize Batch.step py s call = s' at hi' hstep ⊢
    cases hstep with
    | same h => exact Or.inl ⟨i', h ▸ hi', rfl⟩
    | updated hset h =>
        rw [hset] at hi'
        rcases Table.mem_update.mp hi' with ⟨hi, -⟩ | ⟨i, hi, hp, rfl⟩
        · exact Or.inl ⟨i', hi, rfl⟩
        · exact Or.inl ⟨i, hi, (h i hi hp).batchId⟩
    | @created _ _ _ _ _ row _ _ h =>
        rw [h.items, List.mem_append] at hi'
        rcases hi' with hi | hi
        · exact Or.inl ⟨i', hi, rfl⟩
        · refine Or.inr ⟨row, ?_, (h.new i' hi).batch.symm⟩
          rw [h.batches]
          simp
  rcases hold with ⟨i, hi, hbatch⟩ | hnew
  · exact hkept hi hbatch
  · exact hnew

theorem linked_run (py : Runtime) (calls : List BatchCall) :
    (run (Batch.step py) BatchLedger.empty calls).Linked :=
  run_induction (I := BatchLedger.Linked) (fun _ call hs => hs.step call)
    (by intro i hi; cases hi) calls

end Linked

section Sample

/-- The caller of the closed examples. -/
def sampleCaller : ReportCallerContext where
  triggeredBy := "advisor-123"
  callerApplication := "lotus-gateway"
  tenantId := "tenant-sg"
  region := "APAC"
  correlationId := "corr"
  traceId := "trace"

/-- The creation of batch `rbch_1` with one item `rbit_1` for every portfolio. -/
def sampleBatch (portfolioIds : List String) : BatchCall :=
  .createBatch
    { selectorMode := .explicitPortfolioList
      portfolioIds := portfolioIds
      sourceCandidates := portfolioIds.map fun portfolioId =>
        { portfolioId := portfolioId, tenantId := "tenant-sg", region := "APAC", active := true }
      asOfDate := "2026-04-22" }
    sampleCaller (some "key-1") "rbch_1" (fun n => "rbit_" ++ toString n) 0

/-- The batch, with its items dispatched to jobs `rjob_1`, `rjob_2` and so on. -/
def dispatchedBatch (portfolioIds : List String) : List BatchCall :=
  [ sampleBatch portfolioIds,
    .acquireDispatchItems "rbch_1" "worker-1" 60 10 "lease_1" 1000000 ] ++
  portfolioIds.mapIdx fun n _ =>
    .markItemWaitingOnReportJob ("rbit_" ++ toString (n + 1)) "lease_1"
      ("rjob_" ++ toString (n + 1)) 2000000

end Sample

end LotusReport.Batch
