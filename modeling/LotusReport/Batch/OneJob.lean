import LotusReport.Batch.Dispatch
import LotusReport.Jobs.Idempotency

/-!
# One report job for one dispatched item

Every dispatcher of an item asks for its job under the tenant of the batch and
the key of the item, so all of them are answered with one job, whichever of
them records it. A lease is taken back when its stored end sorts before the
text of the clock reading. The texts agree with the instants except at a
reading without a fraction: there a lease that ends later in the same second
counts as expired. Where no call takes such a lease, the leases of an item
follow each other without overlap.
-/

namespace LotusReport.Batch

open Encoding Relational StateMachine

/-- The instant lies in the second that starts at a reading without a fraction, and after it. -/
def WithinSecondOf (now t : Int) : Prop :=
  now % 1000000 = 0 ∧ now < t ∧ t / 1000000 = now / 1000000

instance (now t : Int) : Decidable (WithinSecondOf now t) :=
  inferInstanceAs (Decidable (_ ∧ _ ∧ _))

/-- The text of an instant sorts before that of a reading if the instant is earlier, or later
within the second of a reading without a fraction. -/
theorem lt_dtToText {t now : Int} (h : (dtToText t).lt (dtToText now) = true) :
    t < now ∨ WithinSecondOf now t := by
  simp only [Timestamp.lt, Timestamp.rank, Timestamp.suffixRank, Timestamp.fraction, dtToText,
    decide_eq_true_eq, Bool.false_eq_true, if_false] at h
  unfold WithinSecondOf
  split_ifs at h <;> omega

section Statements

/-- The items that `acquire_dispatch_items` selects. -/
def BatchLedger.selectedItems (s : BatchLedger) (batchId : String) (limit : Int) (now : Instant) :
    List BatchItemRow :=
  (byPosition (s.items.rows.filter (s.acquirable batchId (dtToText now)))).take limit.toNat

/-- The lease of the item ends within the second of the reading. -/
def EndsWithinSecond (now : Instant) (i : BatchItemRow) : Prop :=
  ∃ e ∈ i.lease.expiresAt, WithinSecondOf now e.instant

/-- No item that the call takes from its worker holds a lease that ends later in the second of
the clock reading. -/
def NotCutShort (s : DispatchState) : DispatchCall → Prop
  | .acquireDispatchItems batchId _ _ limit _ now =>
      ∀ i ∈ s.ledger.selectedItems batchId limit now, ¬ EndsWithinSecond now i
  | .recoverExpiredLeases batchId now =>
      ∀ i ∈ s.ledger.items.rows, i.batchId = batchId → i.status = .leased →
        i.reportJobId = none → ¬ EndsWithinSecond now i
  | _ => True

/-- A dispatcher creates jobs under the tenant of the item's batch. -/
def UnderTenant (s : DispatchState) : DispatchCall → Prop
  | .createPortfolioReviewJob item call =>
      ∀ b ∈ s.ledger.batches.rows, b.batchId = item.batchId →
        call.callerContext.tenantId = b.tenantId
  | _ => True

/-- Every item has at most one job, and its leases do not overlap. -/
structure DispatchedOnce (s : DispatchState) : Prop where
  /-- All creations for an item returned one job. -/
  oneJob : ∀ itemId j k, (itemId, j) ∈ s.created → (itemId, k) ∈ s.created → j = k
  /-- The job is in the job ledger. -/
  stored : ∀ p ∈ s.created, (s.jobs.file? p.2).isSome = true
  /-- The job recorded on an item is the one created for it. -/
  recorded : ∀ i ∈ s.ledger.items.rows, ∀ j, i.reportJobId = some j →
    (i.batchItemId, j) ∈ s.created
  /-- An item is leased again only after the end of every earlier lease. -/
  apart : s.granted.Pairwise fun later earlier =>
    later.batchItemId = earlier.batchItemId → earlier.expiresAt < later.grantedAt

end Statements

section Items

variable {s : BatchLedger} {call : BatchCall} {i i' : BatchItemRow} {g : LeaseGrant}
  {clock : Instant}

/-- The rows are the same item of the same batch, under the same key. -/
structure SameItem (i i' : BatchItemRow) : Prop where
  id : i'.batchItemId = i.batchItemId
  batch : i'.batchId = i.batchId
  key : i'.itemIdempotencyKey = i.itemIdempotencyKey

theorem SameItem.refl (i : BatchItemRow) : SameItem i i := ⟨rfl, rfl, rfl⟩

theorem SameItem.trans {i'' : BatchItemRow} (h : SameItem i i') (h' : SameItem i' i'') :
    SameItem i i'' :=
  ⟨h'.id.trans h.id, h'.batch.trans h.batch, h'.key.trans h.key⟩

theorem ItemStep.sameItem (h : ItemStep s call i i') : SameItem i i' := by
  cases h <;> exact ⟨rfl, rfl, rfl⟩

/-- The item is dispatched or final: it is not leased again before a replay. -/
def Closed (i : BatchItemRow) : Prop :=
  i.reportJobId ≠ none ∨ i.status = .succeeded ∨ i.status = .failedTerminal ∨ i.status = .cancelled

/-- The lease is over, or will never be followed by another, or is the one on the item. -/
def Standing (clock : Instant) (g : LeaseGrant) (i : BatchItemRow) : Prop :=
  g.expiresAt < clock ∨ Closed i ∨
    i.status = .leased ∧ i.lease.expiresAt = some (dtToText g.expiresAt)

theorem not_closed_of_acquirable {batchId : String} {now : Timestamp}
    (h : s.acquirable batchId now i = true) : ¬ Closed i := by
  simp only [BatchLedger.acquirable, Bool.and_eq_true, Bool.or_eq_true, beq_iff_eq,
    Option.isNone_iff_eq_none] at h
  obtain ⟨⟨⟨-, hjob⟩, -⟩, hstatus⟩ := h
  rintro (hlinked | hfinal)
  · exact hlinked hjob
  · rcases hstatus with ((h | h) | ⟨h, -⟩) | ⟨⟨h, -⟩, -⟩ <;> simp [h] at hfinal

/-- A lease that the texts call expired is over, unless it is cut short. -/
theorem over_of_leaseExpired {now : Instant} (hclock : now ≤ clock)
    (hlease : i.lease.expiresAt = some (dtToText g.expiresAt))
    (hexpired : BatchLedger.leaseExpired i (dtToText now) = true)
    (hkept : ¬ EndsWithinSecond now i) : g.expiresAt < clock := by
  simp only [BatchLedger.leaseExpired, hlease, Option.any_some] at hexpired
  rcases lt_dtToText hexpired with hlt | hwithin
  · exact lt_of_lt_of_le hlt hclock
  · exact absurd ⟨_, hlease, hwithin⟩ hkept

/-- A lease on an item that an acquisition takes is over. -/
theorem over_of_acquirable {batchId : String} {now : Instant} (hclock : now ≤ clock)
    (h : Standing clock g i) (hacquirable : s.acquirable batchId (dtToText now) i = true)
    (hkept : ¬ EndsWithinSecond now i) : g.expiresAt < clock := by
  rcases h with hover | hclosed | ⟨hstatus, hlease⟩
  · exact hover
  · exact absurd hclosed (not_closed_of_acquirable hacquirable)
  · refine over_of_leaseExpired hclock hlease ?_ hkept
    simp only [BatchLedger.acquirable, hstatus, Bool.and_eq_true, Bool.or_eq_true, beq_iff_eq,
      reduceCtorEq, false_or, false_and, or_false, true_and] at hacquirable
    exact hacquirable.2

end Items

section Acquisition

variable {s s' : BatchLedger} {batchId workerId leaseToken : String} {leaseSeconds limit : Int}
  {now : Instant} {i : BatchItemRow} {items : List BatchItemRow}

theorem mem_selectedItems (hi : i ∈ s.selectedItems batchId limit now) :
    i ∈ s.items.rows ∧ s.acquirable batchId (dtToText now) i = true :=
  List.mem_filter.mp ((List.perm_insertionSort _ _).mem_iff.mp (List.mem_of_mem_take hi))

theorem selected_of_id (hi : i ∈ s.items.rows)
    (hid : i.batchItemId ∈ (s.selectedItems batchId limit now).map (·.batchItemId)) :
    i ∈ s.selectedItems batchId limit now := by
  obtain ⟨k, hk, hki⟩ := List.mem_map.mp hid
  have heq : k = i := List.inj_on_of_nodup_map s.items.key_nodup (mem_selectedItems hk).1 hi hki
  exact heq ▸ hk

theorem nodup_byPosition_filter
    (t : Table BatchItemRow.batchItemId BatchItemRow.itemIdempotencyKey) (p : BatchItemRow → Bool) :
    ((BatchLedger.byPosition (t.rows.filter p)).map (·.batchItemId)).Nodup := by
  refine ((List.perm_insertionSort _ _).map _).nodup_iff.mpr ?_
  exact (List.filter_sublist.map _).nodup t.key_nodup

/-- An acquisition leases the selected items and no other. -/
structure Leases (s : BatchLedger) (batchId : String) (limit : Int) (now expiresAt : Instant)
    (items : List BatchItemRow) (s' : BatchLedger) : Prop where
  kept : ∀ i ∈ s.items.rows, i ∈ s'.items.rows ∨
    i ∈ s.selectedItems batchId limit now ∧ ∃ i' ∈ s'.items.rows, i'.batchItemId = i.batchItemId
  distinct : (items.map (·.batchItemId)).Nodup
  leased : ∀ item ∈ items, item ∈ s'.items.rows ∧ item.status = .leased ∧
    item.lease.expiresAt = some (dtToText expiresAt) ∧
    ∃ i ∈ s.selectedItems batchId limit now, SameItem i item

theorem acquireDispatchItems_leases
    (h : s.acquireDispatchItems batchId workerId leaseSeconds limit leaseToken now =
      .ok (items, s')) :
    Leases s batchId limit now (now + seconds leaseSeconds) items s' := by
  unfold BatchLedger.acquireDispatchItems at h
  simp only at h
  split at h
  · obtain ⟨rfl, rfl⟩ := Prod.mk.inj (Except.ok.inj h)
    exact ⟨fun i hi => Or.inl hi, List.nodup_nil, fun item hitem => absurd hitem List.not_mem_nil⟩
  · obtain ⟨rfl, rfl⟩ := Prod.mk.inj (Except.ok.inj h)
    refine ⟨fun i hi => ?_, ?_, fun item hitem => ?_⟩
    · by_cases hid : i.batchItemId ∈ (s.selectedItems batchId limit now).map (·.batchItemId)
      · refine Or.inr ⟨selected_of_id hi hid, ?_⟩
        exact ⟨_, Table.mem_update.mpr (Or.inr ⟨i, hi, decide_eq_true hid, rfl⟩), rfl⟩
      · exact Or.inl (Table.mem_update.mpr (Or.inl ⟨hi, decide_eq_false hid⟩))
    · exact nodup_byPosition_filter _ _
    · obtain ⟨hmem, hid⟩ := List.mem_filter.mp ((List.perm_insertionSort _ _).mem_iff.mp hitem)
      refine ⟨hmem, ?_⟩
      rcases Table.mem_update.mp hmem with ⟨-, hnot⟩ | ⟨i, hi, hp, rfl⟩
      · exact absurd hid (by simpa using hnot)
      · exact ⟨rfl, rfl, i, selected_of_id hi (of_decide_eq_true hp), rfl, rfl, rfl⟩

end Acquisition

section Invariant

variable {d : Jobs.Deployment} {s : DispatchState}

/-- The job is the one that the tenant has under the key. -/
def JobUnder (jobs : Jobs.Ledger) (tenantId itemKey jobId : String) : Prop :=
  ∃ f, jobs.file? jobId = some f ∧ f.request.identity = (tenantId, strip itemKey)

/-- The invariant of dispatch. -/
structure Dispatched (d : Jobs.Deployment) (s : DispatchState) : Prop where
  accepted : ∃ calls, Jobs.Acceptance d calls s.jobs
  linked : s.ledger.Linked
  /-- A created job is the one of the batch's tenant under the item's key. -/
  created : ∀ p ∈ s.created, ∃ i ∈ s.ledger.items.rows, ∃ b ∈ s.ledger.batches.rows,
    i.batchItemId = p.1 ∧ b.batchId = i.batchId ∧
      JobUnder s.jobs b.tenantId i.itemIdempotencyKey p.2
  recorded : ∀ i ∈ s.ledger.items.rows, ∀ j, i.reportJobId = some j →
    (i.batchItemId, j) ∈ s.created
  standing : ∀ g ∈ s.granted, ∃ i ∈ s.ledger.items.rows,
    i.batchItemId = g.batchItemId ∧ Standing s.clock g i
  apart : s.granted.Pairwise fun later earlier =>
    later.batchItemId = earlier.batchItemId → earlier.expiresAt < later.grantedAt

theorem Dispatched.dispatchedOnce (hs : Dispatched d s) : DispatchedOnce s := by
  refine ⟨fun itemId j k hj hk => ?_, fun p hp => ?_, hs.recorded, hs.apart⟩
  · obtain ⟨calls, haccepted⟩ := hs.accepted
    obtain ⟨i, hi, b, hb, hid, hbatch, f, hf, hfid⟩ := hs.created _ hj
    obtain ⟨i', hi', b', hb', hid', hbatch', g, hg, hgid⟩ := hs.created _ hk
    have hitem : i = i' := List.inj_on_of_nodup_map s.ledger.items.key_nodup hi hi'
      (hid.trans hid'.symm)
    have hsame : b = b' := List.inj_on_of_nodup_map s.ledger.batches.key_nodup hb hb'
      (by rw [hbatch, hbatch', hitem])
    exact haccepted.oneJob hf hg (by rw [hfid, hgid, hitem, hsame])
  · obtain ⟨i, -, b, -, -, -, f, hf, -⟩ := hs.created p hp
    rw [hf]
    rfl

/-- The store goes on: items keep their identity, creations stay, the clock advances. -/
structure DispatchState.Later (s t : DispatchState) : Prop where
  items : ∀ i ∈ s.ledger.items.rows, ∃ i' ∈ t.ledger.items.rows, SameItem i i'
  created : ∀ p ∈ s.created, p ∈ t.created
  clock : s.clock ≤ t.clock

theorem DispatchState.Later.refl (s : DispatchState) : s.Later s :=
  ⟨fun i hi => ⟨i, hi, .refl i⟩, fun _ hp => hp, le_refl _⟩

theorem DispatchState.Later.trans {s t u : DispatchState} (h : s.Later t) (h' : t.Later u) :
    s.Later u := by
  refine ⟨fun i hi => ?_, fun p hp => h'.created p (h.created p hp), h.clock.trans h'.clock⟩
  obtain ⟨i', hi', hsame⟩ := h.items i hi
  obtain ⟨i'', hi'', hsame'⟩ := h'.items i' hi'
  exact ⟨i'', hi'', hsame.trans hsame'⟩

/-- The discipline of dispatch: calls under the batch's tenant that cut no lease short. -/
def dispatching (d : Jobs.Deployment) : Discipline DispatchState DispatchCall where
  Inv := Dispatched d
  Later := DispatchState.Later
  Allowed s call := UnderTenant s call ∧ NotCutShort s call
  refl := DispatchState.Later.refl
  trans := DispatchState.Later.trans

theorem later_ledger (d : Jobs.Deployment) (s : DispatchState) (call : BatchCall) (granted : List LeaseGrant) :
    s.Later { s with ledger := Batch.step d.toRuntime s.ledger call, granted := granted } := by
  refine ⟨fun i hi => ?_, fun _ hp => hp, le_refl _⟩
  obtain ⟨i', hi', rfl | hstep⟩ := step_item d.toRuntime call hi
  · exact ⟨i', hi', .refl i'⟩
  · exact ⟨i', hi', hstep.sameItem⟩

/-- A call on the batch ledger keeps the invariant if it records only created jobs and leaves
every lease standing. -/
theorem Dispatched.ledger (hs : Dispatched d s) (call : BatchCall)
    (hrecorded : ∀ i ∈ s.ledger.items.rows, ∀ i', ItemStep s.ledger call i i' →
      ∀ j, i'.reportJobId = some j → i.reportJobId = some j ∨ (i.batchItemId, j) ∈ s.created)
    (hstanding : ∀ g i, i ∈ s.ledger.items.rows → Standing s.clock g i →
      ∃ i' ∈ (Batch.step d.toRuntime s.ledger call).items.rows,
        i'.batchItemId = i.batchItemId ∧ Standing s.clock g i') :
    Dispatched d { s with ledger := Batch.step d.toRuntime s.ledger call } := by
  refine ⟨hs.accepted, hs.linked.step call, fun p hp => ?_, fun i' hi' j hj => ?_,
    fun g hg => ?_, hs.apart⟩
  · obtain ⟨i, hi, b, hb, hid, hbatch, hjob⟩ := hs.created p hp
    obtain ⟨i', hi', hsame⟩ := (later_ledger d s call s.granted).items i hi
    obtain ⟨b', hb', hcontinues⟩ := step_batch d.toRuntime call hb
    refine ⟨i', hi', b', hb', hsame.id.trans hid, ?_, ?_⟩
    · rw [hcontinues.batchId, hbatch, hsame.batch]
    · have htenant : b'.tenantId = b.tenantId := by rw [hcontinues]
      rw [htenant, hsame.key]
      exact hjob
  · rcases item_of_step hi' with ⟨i, hi, rfl | hstep⟩ | ⟨batchId, key, asOfDate, hnew, -, -⟩
    · exact hs.recorded i' hi j hj
    · rw [hstep.batchItemId]
      rcases hrecorded i hi i' hstep j hj with hold | hcreated
      · exact hs.recorded i hi j hold
      · exact hcreated
    · rw [hnew.job] at hj
      cases hj
  · obtain ⟨i, hi, hid, hi'⟩ := hs.standing g hg
    obtain ⟨i', hmem, hsame, hstands⟩ := hstanding g i hi hi'
    exact ⟨i', hmem, hsame.trans hid, hstands⟩

theorem standing_of_itemStep {call : BatchCall}
    (h : ∀ g, ∀ i ∈ s.ledger.items.rows, ∀ i', ItemStep s.ledger call i i' →
      Standing s.clock g i → Standing s.clock g i')
    (g : LeaseGrant) (i : BatchItemRow) (hi : i ∈ s.ledger.items.rows)
    (hstanding : Standing s.clock g i) :
    ∃ i' ∈ (Batch.step d.toRuntime s.ledger call).items.rows,
      i'.batchItemId = i.batchItemId ∧ Standing s.clock g i' := by
  obtain ⟨i', hi', rfl | hstep⟩ := step_item d.toRuntime call hi
  · exact ⟨i', hi', rfl, hstanding⟩
  · exact ⟨i', hi', hstep.batchItemId, h g i hi i' hstep hstanding⟩

end Invariant

section Calls

variable {d : Jobs.Deployment} {s : DispatchState}

/-- A failure of an item that may not be retried closes it. -/
theorem Dispatched.markItemFailed (hs : Dispatched d s) (batchItemId errorCategory errorSummary :
    String) (maxAttempts : Nat) (now : Instant) :
    Dispatched d (s.perform d (.markItemFailed batchItemId errorCategory errorSummary false
      maxAttempts now)).1 := by
  refine hs.ledger (.markItemFailed batchItemId errorCategory errorSummary false maxAttempts
    none now) ?_ (standing_of_itemStep ?_)
  · intro i _ i' hstep j hj
    cases hstep
    exact Or.inl hj
  · intro g i _ i' hstep _
    cases hstep
    exact Or.inr (Or.inl (Or.inr (Or.inr (Or.inl rfl))))

theorem Dispatched.markItemWaiting (hs : Dispatched d s) {batchItemId reportJobId : String}
    (leaseToken : String) (now : Instant) (hcreated : (batchItemId, reportJobId) ∈ s.created) :
    Dispatched d (s.perform d (.markItemWaitingOnReportJob batchItemId leaseToken reportJobId
      now)).1 := by
  refine hs.ledger (.markItemWaitingOnReportJob batchItemId leaseToken reportJobId now)
    ?_ (standing_of_itemStep ?_)
  · intro i _ i' hstep j hj
    cases hstep with
    | dispatch h =>
        simp only [BatchLedger.holdsLease, Bool.and_eq_true, beq_iff_eq] at h
        cases hj
        exact Or.inr (h.1.1 ▸ hcreated)
  · intro g i _ i' hstep _
    cases hstep
    exact Or.inr (Or.inl (Or.inl (by simp)))

theorem Dispatched.recoverExpiredLeases (hs : Dispatched d s) {batchId : String} {now : Instant}
    (hclock : now ≤ s.clock) (hkept : NotCutShort s (.recoverExpiredLeases batchId now)) :
    Dispatched d (s.perform d (.recoverExpiredLeases batchId now)).1 := by
  refine hs.ledger (.recoverExpiredLeases batchId now) ?_ (standing_of_itemStep ?_)
  · intro i _ i' hstep j hj
    cases hstep
    exact Or.inl hj
  · intro g i hi i' hstep hstanding
    cases hstep with
    | recover hbatch hstatus hjob hexpired =>
        left
        rcases hstanding with hover | hclosed | ⟨-, hlease⟩
        · exact hover
        · simp [Closed, hjob, hstatus] at hclosed
        · exact over_of_leaseExpired hclock hlease hexpired (hkept i hi hbatch hstatus hjob)

/-- The calls of other components take no lease. -/
theorem Dispatched.besides (hs : Dispatched d s) {call : BatchCall}
    (hcall : call.besidesDispatch = true) : Dispatched d (s.perform d (.batches call)).1 := by
  refine hs.ledger call ?_ (standing_of_itemStep ?_)
  · intro i _ i' hstep j hj
    cases hstep with
    | dispatch | relink => cases hcall
    | _ => exact Or.inl hj
  · intro g i _ i' hstep hstanding
    cases hstep with
    | succeed => exact Or.inr (Or.inl (Or.inr (Or.inl rfl)))
    | cancel => exact Or.inr (Or.inl (Or.inr (Or.inr (Or.inr rfl))))
    | retry h =>
        simp only [BatchLedger.retryable, Bool.and_eq_true, beq_iff_eq,
          Option.isNone_iff_eq_none] at h
        obtain ⟨⟨⟨⟨⟨-, hstatus⟩, hjob⟩, -⟩, -⟩, -⟩ := h
        left
        rcases hstanding with hover | hclosed | ⟨hleased, -⟩
        · exact hover
        · simp [Closed, hjob, hstatus] at hclosed
        · simp [hstatus] at hleased
    | _ => cases hcall

theorem Dispatched.acquireDispatchItems (hs : Dispatched d s) {batchId workerId leaseToken : String}
    {leaseSeconds limit : Int} {now : Instant} (hclock : now ≤ s.clock)
    (hkept : NotCutShort s
      (.acquireDispatchItems batchId workerId leaseSeconds limit leaseToken now)) :
    Dispatched d (s.perform d
      (.acquireDispatchItems batchId workerId leaseSeconds limit leaseToken now)).1 := by
  obtain ⟨items, ledger, houtcome⟩ : ∃ items ledger, s.ledger.acquireDispatchItems batchId workerId
      leaseSeconds limit leaseToken now = .ok (items, ledger) := by
    unfold BatchLedger.acquireDispatchItems
    simp only
    split <;> exact ⟨_, _, rfl⟩
  have hleases := acquireDispatchItems_leases houtcome
  have hstep : Batch.step d.toRuntime s.ledger (.acquireDispatchItems batchId workerId leaseSeconds
      limit leaseToken now) = ledger := by
    simp only [Batch.step, houtcome, stateAfter]
  -- an earlier lease of a selected item is over
  have hover : ∀ g, ∀ i ∈ s.ledger.selectedItems batchId limit now, Standing s.clock g i →
      g.expiresAt < s.clock := by
    intro g i hi hstanding
    exact over_of_acquirable hclock hstanding (mem_selectedItems hi).2 (hkept i hi)
  have hledger : Dispatched d { s with ledger := ledger } := by
    rw [← hstep]
    refine hs.ledger _ ?_ ?_
    · intro i _ i' hitem j hj
      cases hitem
      exact Or.inl hj
    · intro g i hi hstanding
      rw [hstep]
      rcases hleases.kept i hi with hsame | ⟨hselected, i', hi', hid⟩
      · exact ⟨i, hsame, rfl, hstanding⟩
      · exact ⟨i', hi', hid, Or.inl (hover g i hselected hstanding)⟩
  simp only [DispatchState.perform, houtcome, stateAfter, grantsOf]
  refine ⟨hledger.accepted, hledger.linked, hledger.created, hledger.recorded, fun g hg => ?_, ?_⟩
  · rcases List.mem_append.mp hg with hnew | hold
    · obtain ⟨item, hitem, rfl⟩ := List.mem_map.mp hnew
      obtain ⟨hmem, hstatus, hlease, -⟩ := hleases.leased item hitem
      exact ⟨item, hmem, rfl, Or.inr (Or.inr ⟨hstatus, hlease⟩)⟩
    · exact hledger.standing g hold
  · refine List.pairwise_append.mpr ⟨?_, hs.apart, ?_⟩
    · have hne := List.pairwise_map.mp hleases.distinct
      exact List.pairwise_map.mpr (hne.imp fun hne heq => absurd heq hne)
    · intro later hlater earlier hearlier heq
      obtain ⟨item, hitem, rfl⟩ := List.mem_map.mp hlater
      obtain ⟨-, -, -, i, hi, hsame⟩ := hleases.leased item hitem
      obtain ⟨k, hk, hkid, hstanding⟩ := hs.standing earlier hearlier
      have hki : k = i := List.inj_on_of_nodup_map s.ledger.items.key_nodup hk
        (mem_selectedItems hi).1 (hkid.trans (heq.symm.trans hsame.id))
      exact hover earlier i hi (hki ▸ hstanding)

/-- A call on the job ledger keeps the jobs under their tenants and keys. -/
theorem Dispatched.jobs (hs : Dispatched d s) (call : Jobs.Call) :
    Dispatched d { s with jobs := s.jobs.step d call } := by
  obtain ⟨calls, haccepted⟩ := hs.accepted
  have hwider : Jobs.Acceptance d (calls ++ [call]) s.jobs :=
    haccepted.mono fun c hc => List.mem_append_left _ hc
  refine ⟨⟨calls ++ [call], hwider.step (by simp)⟩, hs.linked, fun p hp => ?_, hs.recorded,
    hs.standing, hs.apart⟩
  obtain ⟨i, hi, b, hb, hid, hbatch, f, hf, hidentity⟩ := hs.created p hp
  obtain ⟨f', hf', hrun⟩ := Jobs.Ledger.step_file (d := d) haccepted.linked call hf
  exact ⟨i, hi, b, hb, hid, hbatch, f', hf', by rw [hrun.request_eq, hidentity]⟩

/-- Time may pass. -/
theorem Dispatched.elapse (hs : Dispatched d s) (duration : Nat) :
    Dispatched d (s.perform d (.elapse duration)).1 := by
  have hclock : s.clock ≤ s.clock + duration := by
    have hnonneg : (0 : Int) ≤ duration := Int.natCast_nonneg duration
    exact le_add_of_nonneg_right hnonneg
  refine ⟨hs.accepted, hs.linked, hs.created, hs.recorded, fun g hg => ?_, hs.apart⟩
  obtain ⟨i, hi, hid, hstanding⟩ := hs.standing g hg
  refine ⟨i, hi, hid, ?_⟩
  rcases hstanding with hover | hrest
  · exact Or.inl (lt_of_lt_of_le hover hclock)
  · exact Or.inr hrest

theorem Dispatched.createJob (hs : Dispatched d s) {item i : BatchItemRow} {call : Jobs.CreateCall}
    (hi : i ∈ s.ledger.items.rows) (hsame : SameItem item i)
    (hkey : call.idempotencyKey = some item.itemIdempotencyKey)
    (htenant : UnderTenant s (.createPortfolioReviewJob item call)) {record : Jobs.JobFile}
    {jobs : Jobs.Ledger} (hcreated : s.jobs.createReportJob d call = .ok (record, jobs)) :
    Dispatched d { s with
      jobs := jobs
      created := s.created ++ [(item.batchItemId, record.job.reportJobId)] } := by
  have hlinked : s.jobs.Linked := hs.accepted.choose_spec.linked
  have hstep : s.jobs.step d (.ledger (.create call)) = jobs := by
    refine Jobs.Ledger.step_of_ok ?_
    simp only [Jobs.Call.perform, Jobs.LedgerCall.perform, hcreated]
    rfl
  have hjobs := hs.jobs (.ledger (.create call))
  rw [hstep] at hjobs
  refine ⟨hjobs.accepted, hs.linked, fun p hp => ?_, fun k hk j hj => ?_, hs.standing, hs.apart⟩
  · rcases List.mem_append.mp hp with hold | hnew
    · exact hjobs.created p hold
    · cases List.mem_singleton.mp hnew
      obtain ⟨b, hb, hbatch⟩ := hs.linked i hi
      obtain ⟨sub, f, hsub, hf, hidentity⟩ := Jobs.createReportJob_file hlinked hcreated
      have hnormalized := (Jobs.submission_eq_ok hsub).key
      have hsubkey : sub.key = strip i.itemIdempotencyKey := by
        simp only [Jobs.CreateCall.normalizedKey, hkey] at hnormalized
        split at hnormalized
        · cases hnormalized
        · rw [hsame.key]
          exact (Option.some.inj hnormalized).symm
      refine ⟨i, hi, b, hb, hsame.id, hbatch, f, hf, ?_⟩
      rw [hidentity, hsubkey, htenant b hb (hbatch.trans hsame.batch)]
  · exact List.mem_append_left _ (hs.recorded k hk j hj)

end Calls

section Programs

variable {d : Jobs.Deployment} {s : DispatchState} {pass : DispatchPass}

/-- The item that a dispatcher holds is one of the store. -/
def Known (s : DispatchState) (item : BatchItemRow) : Prop :=
  ∃ i ∈ s.ledger.items.rows, SameItem item i

theorem Known.later {t : DispatchState} {item : BatchItemRow} (h : Known s item)
    (hlater : s.Later t) : Known t item := by
  obtain ⟨i, hi, hsame⟩ := h
  obtain ⟨i', hi', hsame'⟩ := hlater.items i hi
  exact ⟨i', hi', hsame.trans hsame'⟩

theorem safe_failItem (item : BatchItemRow) (message : String) :
    (dispatching d).Safe (DispatchState.perform d) (fun _ _ => True) (failItem item message) s := by
  refine Discipline.safe_read (fun _ => rfl) fun t _ _ => ?_
  intro u _ hu _
  refine ⟨hu.markItemFailed _ _ _ _ _, later_ledger d u (.markItemFailed _ _ _ _ _ _ _) u.granted, ?_⟩
  exact Discipline.safe_end

theorem safe_linkItem (position : Nat) {item : BatchItemRow} (leaseToken : String)
    (request : Jobs.PortfolioReviewJobRequest) (hitem : Known s item) :
    (dispatching d).Safe (DispatchState.perform d) (fun _ _ => True)
      (linkItem pass position item leaseToken request) s := by
  refine Discipline.safe_read (fun _ => rfl) fun t hst _ => ?_
  intro u htu hu hallowed
  obtain ⟨i, hi, hsame⟩ := (hitem.later hst).later htu
  simp only [DispatchState.perform]
  split
  · rename_i record jobs hcreated
    refine ⟨hu.createJob hi hsame rfl hallowed.1 hcreated,
      ⟨fun i hi => ⟨i, hi, .refl i⟩, fun p hp => List.mem_append_left _ hp, le_refl _⟩, ?_⟩
    -- the job stays among the created ones until it is recorded
    refine Discipline.safe_read (fun _ => rfl) fun v huv _ => ?_
    intro w hvw hw _
    have hmem : (item.batchItemId, record.job.reportJobId) ∈ w.created :=
      hvw.created _ (huv.created _ (List.mem_append_right _ List.mem_cons_self))
    refine ⟨hw.markItemWaiting _ _ hmem, later_ledger d w (.markItemWaitingOnReportJob _ _ _ _)
      w.granted, ?_⟩
    beta_reduce
    split <;> exact Discipline.safe_end
  · exact ⟨hu, .refl u, Discipline.safe_end⟩

theorem safe_dispatchItems {batch : BatchRow} (items : List BatchItemRow) (position : Nat)
    (reportJobIds : List String) (hitems : ∀ item ∈ items, Known s item) (hs : Dispatched d s) :
    (dispatching d).Safe (DispatchState.perform d) (fun _ _ => True)
      (dispatchItems pass batch position items reportJobIds) s := by
  induction items generalizing position reportJobIds s with
  | nil => exact Discipline.safe_end
  | cons item items ih =>
      have hrest : ∀ t, s.Later t → ∀ k ∈ items, Known t k := fun t hst k hk =>
        (hitems k (List.mem_cons_of_mem item hk)).later hst
      unfold dispatchItems
      split
      · exact Discipline.safe_end
      · split
        · refine (safe_failItem item _).bind hs fun outcome t hst ht _ => ?_
          split
          · exact Discipline.safe_end
          · exact ih _ _ (hrest t hst) ht
        · have hitem := hitems item List.mem_cons_self
          refine (safe_linkItem position _ _ hitem).bind hs fun outcome t hst ht _ => ?_
          split
          · exact Discipline.safe_end
          · exact ih _ _ (hrest t hst) ht

theorem safe_dispatchLeased {batch : BatchRow} {load : BatchRuntimeLoad} :
    (dispatching d).Safe (DispatchState.perform d) (fun _ _ => True)
      (dispatchLeased pass batch load) s := by
  refine Discipline.safe_read (fun _ => rfl) fun t _ _ => ?_
  intro u htu hu hallowed
  have hacquired := hu.acquireDispatchItems htu.clock hallowed.2
  refine ⟨hacquired, later_ledger d u (.acquireDispatchItems _ _ _ _ _ _) _, ?_⟩
  simp only [DispatchState.perform] at hacquired ⊢
  cases houtcome : u.ledger.acquireDispatchItems pass.batchId pass.workerId
      pass.policy.leaseSeconds (min pass.policy.maxActiveItems
        (pass.policy.maxActiveItems - load.activeItems)) pass.leaseToken t.clock with
  | error e => exact Discipline.safe_end
  | ok result =>
      obtain ⟨items, ledger⟩ := result
      simp only [houtcome] at hacquired
      have hleases := acquireDispatchItems_leases houtcome
      refine (safe_dispatchItems items 0 [] (fun item hitem => ?_) hacquired).bind hacquired
        fun outcome _ _ _ _ => ?_
      · exact ⟨item, (hleases.leased item hitem).1, .refl item⟩
      · split <;> exact Discipline.safe_end

theorem safe_dispatchBatch :
    (dispatching d).Safe (DispatchState.perform d) (fun _ _ => True) (dispatchBatch pass) s := by
  refine Discipline.safe_read (fun _ => rfl) fun t _ _ => ?_
  split
  · exact Discipline.safe_end
  · refine Discipline.safe_read (fun _ => rfl) fun u _ _ => ?_
    refine Discipline.safe_read (fun _ => rfl) fun v _ _ => ?_
    simp only
    split
    · exact safe_dispatchLeased
    · exact Discipline.safe_end

theorem safe_dispatchActivity (activity : DispatchActivity) (hs : Dispatched d s) :
    (dispatching d).Safe (DispatchState.perform d) (fun _ _ => True) activity.program s := by
  cases activity with
  | dispatch pass =>
      exact safe_dispatchBatch.bind hs fun _ _ _ _ _ => Discipline.safe_end
  | recover batchId =>
      refine Discipline.safe_read (fun _ => rfl) fun t _ _ => ?_
      intro u htu hu hallowed
      exact ⟨hu.recoverExpiredLeases htu.clock hallowed.2,
        later_ledger d u (.recoverExpiredLeases _ _) u.granted,
        Discipline.safe_end⟩
  | batches call =>
      intro t _ ht _
      exact ⟨ht.besides call.property, later_ledger d t call.val t.granted,
        Discipline.safe_end⟩
  | jobs call =>
      intro t _ ht _
      exact ⟨ht.jobs call, ⟨fun i hi => ⟨i, hi, .refl i⟩, fun _ hp => hp, le_refl _⟩,
        Discipline.safe_end⟩
  | elapse duration =>
      intro t _ ht _
      have hnonneg : (0 : Int) ≤ duration := Int.natCast_nonneg duration
      exact ⟨ht.elapse duration, ⟨fun i hi => ⟨i, hi, .refl i⟩, fun _ hp => hp,
        le_add_of_nonneg_right hnonneg⟩, Discipline.safe_end⟩

theorem dispatched_empty (clock : Instant) : Dispatched d (DispatchSystem.empty clock).store := by
  refine ⟨⟨[], Jobs.acceptance_empty d []⟩, ?_, ?_, ?_, ?_, List.Pairwise.nil⟩
  · intro i hi
    cases hi
  · intro p hp
    cases hp
  · intro i hi
    cases hi
  · intro g hg
    cases hg

/-- Along every run in which dispatchers act under the tenants of their batches and no call takes a
lease that ends later in the second of a clock reading without a fraction, every item has at most
one job, which is the one recorded on it, and its leases do not overlap. -/
theorem dispatched_once {clock : Instant} {events : List (Event DispatchActivity)}
    (h : Along (dispatchStep d) (fun c e => c.Permitted (fun s call =>
      UnderTenant s call ∧ NotCutShort s call) e) (.empty clock) events) :
    ∀ before after, events = before ++ after →
      DispatchedOnce (run (dispatchStep d) (.empty clock) before).store := by
  rintro before after rfl
  have hgoverned : (dispatching d).Governs (DispatchState.perform d)
      (run (dispatchStep d) (DispatchSystem.empty clock) before) :=
    ((Discipline.governs_initial (dispatched_empty clock)).run
      (fun activity _ _ hs => safe_dispatchActivity activity hs) (along_append.mp h).1).1
  exact hgoverned.inv.dispatchedOnce

end Programs

section Sample

instance (s : DispatchState) : (call : DispatchCall) → Decidable (UnderTenant s call)
  | .createPortfolioReviewJob item call =>
      inferInstanceAs (Decidable (∀ b ∈ s.ledger.batches.rows, b.batchId = item.batchId →
        call.callerContext.tenantId = b.tenantId))
  | .utcNow => isTrue trivial
  | .getBatch _ => isTrue trivial
  | .countActiveBatches => isTrue trivial
  | .countActiveItems => isTrue trivial
  | .acquireDispatchItems _ _ _ _ _ _ => isTrue trivial
  | .markItemFailed _ _ _ _ _ _ => isTrue trivial
  | .markItemWaitingOnReportJob _ _ _ _ => isTrue trivial
  | .recoverExpiredLeases _ _ => isTrue trivial
  | .batches _ => isTrue trivial
  | .jobs _ => isTrue trivial
  | .elapse _ => isTrue trivial

instance (now : Instant) (i : BatchItemRow) : Decidable (EndsWithinSecond now i) :=
  inferInstanceAs (Decidable (∃ e ∈ i.lease.expiresAt, WithinSecondOf now e.instant))

instance (s : DispatchState) : (call : DispatchCall) → Decidable (NotCutShort s call)
  | .acquireDispatchItems batchId _ _ limit _ now =>
      inferInstanceAs (Decidable (∀ i ∈ s.ledger.selectedItems batchId limit now,
        ¬ EndsWithinSecond now i))
  | .recoverExpiredLeases batchId now =>
      inferInstanceAs (Decidable (∀ i ∈ s.ledger.items.rows, i.batchId = batchId →
        i.status = .leased → i.reportJobId = none → ¬ EndsWithinSecond now i))
  | .utcNow => isTrue trivial
  | .getBatch _ => isTrue trivial
  | .countActiveBatches => isTrue trivial
  | .countActiveItems => isTrue trivial
  | .createPortfolioReviewJob _ _ => isTrue trivial
  | .markItemFailed _ _ _ _ _ _ => isTrue trivial
  | .markItemWaitingOnReportJob _ _ _ _ => isTrue trivial
  | .batches _ => isTrue trivial
  | .jobs _ => isTrue trivial
  | .elapse _ => isTrue trivial

/-- A dispatcher with leases of one second. -/
def sampleDispatch (n : String) : DispatchActivity :=
  .dispatch
    { batchId := "rbch_1"
      callerContext := sampleCaller
      workerId := "worker-" ++ n
      policy := { leaseSeconds := 1 }
      leaseToken := "lease_" ++ n
      generated := fun _ => ⟨"rrq_" ++ n, "rjob_" ++ n, "rwork_" ++ n, .ok none, 0⟩ }

/-- A batch of one item that a first worker leases half a second after the origin. -/
def leasedAtHalf : List (Event DispatchActivity) :=
  [ .start (.batches ⟨sampleBatch ["PF_1"], rfl⟩), .advance 0,
    .start (.elapse 500000), .advance 1,
    .start (sampleDispatch "1"),
    .advance 2, .advance 2, .advance 2, .advance 2, .advance 2 ]

/-- The first worker stops after the creation of the job; its lease is recovered and a second
worker takes the item to its end. -/
def takenOverRun : List (Event DispatchActivity) :=
  leasedAtHalf ++
  [ .advance 2, .advance 2,
    .start (.elapse 1500000), .advance 3,
    .start (.recover "rbch_1"), .advance 4, .advance 4,
    .start (sampleDispatch "2"),
    .advance 5, .advance 5, .advance 5, .advance 5, .advance 5,
    .advance 5, .advance 5, .advance 5, .advance 5 ]

/-- A second worker dispatches at the full second before the lease of the first ends. -/
def cutShortRun : List (Event DispatchActivity) :=
  leasedAtHalf ++
  [ .start (.elapse 500000), .advance 3,
    .start (sampleDispatch "2"),
    .advance 4, .advance 4, .advance 4, .advance 4, .advance 4 ]

theorem dispatched_once_taken_over :
    (run (dispatchStep Jobs.sampleDeployment) (.empty 0) takenOverRun).store.created =
        [("rbit_1", "rjob_1"), ("rbit_1", "rjob_1")] ∧
      ∀ before after, takenOverRun = before ++ after →
        DispatchedOnce (run (dispatchStep Jobs.sampleDeployment) (.empty 0) before).store :=
  ⟨by decide +kernel, dispatched_once (by decide +kernel)⟩

/-- A lease that ends half a second after a full second is taken by a second worker at that full
second, although both act under the tenant of the batch. -/
theorem not_dispatchedOnce_cutShort :
    Along (dispatchStep Jobs.sampleDeployment) (fun c e => c.Permitted UnderTenant e) (.empty 0)
        cutShortRun ∧
      ¬ DispatchedOnce (run (dispatchStep Jobs.sampleDeployment) (.empty 0) cutShortRun).store :=
  ⟨by decide +kernel, fun h => absurd h.apart (by decide +kernel)⟩

end Sample

end LotusReport.Batch
