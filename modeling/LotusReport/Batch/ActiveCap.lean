import LotusReport.Batch.OneJob
import LotusReport.StateMachine.Labels

/-!
# The cap on active items

A dispatch counts the active items, and what the cap leaves free is the limit
of its acquisition, which is a later call. The cap therefore holds as long as
no other call makes an item active between the two, and as long as the job of
an item is recorded while the lease of the item runs.
-/

namespace LotusReport.Batch

open Encoding Relational StateMachine

section Model

/-- The item is leased with a lease that has not expired, or it waits for its report job. -/
def activeItem (clock : Instant) (i : BatchItemRow) : Bool :=
  i.status == .waitingOnReportJob ||
    (i.status == .leased && !BatchLedger.leaseExpired i (dtToText clock))

/-- The number of active items of a batch. -/
def DispatchState.activeItems (s : DispatchState) (batchId : String) : Nat :=
  s.ledger.items.rows.countP fun i => i.batchId == batchId && activeItem s.clock i

/-- What may start: an activity of the dispatch system, or a relink for a replay. -/
inductive ReplayingActivity where
  | activity (a : DispatchActivity)
  | relink (batchId batchItemId replayedReportJobId : String) (maxAttempts : Nat)

/-- The program of an activity. -/
def ReplayingActivity.program : ReplayingActivity →
    DispatchProgram (Option (Except DispatchFailure BatchDispatchResult))
  | .activity a => a.program
  | .relink batchId batchItemId replayedReportJobId maxAttempts =>
      .call .utcNow fun now =>
        .call (.batches (.relinkFailedItemForReplay batchId batchItemId replayedReportJobId
          maxAttempts now)) fun _ => .done none

/-- One step of the dispatch system with replays. -/
def replayingStep (d : Jobs.Deployment) :
    DispatchSystem → Event ReplayingActivity → DispatchSystem :=
  System.step (DispatchState.perform d) ReplayingActivity.program

/-- The system after an interleaving of activities. -/
def replayingAfter (d : Jobs.Deployment) (s : DispatchState)
    (events : List (Event ReplayingActivity)) : DispatchSystem :=
  System.reached (DispatchState.perform d) ReplayingActivity.program s events

end Model

section Conditions

variable {α : Type}

/-- The limit of the acquisition that the program makes next, the reading of the clock apart. -/
def pendingLimit (s : DispatchState) : DispatchProgram α → Option Int
  | .call (.acquireDispatchItems _ _ _ limit _ _) _ => some limit
  | .call .utcNow next =>
      match next s.clock with
      | .call (.acquireDispatchItems _ _ _ limit _ _) _ => some limit
      | _ => none
  | _ => none

/-- While a dispatch stands between its count and its acquisition, no other call raises the number
of active items. -/
def Undisturbed (d : Jobs.Deployment) (c : DispatchSystem) (e : Event ReplayingActivity) : Prop :=
  ∀ entry ∈ c.pool.zipIdx, System.advances entry.2 e = false →
    (pendingLimit c.store entry.1).isSome = true →
      (replayingStep d c e).store.ledger.countActiveItems ≤ c.store.ledger.countActiveItems

instance (d : Jobs.Deployment) (c : DispatchSystem) (e : Event ReplayingActivity) :
    Decidable (Undisturbed d c e) := inferInstanceAs (Decidable (∀ entry ∈ c.pool.zipIdx, _ → _ → _))

/-- The lease of an item runs when its report job is recorded. -/
def WhileLeased (s : DispatchState) : DispatchCall → Prop
  | .markItemWaitingOnReportJob batchItemId leaseToken _ _ =>
      ∀ i ∈ s.ledger.items.rows, BatchLedger.holdsLease batchItemId leaseToken i = true →
        BatchLedger.leaseExpired i (dtToText s.clock) = false
  | _ => True

instance (s : DispatchState) : (call : DispatchCall) → Decidable (WhileLeased s call)
  | .markItemWaitingOnReportJob batchItemId leaseToken _ _ =>
      inferInstanceAs (Decidable (∀ i ∈ s.ledger.items.rows,
        BatchLedger.holdsLease batchItemId leaseToken i = true →
          BatchLedger.leaseExpired i (dtToText s.clock) = false))
  | .utcNow => isTrue trivial
  | .getBatch _ => isTrue trivial
  | .countActiveBatches => isTrue trivial
  | .countActiveItems => isTrue trivial
  | .acquireDispatchItems _ _ _ _ _ _ => isTrue trivial
  | .createPortfolioReviewJob _ _ => isTrue trivial
  | .markItemFailed _ _ _ _ _ _ => isTrue trivial
  | .recoverExpiredLeases _ _ => isTrue trivial
  | .batches _ => isTrue trivial
  | .jobs _ => isTrue trivial
  | .elapse _ => isTrue trivial

end Conditions

section Counts

variable {d : Jobs.Deployment} {s : DispatchState} {batchId : String}

theorem activeItems_le_count (s : DispatchState) (batchId : String) :
    s.activeItems batchId ≤ s.ledger.countActiveItems := by
  apply List.countP_mono_left
  intro i _ hi
  simp only [activeItem, Bool.and_eq_true, Bool.or_eq_true] at hi ⊢
  exact hi.2.elim .inr fun h => .inl h.1

theorem countActiveItems_acquire (s : BatchLedger) (batchId workerId : String)
    (leaseSeconds limit : Int) (leaseToken : String) (now : Instant) :
    (stateAfter s (s.acquireDispatchItems batchId workerId leaseSeconds limit leaseToken
      now)).countActiveItems ≤ s.countActiveItems + limit.toNat := by
  unfold BatchLedger.acquireDispatchItems
  dsimp only
  split
  · exact Nat.le_add_right _ _
  · refine (Table.countP_update_le_add _ _ _ _).trans (Nat.add_le_add_left ?_ _)
    refine (Table.countP_key_mem_le s.items _).trans ?_
    rw [List.length_map, List.length_take]
    exact Nat.min_le_left _ _

theorem activeItems_step_le {call : BatchCall}
    (h : ∀ i i', i ∈ s.ledger.items.rows → ItemStep s.ledger call i i' →
      activeItem s.clock i' = true → activeItem s.clock i = true)
    (hcreate : ∀ request callerContext key batchId itemId now,
      call ≠ .createBatch request callerContext key batchId itemId now) :
    ({ s with ledger := step d.toRuntime s.ledger call } : DispatchState).activeItems batchId ≤
      s.activeItems batchId := by
  have hstep := step_itemsStep d.toRuntime s.ledger call
  unfold DispatchState.activeItems
  dsimp only
  generalize step d.toRuntime s.ledger call = ledger at hstep
  cases hstep with
  | same hsame => rw [hsame]
  | updated hset hitem =>
      rw [hset]
      apply Table.countP_update_le
      intro i hi hp hactive
      have hchange := hitem i hi hp
      rw [Bool.and_eq_true, hchange.batchId] at hactive
      rw [Bool.and_eq_true]
      exact ⟨hactive.1, h i _ hi hchange hactive.2⟩
  | created hcreated => exact absurd rfl (hcreate _ _ _ _ _ _)

end Counts

section Stages

variable {α β : Type} {d : Jobs.Deployment} {m : Nat} {s : DispatchState}

/-- The calls that a dispatch makes besides its acquisition and its count of the active items. -/
def Besides : DispatchCall → Prop
  | .utcNow => True
  | .getBatch _ => True
  | .countActiveBatches => True
  | .createPortfolioReviewJob _ _ => True
  | .markItemFailed _ _ _ _ _ _ => True
  | .markItemWaitingOnReportJob _ _ _ _ => True
  | _ => False

/-- After a count, a dispatch acquires no more items than the count leaves free. -/
def Spends (m count : Nat) (p : DispatchProgram α) : Prop :=
  p.Calls Besides ∨ ∃ batchId workerId leaseSeconds limit leaseToken,
    ∃ next : Instant → Transaction (List BatchItemRow) → DispatchProgram α,
      (p = .call .utcNow fun now =>
        .call (.acquireDispatchItems batchId workerId leaseSeconds limit leaseToken now) (next now)) ∧
      (count : Int) + limit ≤ m ∧ ∀ now leased, (next now leased).Calls Besides

/-- The program counts the active items. -/
def Counts (m : Nat) (p : DispatchProgram α) : Prop :=
  ∃ next : Nat → DispatchProgram α, p = .call .countActiveItems next ∧
    ∀ count, Spends m count (next count)

/-- The program counts the active batches first. -/
def ReadsLoad (m : Nat) (p : DispatchProgram α) : Prop :=
  ∃ next : Nat → DispatchProgram α, p = .call .countActiveBatches next ∧ ∀ r, Counts m (next r)

/-- How far a dispatch has come. -/
inductive DispatchStage (m : Nat) (s : DispatchState) : DispatchProgram α → Prop where
  | starting {batchId : String} {next : Transaction ReportBatchRecord → DispatchProgram α}
      (h : ∀ found, (next found).Calls Besides ∨ ReadsLoad m (next found)) :
      DispatchStage m s (.call (.getBatch batchId) next)
  | reading {p : DispatchProgram α} (h : ReadsLoad m p) : DispatchStage m s p
  | counting {p : DispatchProgram α} (h : Counts m p) : DispatchStage m s p
  | counted {p : DispatchProgram α} (h : Spends m s.ledger.countActiveItems p) : DispatchStage m s p
  | acquiring {batchId workerId : String} {leaseSeconds limit : Int} {leaseToken : String}
      {now : Instant} {next : Transaction (List BatchItemRow) → DispatchProgram α}
      (hlimit : (s.ledger.countActiveItems : Int) + limit ≤ m)
      (h : ∀ leased, (next leased).Calls Besides) :
      DispatchStage m s
        (.call (.acquireDispatchItems batchId workerId leaseSeconds limit leaseToken now) next)

theorem calls_failItem (item : BatchItemRow) (message : String) :
    (failItem item message).Calls Besides := ⟨trivial, fun _ => ⟨trivial, fun _ => trivial⟩⟩

theorem calls_linkItem (pass : DispatchPass) (position : Nat) (item : BatchItemRow)
    (leaseToken : String) (request : Jobs.PortfolioReviewJobRequest) :
    (linkItem pass position item leaseToken request).Calls Besides := by
  refine ⟨trivial, fun _ => ⟨trivial, fun accepted => ?_⟩⟩
  cases accepted with
  | error error => trivial
  | ok record =>
      refine ⟨trivial, fun _ => ⟨trivial, fun outcome => ?_⟩⟩
      cases outcome <;> trivial

theorem calls_dispatchItems (pass : DispatchPass) (batch : BatchRow) (items : List BatchItemRow)
    (position : Nat) (reportJobIds : List String) :
    (dispatchItems pass batch position items reportJobIds).Calls Besides := by
  induction items generalizing position reportJobIds with
  | nil => trivial
  | cons item items ih =>
      rw [dispatchItems]
      split
      · trivial
      · split
        · apply (calls_failItem item _).bind
          intro outcome
          cases outcome with
          | error error => trivial
          | ok failed => exact ih _ _
        · apply (calls_linkItem pass position item _ _).bind
          intro outcome
          cases outcome with
          | error error => trivial
          | ok reportJobId => exact ih _ _

/-- What a dispatch acquires fits into what its count leaves free. -/
theorem spends_dispatchLeased (pass : DispatchPass) (batch : BatchRow) (load : BatchRuntimeLoad)
    {count : Nat} (hcount : count ≤ load.activeItems)
    (finish : Except DispatchFailure BatchDispatchResult → DispatchProgram α)
    (hfinish : ∀ result, (finish result).Calls Besides) :
    Spends pass.policy.maxActiveItems count ((dispatchLeased pass batch load).bind finish) := by
  refine .inr ⟨_, _, _, _, _, _, rfl, ?_, fun now leased => ?_⟩
  · omega
  · apply Program.Calls.bind _ hfinish
    cases leased with
    | error error => trivial
    | ok items =>
        apply (calls_dispatchItems pass batch items 0 []).bind
        intro outcome
        cases outcome <;> trivial

theorem stage_dispatch (s : DispatchState) (pass : DispatchPass) :
    DispatchStage pass.policy.maxActiveItems s (DispatchActivity.dispatch pass).program := by
  refine .starting fun found => ?_
  cases found with
  | error error => exact .inl trivial
  | ok record =>
      refine .inr ⟨_, rfl, fun activeBatches => ⟨_, rfl, fun activeItems => ?_⟩⟩
      dsimp only
      split
      · exact spends_dispatchLeased pass record.batch _ (Nat.le_add_right _ _) _ fun _ => trivial
      · exact .inl trivial

variable {op : DispatchCall} {next : op.Result → DispatchProgram α} {p : DispatchProgram α}

theorem DispatchStage.advance (h : DispatchStage m s (.call op next)) :
    DispatchStage m (s.perform d op).1 (next (s.perform d op).2) := by
  cases h with
  | starting h => exact (h _).elim (fun h => .counted (.inl h)) .reading
  | reading h =>
      obtain ⟨next, heq, h⟩ := h
      cases heq
      exact .counting (h _)
  | counting h =>
      obtain ⟨next, heq, h⟩ := h
      cases heq
      exact .counted (h _)
  | counted h =>
      rcases h with h | ⟨batchId, workerId, leaseSeconds, limit, leaseToken, next, heq, hlimit, h⟩
      · exact .counted (.inl (h.2 _))
      · cases heq
        exact .acquiring hlimit (h _)
  | acquiring hlimit h => exact .counted (.inl (h _))

theorem DispatchStage.advanced (h : DispatchStage m s p) :
    DispatchStage m (p.advance (DispatchState.perform d) s).1
      (p.advance (DispatchState.perform d) s).2 := by
  cases p with
  | done result => exact h
  | call op next => exact h.advance

theorem DispatchStage.others {t : DispatchState} (h : DispatchStage m s p)
    (hcount : (pendingLimit s p).isSome = true →
      t.ledger.countActiveItems ≤ s.ledger.countActiveItems) : DispatchStage m t p := by
  cases h with
  | starting h => exact .starting h
  | reading h => exact .reading h
  | counting h => exact .counting h
  | counted h =>
      rcases h with h | ⟨batchId, workerId, leaseSeconds, limit, leaseToken, next, rfl, hlimit, h⟩
      · exact .counted (.inl h)
      · have hkept := hcount rfl
        exact .counted (.inr ⟨_, _, _, _, _, _, rfl, by omega, h⟩)
  | acquiring hlimit h =>
      have hkept := hcount rfl
      exact .acquiring (by omega) h

theorem not_activeItem_failed (retryable : Bool) (attempts maxAttempts : Nat) :
    (batchItemFailureOutcome retryable attempts maxAttempts).1 ≠ .waitingOnReportJob ∧
      (batchItemFailureOutcome retryable attempts maxAttempts).1 ≠ .leased := by
  unfold batchItemFailureOutcome
  split <;> decide

/-- Besides its acquisition a dispatch makes no item active whose lease has not run out. -/
theorem activeItems_besides {batchId : String} (hop : Besides op) (hleased : WhileLeased s op) :
    (s.perform d op).1.activeItems batchId ≤ s.activeItems batchId := by
  cases op with
  | utcNow => exact le_rfl
  | getBatch _ => exact le_rfl
  | countActiveBatches => exact le_rfl
  | createPortfolioReviewJob item call =>
      simp only [DispatchState.perform]
      split <;> exact le_rfl
  | markItemFailed batchItemId errorCategory errorSummary retryable maxAttempts now =>
      refine @activeItems_step_le d s batchId (.markItemFailed batchItemId errorCategory
        errorSummary retryable maxAttempts none now) (fun i i' _ hstep hactive => ?_)
        (fun _ _ _ _ _ _ h => by cases h)
      cases hstep
      have hfailed := not_activeItem_failed retryable (i.attemptCount + 1) maxAttempts
      simp [activeItem, hfailed] at hactive
  | markItemWaitingOnReportJob batchItemId leaseToken reportJobId now =>
      refine @activeItems_step_le d s batchId (.markItemWaitingOnReportJob batchItemId leaseToken
        reportJobId now) (fun i i' hi hstep _ => ?_) (fun _ _ _ _ _ _ h => by cases h)
      cases hstep with
      | dispatch hholds =>
          have hstatus : i.status = .leased := by
            simp only [BatchLedger.holdsLease, Bool.and_eq_true, beq_iff_eq] at hholds
            exact hholds.2
          simp [activeItem, hstatus, hleased i hi hholds]
  | _ => cases hop

theorem DispatchStage.activeItems_le {batchId : String} (h : DispatchStage m s (.call op next))
    (hleased : WhileLeased s op) :
    (s.perform d op).1.activeItems batchId ≤ max m (s.activeItems batchId) := by
  cases h with
  | starting h => exact le_max_right _ _
  | reading h =>
      obtain ⟨next, heq, -⟩ := h
      cases heq
      exact le_max_right _ _
  | counting h =>
      obtain ⟨next, heq, -⟩ := h
      cases heq
      exact le_max_right _ _
  | counted h =>
      rcases h with h | ⟨batchId, workerId, leaseSeconds, limit, leaseToken, next, heq, -, -⟩
      · exact (activeItems_besides h.1 hleased).trans (le_max_right _ _)
      · cases heq
        exact le_max_right _ _
  | @acquiring acquiredId workerId leaseSeconds limit leaseToken now next hlimit h =>
      by_cases hpositive : limit < 1
      · have hnone : s.ledger.acquireDispatchItems acquiredId workerId leaseSeconds limit leaseToken
            now = .ok ([], s.ledger) := by
          simp [BatchLedger.acquireDispatchItems, hpositive]
        simp only [DispatchState.perform, hnone]
        exact le_max_right _ _
      · have hgrows := countActiveItems_acquire s.ledger acquiredId workerId leaseSeconds limit
          leaseToken now
        refine (activeItems_le_count _ batchId).trans (le_max_of_le_left ?_)
        change (stateAfter s.ledger (s.ledger.acquireDispatchItems acquiredId workerId leaseSeconds
          limit leaseToken now)).countActiveItems ≤ m
        omega

end Stages

section Runs

variable {d : Jobs.Deployment} {s : DispatchState} {events : List (Event ReplayingActivity)}

/-- The step disturbs no dispatch between its count and its acquisition, and records no job after
the end of a lease. -/
def Orderly (d : Jobs.Deployment) (c : DispatchSystem) (e : Event ReplayingActivity) : Prop :=
  Undisturbed d c e ∧ c.Permitted WhileLeased e

instance (d : Jobs.Deployment) (c : DispatchSystem) (e : Event ReplayingActivity) :
    Decidable (Orderly d c e) := inferInstanceAs (Decidable (_ ∧ _))

theorem replayingAfter_snoc (d : Jobs.Deployment) (s : DispatchState)
    (events : List (Event ReplayingActivity)) (e : Event ReplayingActivity) :
    replayingAfter d s (events ++ [e]) = (replayingAfter d s events).step
      (DispatchState.perform d) ReplayingActivity.program e := System.reached_snoc

theorem stage_of_orderly
    (horderly : Along (replayingStep d) (Orderly d) (System.initial s) events)
    {n : Nat} {pass : DispatchPass}
    (hlabel : (started events)[n]? = some (.activity (.dispatch pass)))
    {p : DispatchProgram (Option (Except DispatchFailure BatchDispatchResult))}
    (hp : (replayingAfter d s events).pool[n]? = some p) :
    DispatchStage pass.policy.maxActiveItems (replayingAfter d s events).store p := by
  induction events using List.reverseRecOn generalizing p with
  | nil => cases hp
  | append_singleton events e ih =>
      rw [along_append] at horderly
      obtain ⟨hbefore, ⟨hundisturbed, -⟩, -⟩ := horderly
      have hearlier : ∀ q, (replayingAfter d s events).pool[n]? = some q →
          DispatchStage pass.policy.maxActiveItems (replayingAfter d s events).store q := by
        intro q hq
        have hlt := (List.getElem?_eq_some_iff.mp hq).1
        rw [replayingAfter, System.length_reached] at hlt
        rw [started_append, List.getElem?_append_left hlt] at hlabel
        exact ih hbefore hlabel hq
      rw [replayingAfter_snoc] at hp ⊢
      by_cases he : System.advances n e = true
      · cases e with
        | start label => cases he
        | advance m =>
            cases of_decide_eq_true he
            cases hq : (replayingAfter d s events).pool[n]? with
            | none =>
                simp only [System.step, hq] at hp
                cases hp
            | some q =>
                have hstage := (hearlier q hq).advanced (d := d)
                rw [System.step_advance hq] at hp ⊢
                rw [List.getElem?_set_self (List.getElem?_eq_some_iff.mp hq).1] at hp
                rw [← Option.some.inj hp]
                exact hstage
      · rcases System.getElem?_step hp with hsame | ⟨hn, label, rfl, rfl⟩ | ⟨op, next, rfl, -, -⟩
        · apply (hearlier p hsame).others
          apply hundisturbed (p, n)
          · exact List.mk_mem_zipIdx_iff_getElem?.mpr hsame
          · exact Bool.eq_false_iff.mpr he
        · rw [hn, replayingAfter, System.length_reached, started_append, List.getElem?_append_right (Nat.le_refl _),
            Nat.sub_self] at hlabel
          cases hlabel
          exact stage_dispatch _ pass
        · exact absurd (decide_eq_true rfl) he

/-- In an orderly run no step of a dispatch raises the number of active items of its batch above
the cap of the dispatch. -/
theorem activeItems_le_cap (d : Jobs.Deployment) (s : DispatchState)
    (events : List (Event ReplayingActivity))
    (horderly : Along (replayingStep d) (Orderly d) (System.initial s) events) :
    ∀ before n rest pass, events = before ++ .advance n :: rest →
      (started before)[n]? = some (.activity (.dispatch pass)) →
        (replayingAfter d s (before ++ [.advance n])).store.activeItems pass.batchId ≤
          max pass.policy.maxActiveItems
            ((replayingAfter d s before).store.activeItems pass.batchId) := by
  rintro before n rest pass rfl hlabel
  obtain ⟨hbefore, ⟨-, hleased⟩, -⟩ := along_append.mp horderly
  rw [replayingAfter_snoc]
  cases hn : (replayingAfter d s before).pool[n]? with
  | none =>
      simp only [System.step, hn]
      exact le_max_right _ _
  | some p =>
      have hstage := stage_of_orderly hbefore hlabel hn
      cases p with
      | done result =>
          rw [System.step_advance_done hn]
          exact le_max_right _ _
      | call op next =>
          rw [System.step_advance_call hn]
          exact hstage.activeItems_le (hleased op next hn)

/-- A dispatcher that keeps one item active. -/
def cappedDispatch (n : String) : ReplayingActivity :=
  .activity (.dispatch
    { batchId := "rbch_1"
      callerContext := sampleCaller
      workerId := "worker-" ++ n
      policy := { maxActiveItems := 1 }
      leaseToken := "lease_" ++ n
      generated := fun _ => ⟨"rrq_" ++ n, "rjob_" ++ n, "rwork_" ++ n, .ok none, 0⟩ })

/-- A batch of two items and two dispatchers. -/
def twoDispatchers : List (Event ReplayingActivity) :=
  [ .start (.activity (.batches ⟨sampleBatch ["PF_1", "PF_2"], rfl⟩)), .advance 0,
    .start (cappedDispatch "1"), .start (cappedDispatch "2") ]

/-- Empty ledgers. -/
def emptyStore : DispatchState := ⟨.empty, .empty, 0, [], []⟩

/-- One dispatcher leases an item before the other counts. -/
theorem activeItems_le_cap_in_turn :
    let events := twoDispatchers ++ List.replicate 4 (.advance 1) ++ [.advance 1]
    (replayingAfter Jobs.sampleDeployment emptyStore events).store.activeItems "rbch_1" = 1 ∧
      (replayingAfter Jobs.sampleDeployment emptyStore events).store.activeItems "rbch_1" ≤
        max 1 ((replayingAfter Jobs.sampleDeployment emptyStore
          (twoDispatchers ++ List.replicate 4 (.advance 1))).store.activeItems "rbch_1") := by
  refine ⟨by decide +kernel, ?_⟩
  exact activeItems_le_cap Jobs.sampleDeployment emptyStore _ (by decide +kernel)
    (twoDispatchers ++ List.replicate 4 (.advance 1)) 1 [] _ rfl rfl

/-- Two dispatchers count before either acquires, and both acquire. -/
theorem cap_exceeded_by_race :
    let before := twoDispatchers ++ List.replicate 4 (.advance 1) ++ List.replicate 4 (.advance 2) ++
      [.advance 1]
    (replayingAfter Jobs.sampleDeployment emptyStore before).store.activeItems "rbch_1" = 1 ∧
      (replayingAfter Jobs.sampleDeployment emptyStore
        (before ++ [.advance 2])).store.activeItems "rbch_1" = 2 := by
  decide +kernel

end Runs

end LotusReport.Batch
