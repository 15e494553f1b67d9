import LotusReport.Jobs.Execution
import LotusReport.Jobs.Settlement
import Mathlib.Algebra.Order.Field.Rat

/-!
# A pass of the job worker

One pass claims up to five work items, one after the other, executes each and
settles it in the ledger. The execution and everything that other workers do
between the calls of the pass are part of its environment: they are calls on the
same ledger.
-/

namespace LotusReport.Jobs

open Encoding Fallible StateMachine JobFile

section Model

/-- The stored text of a work status. -/
def ReportJobWorkStatus.text : ReportJobWorkStatus → String
  | .pending => "pending"
  | .leased => "leased"
  | .retryPending => "retry_pending"
  | .completed => "completed"
  | .failed => "failed"

/-- `WORK_ITEM_SECONDS`. -/
def workItemSeconds : ℚ := 60

/-- `WORK_PASS_SECONDS`. -/
def workPassSeconds : ℚ := 120

/-- `ReportJobWorkOutcome`. -/
structure ReportJobWorkOutcome where
  workItemId : String
  reportJobId : String
  workStatus : String
  jobStatus : String
  failureCategory : Option String
deriving DecidableEq

/-- `ReportJobWorkerRunResult`. -/
structure ReportJobWorkerRunResult where
  workerId : String
  claimedCount : Nat
  completedCount : Nat
  retryPendingCount : Nat
  failedCount : Nat
  outcomes : List ReportJobWorkOutcome
deriving DecidableEq

/-- The exceptions that arise in a pass. -/
inductive WorkerError where
  | deadlineExpired
  | missingLeaseToken
  | ledger (error : LedgerError)
deriving DecidableEq, Repr

/-- A call of `run_once`, with the retry policy of the worker. -/
structure PassCall where
  workerId : String
  maxItems : Int
  leaseSeconds : Int
  retryPolicy : ReportJobWorkRetryPolicy := {}

/-- How `execute_job` ends; it is interrupted when the allowance of the item runs out. -/
inductive ExecutionEnd where
  | returned (result : ExecutionResult)
  | raised (message className : String)
  | interrupted

/-- What happens around one round of a pass: the readings of the monotonic clock in their order,
the calls on the ledger before the claim, those of the execution and of everyone else until the
settlement, and the times and the token of the ledger's own calls. -/
structure Round where
  startedAt : ℚ
  before : List Call := []
  enteredAt : ℚ
  claimedAt : Instant
  claimNow : Instant
  tokenHex : String
  claimedReading : ℚ
  during : List Call := []
  ending : ExecutionEnd
  endedReading : ℚ
  settledAt : Instant

variable (d : Deployment) (c : PassCall)

/-- The claim of a round. -/
def PassCall.claim (r : Round) : Ledger.ClaimCall where
  workerId := c.workerId
  limit := 1
  leaseSeconds := c.leaseSeconds
  retryPolicy := c.retryPolicy
  claimedAt := r.claimedAt
  leaseTokens := fun _ => "rlease_" ++ r.tokenHex
  now := r.claimNow

/-- The work row that a settlement returns: a failure returns the row it wrote before the job is
ended with it. -/
def returnedRow (s t : Ledger) : LedgerCall → Option WorkRow
  | .completeWorkItem workItemId _ _ | .deferWorkItem workItemId _ _ _ _ =>
      t.workItems.find? workItemId
  | .failWorkItem workItemId _ errorCategory errorSummary retryPolicy _ now =>
      match s.workItems.find? workItemId with
      | none => none
      | some w =>
          match s.file? w.reportJobId with
          | none => none
          | some f =>
              if f.job.custody.state = some .verified then t.workItems.find? workItemId
              else
                let decision := decideReportJobWorkFailure w.attemptCount now retryPolicy
                some (failedWork w decision.status (clip 80 errorCategory)
                  (clip 240 (collapse errorSummary)) (f.scheduledAt decision.availableAt) now)
  | _ => none

/-- A settlement, with the row it returns. -/
def settle (s : Ledger) (call : LedgerCall) : Except WorkerError (WorkRow × Ledger) :=
  match call.perform d s with
  | .error e => .error (.ledger e)
  | .ok t =>
      match returnedRow s t call with
      | some row => .ok (row, t)
      | none => .error (.ledger (.invalidWorkTransition "report_job_work_item_not_found"))

/-- The outcome of an item whose job was read in a status. -/
def workOutcome (w : WorkRow) (workStatus jobStatus : String) (failureCategory : Option String) :
    ReportJobWorkOutcome :=
  ⟨w.workItemId, w.reportJobId, workStatus, jobStatus, failureCategory⟩

/-- The category that the outcome of a returned execution names. -/
def settledCategory (job : JobRow) (row : WorkRow) : LedgerCall → Option String
  | .completeWorkItem _ _ _ => job.failureCategory.map ReportFailureCategory.text
  | .deferWorkItem _ _ _ _ _ => some "waiting_on_render"
  | _ => row.lastErrorCategory

/-- `_execute_work_item` after the execution has ended, on the ledger it left. -/
def settleExecution (w : WorkRow) (leaseToken : String) (deadline : ℚ) (r : Round) (s : Ledger) :
    Except WorkerError (ReportJobWorkOutcome × Ledger) :=
  match r.ending with
  | .interrupted => .error .deadlineExpired
  | .raised message className =>
      if deadline ≤ r.endedReading then .error .deadlineExpired
      else do
        let (row, t) ← settle d s (.failWorkItem w.workItemId leaseToken
          "report_job_worker_execution_failed" (if message = "" then className else message)
          c.retryPolicy none r.settledAt)
        return (workOutcome w row.status.text "unknown" row.lastErrorCategory, t)
  | .returned result =>
      if deadline ≤ r.endedReading then .error .deadlineExpired
      else
        match workItemCall c.retryPolicy w.workItemId leaseToken r.settledAt result with
        | .error e => .error (.ledger e)
        | .ok none =>
            .ok (workOutcome w "failed" result.job.job.status.text (some "custody_parked"), s)
        | .ok (some call) => do
            let (row, t) ← settle d s call
            return (workOutcome w row.status.text result.job.job.status.text
              (settledCategory result.job.job row call), t)

/-- How a round ends: without an item, with the outcome of the item that was claimed, or with an
exception after the claim or in it. -/
inductive RoundEnd where
  | idle (s : Ledger)
  | reported (w : WorkRow) (outcome : ReportJobWorkOutcome) (s : Ledger)
  | raised (w : Option WorkRow) (error : WorkerError) (s : Ledger)

/-- The outcome of an item that ran out of its allowance. -/
def expiredOutcome (w : WorkRow) : ReportJobWorkOutcome :=
  workOutcome w "unknown" "unknown" (some "report_job_worker_deadline_expired")

/-- `_execute_work_item`, on the ledger that the claim left, under the handler of `_run_item`. -/
def executeWorkItem (w : WorkRow) (deadline : ℚ) (r : Round) (s : Ledger) : RoundEnd :=
  if present w.leaseToken then
    let s := run (Ledger.step d) s r.during
    match settleExecution d c w (w.leaseToken.getD "") deadline r s with
    | .ok (outcome, t) => .reported w outcome t
    | .error .deadlineExpired => .reported w (expiredOutcome w) s
    | .error e => .raised (some w) e s
  else .raised (some w) .missingLeaseToken s

/-- `_run_item`. -/
def runItem (deadline : ℚ) (r : Round) (s : Ledger) : RoundEnd :=
  let s := run (Ledger.step d) s r.before
  if deadline ≤ r.enteredAt then .idle s
  else
    match s.claimWorkItems (c.claim r) with
    | .error e => .raised none (.ledger e) s
    | .ok ([], t) => .idle t
    | .ok (w :: _, t) =>
        if deadline ≤ r.claimedReading then .reported w (expiredOutcome w) t
        else executeWorkItem d c w deadline r t

/-- The state of a pass: the ledger, the items it was given, the outcomes it collected, and, once
the loop has been left, whether by an exception. -/
structure Pass where
  ledger : Ledger
  claimed : List WorkRow := []
  outcomes : List ReportJobWorkOutcome := []
  ended : Option (Except WorkerError Unit) := none

/-- The allowance of an item. -/
def itemDeadline (passDeadline : ℚ) (r : Round) : ℚ :=
  min passDeadline (r.startedAt + workItemSeconds)

/-- One round of the loop of `run_once`. -/
def Pass.step (passDeadline : ℚ) (p : Pass) (r : Round) : Pass :=
  if p.ended.isSome then p
  else if passDeadline - r.startedAt < workItemSeconds then { p with ended := some (.ok ()) }
  else
    match runItem d c (itemDeadline passDeadline r) r p.ledger with
    | .idle s => { p with ledger := s, ended := some (.ok ()) }
    | .reported w outcome s =>
        { p with ledger := s, claimed := p.claimed ++ [w], outcomes := p.outcomes ++ [outcome] }
    | .raised w e s =>
        { p with ledger := s, claimed := p.claimed ++ w.toList, ended := some (.error e) }

/-- The rounds that the loop may take. -/
def PassCall.roundLimit : Nat := (min 5 (max 0 c.maxItems)).toNat

/-- The loop of `run_once` in an environment, with the reading at which the pass starts. -/
def PassCall.rounds (startedAt : ℚ) (environment : Nat → Round) (s : Ledger) : Pass :=
  run (Pass.step d c (startedAt + workPassSeconds)) { ledger := s }
    ((List.range c.roundLimit).map environment)

/-- The result that `run_once` returns, or the exception that leaves it. -/
def Pass.result (p : Pass) : Except WorkerError ReportJobWorkerRunResult :=
  match p.ended with
  | some (.error e) => .error e
  | _ =>
      .ok
        { workerId := c.workerId
          claimedCount := p.outcomes.length
          completedCount := p.outcomes.countP fun o => o.workStatus == "completed"
          retryPendingCount := p.outcomes.countP fun o => o.workStatus == "retry_pending"
          failedCount := p.outcomes.countP fun o => o.workStatus == "failed"
          outcomes := p.outcomes }

/-- `run_once`. -/
def runOnce (startedAt : ℚ) (environment : Nat → Round) (s : Ledger) :
    Except WorkerError ReportJobWorkerRunResult :=
  (c.rounds d startedAt environment s).result c

end Model

section Condition

variable (d : Deployment) (c : PassCall)

/-- The execution returns a job that asks for two documents at once, in the status in which the
worker reads its formats. -/
def MixedFormats (result : ExecutionResult) : Prop :=
  custodyParked result.job = false ∧ result.waitingOnOwner = false ∧
    result.job.job.status = .dataReady ∧ "pdf" ∈ result.job.request.requestedOutputFormats ∧
      "xlsx" ∈ result.job.request.requestedOutputFormats

/-- The settlement of an item that the worker still has time for can be made in the ledger that
the execution left. -/
def EndsSoundly (w : WorkRow) (leaseToken : String) (r : Round) (s : Ledger) : Prop :=
  match r.ending with
  | .interrupted => True
  | .raised message className =>
      s.Settleable (.failWorkItem w.workItemId leaseToken "report_job_worker_execution_failed"
        (if message = "" then className else message) c.retryPolicy none r.settledAt)
  | .returned result => ¬ MixedFormats result ∧ ∀ call,
      workItemCall c.retryPolicy w.workItemId leaseToken r.settledAt result = .ok (some call) →
        s.Settleable call

/-- The round can make its claim, and the settlement of the claimed item if it comes to it. -/
def RoundSound (deadline : ℚ) (r : Round) (s : Ledger) : Prop :=
  let s := run (Ledger.step d) s r.before
  r.enteredAt < deadline →
    s.Sweepable (c.claim r) ∧
    (∀ t, s.recoverExpiredWorkItems (c.claim r) = .ok t → t.Leasable (c.claim r)) ∧
    ∀ w rows t, s.claimWorkItems (c.claim r) = .ok (w :: rows, t) → r.claimedReading < deadline →
      r.endedReading < deadline →
        EndsSoundly c w (w.leaseToken.getD "") r (run (Ledger.step d) t r.during)

/-- The condition on the rounds that a pass enters. -/
def EntersSoundly (passDeadline : ℚ) (p : Pass) (r : Round) : Prop :=
  p.ended = none → workItemSeconds ≤ passDeadline - r.startedAt →
    RoundSound d c (itemDeadline passDeadline r) r p.ledger

/-- The pass returned a result, with one outcome for each item that it claimed. -/
def Survives (startedAt : ℚ) (environment : Nat → Round) (s : Ledger) : Prop :=
  ∃ result, runOnce d c startedAt environment s = .ok result ∧
    result.claimedCount = (c.rounds d startedAt environment s).claimed.length ∧
    result.outcomes.map (fun o => (o.workItemId, o.reportJobId)) =
      (c.rounds d startedAt environment s).claimed.map fun w => (w.workItemId, w.reportJobId)

end Condition

section Settle

variable {d : Deployment} {c : PassCall} {s t : Ledger} {call : LedgerCall}

theorem EndsLease.find? {workItemId token : String} (h : EndsLease s workItemId token t) :
    ∃ w, t.workItems.find? workItemId = some w := by
  obtain ⟨w, f, f', e, hw, hf, -, -, hends, hstep, rfl⟩ := h
  have hne : e ≠ .enqueued := by
    rintro rfl
    exact hends
  have hwork : f.work = some w := by
    rw [(Ledger.file?_eq_some_iff.mp hf).2.2.1]
    exact Relational.Table.lookup?_index (Relational.Table.mem_of_find? hw)
  obtain ⟨w', hw', hid, -⟩ := hstep.continues.work w hwork
  have hfile : (s.store f').file? w.reportJobId = some f' := by
    rw [Ledger.file?_store hf hstep.continues (Ledger.freshWork_of_ne hstep hne s), if_pos rfl]
  refine ⟨w', ?_⟩
  rw [← Relational.Table.key_of_find? hw, ← hid]
  exact Ledger.find?_of_work hfile hw'

theorem returnedRow_of_settled (hs : s.Sound) (hc : call.SettlesUnbound)
    (h : (Call.ledger call).perform d s = .ok t) : ∃ row, returnedRow s t call = some row := by
  have hverified : ∀ jobId f, s.file? jobId = some f → VerifiedIsRequired f :=
    fun jobId f hf => (hs.regular jobId f hf).required
  cases call with
  | completeWorkItem workItemId token now => exact (settlement_eq_ok hverified rfl h).find?
  | deferWorkItem workItemId token waitReason delaySeconds now =>
      exact (settlement_eq_ok hverified rfl h).find?
  | failWorkItem workItemId token category summary policy lease now =>
      have hends := settlement_eq_ok hverified rfl h
      obtain ⟨w, f, -, -, hw, hf, -⟩ := id hends
      simp only [returnedRow, hw, hf]
      split
      · exact hends.find?
      · exact ⟨_, rfl⟩
  | _ => exact hc.elim

/-- A settlement of the worker returns exactly when it can be made. -/
theorem settle_returns (hs : s.Sound) (hc : call.SettlesUnbound) :
    (∃ r, settle d s call = .ok r) ↔ s.Settleable call := by
  rw [← Ledger.settlement_returns (d := d) hs hc]
  unfold settle
  constructor
  · rintro ⟨r, h⟩
    split at h
    · cases h
    · rename_i t ht
      exact ⟨t, ht⟩
  · rintro ⟨t, ht⟩
    obtain ⟨row, hrow⟩ := returnedRow_of_settled hs hc ht
    have hperform : call.perform d s = .ok t := ht
    rw [hperform]
    simp only [hrow]
    exact ⟨_, rfl⟩

theorem settle_error {e : WorkerError} (h : settle d s call = .error e) : e ≠ .deadlineExpired := by
  unfold settle at h
  split at h
  · cases h
    simp
  · split at h
    · cases h
    · cases h
      simp

theorem settle_ok {row : WorkRow} (h : settle d s call = .ok (row, t)) :
    t = s.step d (.ledger call) := by
  unfold settle at h
  split at h
  · cases h
  · rename_i t' ht
    split at h
    · cases h
      exact (Ledger.step_of_ok (c := .ledger call) ht).symm
    · cases h

/-- A settlement that cannot be made raises, and not for want of time. -/
theorem settle_raises (hs : s.Sound) (hc : call.SettlesUnbound) :
    (∃ e, settle d s call = .error e ∧ e ≠ .deadlineExpired) ↔ ¬ s.Settleable call := by
  rw [← settle_returns (d := d) hs hc]
  cases h : settle d s call with
  | error e =>
      simp only [Except.error.injEq, reduceCtorEq, exists_false, not_false_eq_true, iff_true]
      exact ⟨e, rfl, settle_error h⟩
  | ok r => simp

theorem documentOutputFormat_eq_error {formats : List String} :
    (∃ e, documentOutputFormat formats = .error e) ↔ "pdf" ∈ formats ∧ "xlsx" ∈ formats := by
  unfold documentOutputFormat
  by_cases hpdf : "pdf" ∈ formats <;> by_cases hxlsx : "xlsx" ∈ formats <;> simp [hpdf, hxlsx]

/-- Reading the end of a returned execution raises exactly on mixed formats. -/
theorem workItemCall_eq_error (policy : ReportJobWorkRetryPolicy) (workItemId token : String)
    (now : Instant) (result : ExecutionResult) :
    (∃ e, workItemCall policy workItemId token now result = .error e) ↔ MixedFormats result := by
  unfold workItemCall MixedFormats isTerminalJob
  cases custodyParked result.job with
  | true => simp
  | false =>
      cases result.waitingOnOwner with
      | true => simp
      | false =>
          rw [← documentOutputFormat_eq_error]
          by_cases hterminal : result.job.job.status.workTerminal = true
          · have hready : result.job.job.status ≠ .dataReady := by
              intro hready
              rw [hready] at hterminal
              cases hterminal
            simp [hterminal, hready, bind, Except.bind, pure, Except.pure]
          · by_cases hready : result.job.job.status = .dataReady
            · have hopen : ReportJobStatus.dataReady.workTerminal = false := rfl
              cases documentOutputFormat result.job.request.requestedOutputFormats with
              | error e => simp [hready, hopen, Except.map, bind, Except.bind]
              | ok format =>
                  cases format <;>
                    simp [hready, hopen, Except.map, bind, Except.bind, pure, Except.pure]
            · simp [hterminal, hready, bind, Except.bind, pure, Except.pure]

/-- The calls that end a returned execution are settlements by an unbound worker. -/
theorem settlesUnbound_of_workItemCall {policy : ReportJobWorkRetryPolicy}
    {workItemId token : String} {now : Instant} {result : ExecutionResult}
    (h : workItemCall policy workItemId token now result = .ok (some call)) :
    call.SettlesUnbound := by
  unfold workItemCall at h
  split at h
  · cases h
  · split at h
    · cases h
      trivial
    · obtain ⟨terminal, -, hcall⟩ := bind_eq_ok.mp h
      split at hcall
      · cases hcall
        trivial
      · cases hcall
        exact rfl

end Settle

section Round

variable {d : Deployment} {c : PassCall} {s t : Ledger} {w : WorkRow} {token : String}
  {deadline : ℚ} {r : Round}

/-- The end of an execution raises, other than for want of time, exactly when the worker still had
time and could not settle the item. -/
theorem settleExecution_raises (hs : s.Sound) :
    (∃ e, settleExecution d c w token deadline r s = .error e ∧ e ≠ .deadlineExpired) ↔
      ¬ (r.endedReading < deadline → EndsSoundly c w token r s) := by
  unfold settleExecution EndsSoundly
  cases r.ending with
  | interrupted => simp
  | raised message className =>
      by_cases hlate : deadline ≤ r.endedReading
      · simp [hlate]
      · simp only [hlate, if_false, not_le.mp hlate, forall_const]
        have hunbound : LedgerCall.SettlesUnbound (.failWorkItem w.workItemId token
            "report_job_worker_execution_failed" (if message = "" then className else message)
            c.retryPolicy none r.settledAt) := rfl
        rw [← settle_raises (d := d) hs hunbound]
        constructor
        · rintro ⟨e, h, he⟩
          rcases bind_eq_error.mp h with h | ⟨r, -, h⟩
          · exact ⟨e, h, he⟩
          · cases h
        · rintro ⟨e, h, he⟩
          exact ⟨e, bind_eq_error.mpr (Or.inl h), he⟩
  | returned result =>
      by_cases hlate : deadline ≤ r.endedReading
      · simp [hlate]
      · simp only [hlate, if_false, not_le.mp hlate, forall_const]
        rw [← workItemCall_eq_error c.retryPolicy w.workItemId token r.settledAt]
        cases hcall : workItemCall c.retryPolicy w.workItemId token r.settledAt result with
        | error e => simp
        | ok call =>
            cases call with
            | none => simp
            | some call =>
                have hunbound := settlesUnbound_of_workItemCall hcall
                simp only [reduceCtorEq, exists_false, not_false_eq_true, true_and,
                  Except.ok.injEq, Option.some.injEq, forall_eq']
                rw [← settle_raises (d := d) hs hunbound]
                constructor
                · rintro ⟨e, h, he⟩
                  rcases bind_eq_error.mp h with h | ⟨r, -, h⟩
                  · exact ⟨e, h, he⟩
                  · cases h
                · rintro ⟨e, h, he⟩
                  exact ⟨e, bind_eq_error.mpr (Or.inl h), he⟩

/-- A settled execution leaves the ledger of one more call, or the one it found, and an outcome of
its item. -/
theorem settleExecution_ok {outcome : ReportJobWorkOutcome}
    (h : settleExecution d c w token deadline r s = .ok (outcome, t)) :
    (t = s ∨ ∃ call, t = s.step d call) ∧ outcome.workItemId = w.workItemId ∧
      outcome.reportJobId = w.reportJobId := by
  unfold settleExecution at h
  split at h
  · cases h
  · split at h
    · cases h
    · obtain ⟨⟨row, t'⟩, hsettle, hlast⟩ := bind_eq_ok.mp h
      cases hlast
      exact ⟨Or.inr ⟨_, settle_ok hsettle⟩, rfl, rfl⟩
  · split at h
    · cases h
    · split at h
      · cases h
      · cases h
        exact ⟨Or.inl rfl, rfl, rfl⟩
      · obtain ⟨⟨row, t'⟩, hsettle, hlast⟩ := bind_eq_ok.mp h
        cases hlast
        exact ⟨Or.inr ⟨_, settle_ok hsettle⟩, rfl, rfl⟩

/-- The ledger that a round leaves. -/
def RoundEnd.ledger : RoundEnd → Ledger
  | .idle s | .reported _ _ s | .raised _ _ s => s

/-- The round ended with an exception. -/
def RoundEnd.Raises : RoundEnd → Prop
  | .raised _ _ _ => True
  | _ => False

/-- The outcome of a round is that of the item it claimed. -/
def RoundEnd.Reports : RoundEnd → Prop
  | .reported w outcome _ =>
      outcome.workItemId = w.workItemId ∧ outcome.reportJobId = w.reportJobId
  | _ => True

theorem executeWorkItem_raises (deadline : ℚ) (hs : t.Sound) (htoken : present w.leaseToken = true) :
    (executeWorkItem d c w deadline r t).Raises ↔ ¬ (r.endedReading < deadline →
      EndsSoundly c w (w.leaseToken.getD "") r (run (Ledger.step d) t r.during)) := by
  have hended := hs.run (d := d) r.during
  rw [← settleExecution_raises (d := d) hended]
  unfold executeWorkItem
  rw [if_pos htoken]
  simp only
  split
  · rename_i h
    simp [RoundEnd.Raises, h]
  · rename_i h
    simp [RoundEnd.Raises, h]
  · rename_i e hne h
    simp only [RoundEnd.Raises, true_iff, h]
    exact ⟨e, rfl, fun heq => hne heq⟩

theorem executeWorkItem_sound (hs : t.Sound) :
    (executeWorkItem d c w deadline r t).ledger.Sound ∧
      (executeWorkItem d c w deadline r t).Reports := by
  have hended := hs.run (d := d) r.during
  unfold executeWorkItem
  split
  · simp only
    split
    · rename_i outcome u h
      obtain ⟨hledger, hitem, hjob⟩ := settleExecution_ok h
      refine ⟨?_, hitem, hjob⟩
      rcases hledger with rfl | ⟨call, rfl⟩
      · exact hended
      · exact hended.step call
    · exact ⟨hended, rfl, rfl⟩
    · exact ⟨hended, trivial⟩
  · exact ⟨hs, trivial⟩

/-- The rows that a claim returns hold tokens that it issued. -/
theorem token_of_claims {claim : Ledger.ClaimCall} {n : Nat} {ids : List String}
    {rows : List WorkRow} (h : Ledger.forEachWorkItem
      (fun n f => f.claimWork claim.workerId (claim.leaseTokens n) claim.leaseSeconds
        claim.claimedAt claim.now) s n ids = .ok (rows, t)) :
    ∀ w ∈ rows, ∃ m, w.leaseToken = some (claim.leaseTokens m) := by
  induction ids generalizing s n rows with
  | nil =>
      cases h
      simp
  | cons id ids ih =>
      obtain ⟨⟨row, u⟩, hfirst, hrest⟩ := bind_eq_ok.mp h
      obtain ⟨⟨rows', t'⟩, hnext, hlast⟩ := bind_eq_ok.mp hrest
      cases hlast
      obtain ⟨-, f, f', -, -, -, hop, -⟩ := onWorkItem_eq_ok hfirst
      intro w hw
      rcases List.mem_append.mp hw with hw | hw
      · rcases claimWork_fileStep hop with ⟨rfl, -⟩ | ⟨⟨w₀, -, rfl⟩, -⟩
        · cases hw
        · cases List.mem_singleton.mp hw
          exact ⟨n, rfl⟩
      · exact ih hnext w hw

theorem token_of_claimed {claim : Ledger.ClaimCall} {rows : List WorkRow}
    (h : s.claimWorkItems claim = .ok (rows, t)) :
    ∀ w ∈ rows, ∃ m, w.leaseToken = some (claim.leaseTokens m) := by
  unfold Ledger.claimWorkItems at h
  split at h
  · cases h
    simp
  · obtain ⟨u, -, hclaims⟩ := bind_eq_ok.mp h
    exact token_of_claims hclaims

theorem present_claimed {rows : List WorkRow}
    (h : s.claimWorkItems (c.claim r) = .ok (w :: rows, t)) : present w.leaseToken = true := by
  obtain ⟨m, hm⟩ := token_of_claimed h w List.mem_cons_self
  have hne : "rlease_" ++ r.tokenHex ≠ "" := by
    intro hempty
    have hlist := congrArg String.toList hempty
    simp at hlist
  simp [present, hm, PassCall.claim, hne]

theorem sound_of_claimed (d : Deployment) (hs : s.Sound) {rows : List WorkRow}
    (h : s.claimWorkItems (c.claim r) = .ok (rows, t)) : t.Sound := by
  have hperform : (Call.ledger (.claimWorkItems (c.claim r))).perform d s = .ok t :=
    bind_eq_ok.mpr ⟨_, h, rfl⟩
  rw [← Ledger.step_of_ok hperform]
  exact hs.step _

theorem runItem_raises (deadline : ℚ) (hs : s.Sound) :
    (runItem d c deadline r s).Raises ↔ ¬ RoundSound d c deadline r s := by
  have hbefore := hs.run (d := d) r.before
  unfold runItem RoundSound
  simp only
  by_cases hlate : deadline ≤ r.enteredAt
  · simp [hlate, RoundEnd.Raises]
  · have hreturns := Ledger.claimWorkItems_returns hbefore (c := c.claim r) rfl rfl
    simp only [hlate, if_false, not_le.mp hlate, forall_const]
    cases hclaim : (run (Ledger.step d) s r.before).claimWorkItems (c.claim r) with
    | error e =>
        simp only [RoundEnd.Raises, true_iff]
        rintro ⟨hsweep, hlease, -⟩
        obtain ⟨result, hok⟩ := hreturns.mpr ⟨hsweep, hlease⟩
        rw [hclaim] at hok
        cases hok
    | ok claimed =>
        obtain ⟨rows, t⟩ := claimed
        obtain ⟨hsweep, hlease⟩ := hreturns.mp ⟨_, hclaim⟩
        cases rows with
        | nil =>
            simp only [RoundEnd.Raises, false_iff, not_not]
            exact ⟨hsweep, hlease, by simp⟩
        | cons w rows =>
            have hexecute := executeWorkItem_raises (d := d) (c := c) (r := r) deadline
              (sound_of_claimed d hbefore hclaim) (present_claimed hclaim)
            by_cases hclaimed : deadline ≤ r.claimedReading
            · simp only [hclaimed, if_true, RoundEnd.Raises, false_iff, not_not]
              refine ⟨hsweep, hlease, fun w' rows' t' h hearly => ?_⟩
              exact absurd hearly (not_lt.mpr hclaimed)
            · simp only [hclaimed, if_false]
              rw [hexecute, not_iff_not]
              constructor
              · intro h
                refine ⟨hsweep, hlease, fun w' rows' t' heq _ => ?_⟩
                cases heq
                exact h
              · rintro ⟨-, -, h⟩
                exact h w rows t rfl (not_le.mp hclaimed)

theorem runItem_sound (deadline : ℚ) (hs : s.Sound) :
    (runItem d c deadline r s).ledger.Sound ∧ (runItem d c deadline r s).Reports := by
  have hbefore := hs.run (d := d) r.before
  unfold runItem
  simp only
  split
  · exact ⟨hbefore, trivial⟩
  · split
    · exact ⟨hbefore, trivial⟩
    · rename_i t hclaim
      exact ⟨sound_of_claimed d hbefore hclaim, trivial⟩
    · rename_i w rows t hclaim
      have ht := sound_of_claimed d hbefore hclaim
      split
      · exact ⟨ht, rfl, rfl⟩
      · exact executeWorkItem_sound ht

end Round

section Pass

variable {d : Deployment} {c : PassCall} {passDeadline : ℚ} {p : Pass} {r : Round}

/-- No exception has left the loop. -/
def Pass.Calm (p : Pass) : Prop := ∀ e, p.ended ≠ some (.error e)

/-- The ledger is sound, and while no exception has left the loop there is one outcome for each
claimed item. -/
structure Pass.Consistent (p : Pass) : Prop where
  ledger : p.ledger.Sound
  reported : p.Calm → p.outcomes.map (fun o => (o.workItemId, o.reportJobId)) =
    p.claimed.map fun w => (w.workItemId, w.reportJobId)

theorem Pass.Consistent.step (h : p.Consistent) : (p.step d c passDeadline r).Consistent := by
  obtain ⟨hledger, hreported⟩ := runItem_sound (d := d) (c := c) (r := r)
    (itemDeadline passDeadline r) h.ledger
  unfold Pass.step
  split
  · exact h
  · rename_i hopen
    have hcalm : p.Calm := by
      intro e he
      simp [he] at hopen
    split
    · exact ⟨h.ledger, fun _ => h.reported hcalm⟩
    · split
      · rename_i s heq
        rw [heq] at hledger
        exact ⟨hledger, fun _ => h.reported hcalm⟩
      · rename_i w outcome s heq
        rw [heq] at hledger hreported
        refine ⟨hledger, fun _ => ?_⟩
        simp only [List.map_append, h.reported hcalm, List.map_singleton]
        rw [hreported.1, hreported.2]
      · rename_i w e s heq
        rw [heq] at hledger
        exact ⟨hledger, fun hquiet => absurd rfl (hquiet e)⟩

/-- A round lets an exception out of the loop exactly when it is entered and is not sound. -/
theorem Pass.step_calm (h : p.Consistent) (hcalm : p.Calm) :
    (p.step d c passDeadline r).Calm ↔ EntersSoundly d c passDeadline p r := by
  have hraises := runItem_raises (d := d) (c := c) (r := r) (itemDeadline passDeadline r)
    h.ledger
  unfold Pass.step EntersSoundly
  cases hended : p.ended with
  | some result => simp [hcalm]
  | none =>
      simp only [Option.isSome_none, Bool.false_eq_true, if_false, forall_const]
      by_cases hlate : passDeadline - r.startedAt < workItemSeconds
      · simp [hlate, not_le.mpr hlate, Pass.Calm]
      · rw [if_neg hlate]
        simp only [not_lt.mp hlate, forall_const]
        rw [← not_iff_not, ← hraises]
        cases runItem d c (itemDeadline passDeadline r) r p.ledger with
        | idle s => simp [Pass.Calm, RoundEnd.Raises]
        | reported w outcome s => simp [Pass.Calm, RoundEnd.Raises]
        | raised w e s => simp [Pass.Calm, RoundEnd.Raises]

theorem Pass.step_lost (h : ¬ p.Calm) : ¬ (p.step d c passDeadline r).Calm := by
  unfold Pass.step
  rw [if_pos]
  · exact h
  · unfold Pass.Calm at h
    push Not at h
    obtain ⟨e, he⟩ := h
    simp [he]

theorem Pass.result_ok (h : p.Calm) : p.result c = .ok
    { workerId := c.workerId
      claimedCount := p.outcomes.length
      completedCount := p.outcomes.countP fun o => o.workStatus == "completed"
      retryPendingCount := p.outcomes.countP fun o => o.workStatus == "retry_pending"
      failedCount := p.outcomes.countP fun o => o.workStatus == "failed"
      outcomes := p.outcomes } := by
  unfold Pass.result
  split
  · rename_i e he
    exact absurd he (h e)
  · rfl

/-- A pass of the worker, from every ledger that calls have built and in every environment,
returns a result with one outcome for each item that it claimed exactly when every round that it
enters is sound: the claim can be made, and so can the settlement of the claimed item when the
worker comes to it in time. -/
theorem survives_iff (d : Deployment) (c : PassCall) (calls : List Call) (startedAt : ℚ)
    (environment : Nat → Round) :
    Survives d c startedAt environment (run (Ledger.step d) Ledger.empty calls) ↔
      Along (Pass.step d c (startedAt + workPassSeconds))
        (EntersSoundly d c (startedAt + workPassSeconds))
        { ledger := run (Ledger.step d) Ledger.empty calls }
        ((List.range c.roundLimit).map environment) := by
  have hstart : Pass.Consistent { ledger := run (Ledger.step d) Ledger.empty calls } :=
    ⟨Ledger.sound_run d calls, fun _ => rfl⟩
  have hend : (c.rounds d startedAt environment
      (run (Ledger.step d) Ledger.empty calls)).Consistent :=
    run_induction (fun _ _ h => h.step) hstart _
  rw [← run_final_iff (I := Pass.Consistent) (fun _ _ h => h.step)
    (fun _ _ h hcalm => Pass.step_calm h hcalm) (fun _ _ h => Pass.step_lost h) hstart
    (by simp [Pass.Calm])]
  constructor
  · rintro ⟨result, hresult, -⟩ e he
    unfold runOnce Pass.result PassCall.rounds at hresult
    rw [he] at hresult
    cases hresult
  · intro hcalm
    have hreported := hend.reported hcalm
    refine ⟨_, Pass.result_ok hcalm, ?_, hreported⟩
    simpa using congrArg List.length hreported

end Pass

section Sample

/-- Two jobs that are not under custody, each with its work item. -/
def twoJobs : List Call :=
  [ sampleSubmit none,
    .ledger (.create (submitPortfolioReviewJob sampleCaller (some "key-2")
      ⟨"rrq_2", "rjob_2", "rwork_2", .ok none, 0⟩ sampleRequest)) ]

/-- A pass over two items under leases of thirty seconds. -/
def sampleTwoItemPass : PassCall := { workerId := "worker-1", maxItems := 2, leaseSeconds := 30 }

/-- Both executions raise. The second one takes forty-five seconds, and after forty another worker
claims work: its claim recovers the lease of the second item, which has expired. -/
def overtakenRound : Nat → Round
  | 0 =>
      { startedAt := 0, enteredAt := 0, claimedAt := 0, claimNow := 0, tokenHex := "1"
        claimedReading := 0, ending := .raised "render unavailable" "RuntimeError"
        endedReading := 0, settledAt := 0 }
  | _ =>
      { startedAt := 0, enteredAt := 0, claimedAt := 0, claimNow := 0, tokenHex := "2"
        claimedReading := 0, during := [sampleClaim 'b' (seconds 40)]
        ending := .raised "render unavailable" "RuntimeError"
        endedReading := 45, settledAt := seconds 45 }

/-- The settlement of the second item raises out of the pass, and the outcome of the first one is
lost with it. -/
theorem not_survives_overtaken :
    ((sampleTwoItemPass.rounds sampleDeployment 0 overtakenRound
      (run (Ledger.step sampleDeployment) Ledger.empty twoJobs)).outcomes.map fun o =>
        (o.workItemId, o.workStatus)) = [("rwork_1", "retry_pending")] ∧
      ((sampleTwoItemPass.rounds sampleDeployment 0 overtakenRound
        (run (Ledger.step sampleDeployment) Ledger.empty twoJobs)).claimed.map fun w =>
          w.workItemId) = ["rwork_1", "rwork_2"] ∧
      ¬ Survives sampleDeployment sampleTwoItemPass 0 overtakenRound
        (run (Ledger.step sampleDeployment) Ledger.empty twoJobs) := by
  refine ⟨by decide +kernel, by decide +kernel, ?_⟩
  have hraised : (runOnce sampleDeployment sampleTwoItemPass 0 overtakenRound
      (run (Ledger.step sampleDeployment) Ledger.empty twoJobs)).isOk = false := by decide +kernel
  rintro ⟨result, hresult, -⟩
  rw [hresult] at hraised
  cases hraised

end Sample

end LotusReport.Jobs
