import LotusReport.Batch.Changes
import LotusReport.Jobs.Calls
import LotusReport.StateMachine.Program

/-!
# Dispatch of batch items

`ReportBatchDispatcher.dispatch_batch` as a program over the batch ledger, the
report-job ledger and the clock: it reads the batch and the load, leases items,
and for every leased item creates the report job and records it on the item.
Dispatchers and calls of `recover_expired_leases` run on one store, together
with other calls on the two ledgers, and a dispatcher may stop anywhere.
Besides the ledgers the state lists the leases granted so far and the job that
every creation returned.
-/

namespace LotusReport.Batch

open Encoding Relational StateMachine

section BackPressure

/-- `BatchRuntimeLoad`. -/
structure BatchRuntimeLoad where
  activeBatches : Nat := 0
  activeItems : Nat := 0
  activeUpstreamJobs : Nat := 0
  activeRenderJobs : Nat := 0
  activeArchiveJobs : Nat := 0
deriving DecidableEq, Repr

/-- `BatchDispatchPolicy`; every limit is at least one. -/
structure BatchDispatchPolicy where
  maxActiveBatches : Nat := 1
  maxActiveItems : Nat := 5
  maxActiveUpstreamJobs : Nat := 3
  maxActiveRenderJobs : Nat := 2
  maxActiveArchiveJobs : Nat := 2
  leaseSeconds : Nat := 300
  positive : 1 ≤ maxActiveBatches ∧ 1 ≤ maxActiveItems ∧ 1 ≤ maxActiveUpstreamJobs ∧
    1 ≤ maxActiveRenderJobs ∧ 1 ≤ maxActiveArchiveJobs ∧ 1 ≤ leaseSeconds := by decide

/-- `evaluate_back_pressure`. -/
def evaluateBackPressure (load : BatchRuntimeLoad) (policy : BatchDispatchPolicy) : List String :=
  (if policy.maxActiveBatches ≤ load.activeBatches then ["max_active_batches_reached"] else []) ++
  (if policy.maxActiveItems ≤ load.activeItems then ["max_active_items_reached"] else []) ++
  (if policy.maxActiveUpstreamJobs ≤ load.activeUpstreamJobs then
    ["max_active_upstream_jobs_reached"] else []) ++
  (if policy.maxActiveRenderJobs ≤ load.activeRenderJobs then
    ["max_active_render_jobs_reached"] else []) ++
  (if policy.maxActiveArchiveJobs ≤ load.activeArchiveJobs then
    ["max_active_archive_jobs_reached"] else [])

/-- The load of `_runtime_load_for_batch`: the batch itself does not count as active. -/
def runtimeLoadForBatch (batch : BatchRow) (activeBatches activeItems : Nat)
    (external : BatchRuntimeLoad) : BatchRuntimeLoad where
  activeBatches :=
    (if batch.status = .running then activeBatches - 1 else activeBatches) + external.activeBatches
  activeItems := activeItems + external.activeItems
  activeUpstreamJobs := external.activeUpstreamJobs
  activeRenderJobs := external.activeRenderJobs
  activeArchiveJobs := external.activeArchiveJobs

/-- `count_active_batches`. -/
def BatchLedger.countActiveBatches (s : BatchLedger) : Nat :=
  s.batches.rows.countP fun b => b.status == .running

/-- `count_active_items`. -/
def BatchLedger.countActiveItems (s : BatchLedger) : Nat :=
  s.items.rows.countP fun i => i.status == .leased || i.status == .waitingOnReportJob

end BackPressure

section Requests

/-- The capital of a character where it is a letter of `ADVISOR_COMMENTARY`. Outside ASCII the
dotless `i` and the long `s` have such a capital. -/
def capital (c : Char) : Char :=
  if 97 ≤ c.toNat ∧ c.toNat ≤ 122 then Char.ofNat (c.toNat - 32)
  else if c.toNat = 0x131 then 'I'
  else if c.toNat = 0x17F then 'S'
  else c

/-- `item.upper() == "ADVISOR_COMMENTARY"` for an item that is a text. -/
def isAdvisorCommentary : Json → Bool
  | .str text => text.toList.map capital == "ADVISOR_COMMENTARY".toList
  | _ => false

/-- The message of `_advisor_commentary_requires_run_id`, as the validation error carries it. -/
def commentaryWithoutRunMessage : String :=
  "Value error, options.advisor_brief_run_id is required when the ADVISOR_COMMENTARY " ++
  "section is requested: the section is sourced only from an accepted " ++
  "Advisor Brief run and lotus-report never chooses one implicitly."

/-- `_advisor_commentary_requires_run_id`. -/
def advisorCommentaryRequiresRunId (options : Fields) : Except String Unit :=
  let sectionRequested := match Json.lookup options "sections" with
    | some (.arr sections) => sections.any isAdvisorCommentary
    | _ => false
  let hasRunId := match Json.lookup options "advisor_brief_run_id" with
    | some (.str runId) => strip runId != ""
    | _ => false
  if sectionRequested && !hasRunId then .error commentaryWithoutRunMessage else .ok ()

/-- The request for one item of a batch, or the message with which it is refused. -/
def itemRequest (batch : BatchRow) (portfolioId : String) :
    Except String Jobs.PortfolioReviewJobRequest := do
  let options := (Jobs.objectFields batch.options).getD []
  advisorCommentaryRequiresRunId options
  return {
    portfolioScope := [("portfolio_ids", Json.ofTexts [portfolioId])]
    asOfDate := batch.asOfDate
    requestedOutputFormats := batch.requestedOutputFormats
    reportingCurrency := batch.reportingCurrency
    options := options }

end Requests

section Calls

/-- A lease of an item, with the moment of the grant and the end it was granted until. -/
structure LeaseGrant where
  batchItemId : String
  workerId : String
  grantedAt : Instant
  expiresAt : Instant
deriving DecidableEq, Repr

/-- The two ledgers, the clock, the leases granted (the newest first), and the item and the job of
every creation that returned. -/
structure DispatchState where
  ledger : BatchLedger
  jobs : Jobs.Ledger
  clock : Instant
  granted : List LeaseGrant
  created : List (String × String)

/-- The calls of dispatchers and of lease recovery, those of other components, and time. -/
inductive DispatchCall where
  | utcNow
  | getBatch (batchId : String)
  | countActiveBatches
  | countActiveItems
  | acquireDispatchItems (batchId workerId : String) (leaseSeconds limit : Int)
      (leaseToken : String) (now : Instant)
  | createPortfolioReviewJob (item : BatchItemRow) (call : Jobs.CreateCall)
  | markItemFailed (batchItemId errorCategory errorSummary : String) (retryable : Bool)
      (maxAttempts : Nat) (now : Instant)
  | markItemWaitingOnReportJob (batchItemId leaseToken reportJobId : String) (now : Instant)
  | recoverExpiredLeases (batchId : String) (now : Instant)
  | batches (call : BatchCall)
  | jobs (call : Jobs.Call)
  | elapse (duration : Nat)

/-- What a call returns. -/
def DispatchCall.Result : DispatchCall → Type
  | utcNow => Instant
  | getBatch _ => Transaction ReportBatchRecord
  | countActiveBatches => Nat
  | countActiveItems => Nat
  | acquireDispatchItems _ _ _ _ _ _ => Transaction (List BatchItemRow)
  | createPortfolioReviewJob _ _ => Except Jobs.LedgerError Jobs.JobFile
  | markItemFailed _ _ _ _ _ _ => Transaction BatchItemRow
  | markItemWaitingOnReportJob _ _ _ _ => Transaction BatchItemRow
  | recoverExpiredLeases _ _ => Transaction BatchRecoveryResult
  | batches _ => Unit
  | jobs _ => Unit
  | elapse _ => Unit

/-- The value of a transaction. -/
def valueOf {α : Type} : Transaction (α × BatchLedger) → Transaction α
  | .ok (value, _) => .ok value
  | .error error => .error error

/-- The leases that an acquisition grants. -/
def grantsOf (workerId : String) (clock expiresAt : Instant) :
    Transaction (List BatchItemRow × BatchLedger) → List LeaseGrant
  | .ok (items, _) => items.map fun i => ⟨i.batchItemId, workerId, clock, expiresAt⟩
  | .error _ => []

/-- Execute a call. -/
def DispatchState.perform (d : Jobs.Deployment) (s : DispatchState) :
    (call : DispatchCall) → DispatchState × call.Result
  | .utcNow => (s, s.clock)
  | .getBatch batchId => (s, s.ledger.loadBatch batchId)
  | .countActiveBatches => (s, s.ledger.countActiveBatches)
  | .countActiveItems => (s, s.ledger.countActiveItems)
  | .acquireDispatchItems batchId workerId leaseSeconds limit leaseToken now =>
      let outcome := s.ledger.acquireDispatchItems batchId workerId leaseSeconds limit leaseToken now
      ({ s with
          ledger := stateAfter s.ledger outcome
          granted := grantsOf workerId s.clock (now + seconds leaseSeconds) outcome ++ s.granted },
        valueOf outcome)
  | .createPortfolioReviewJob item call =>
      match s.jobs.createReportJob d call with
      | .ok (record, jobs) =>
          ({ s with
              jobs := jobs
              created := s.created ++ [(item.batchItemId, record.job.reportJobId)] },
            .ok record)
      | .error error => (s, .error error)
  | .markItemFailed batchItemId errorCategory errorSummary retryable maxAttempts now =>
      let outcome := s.ledger.markItemFailed batchItemId errorCategory errorSummary retryable
        maxAttempts none now
      ({ s with ledger := stateAfter s.ledger outcome }, valueOf outcome)
  | .markItemWaitingOnReportJob batchItemId leaseToken reportJobId now =>
      let outcome := s.ledger.markItemWaitingOnReportJob batchItemId leaseToken reportJobId now
      ({ s with ledger := stateAfter s.ledger outcome }, valueOf outcome)
  | .recoverExpiredLeases batchId now =>
      let outcome := s.ledger.recoverExpiredLeases batchId now
      ({ s with ledger := stateAfter s.ledger outcome }, valueOf outcome)
  | .batches call => ({ s with ledger := Batch.step d.toRuntime s.ledger call }, ())
  | .jobs call => ({ s with jobs := s.jobs.step d call }, ())
  | .elapse duration => ({ s with clock := s.clock + duration }, ())

end Calls

section Passes

/-- A call of `dispatch_batch`, with the lease token and the identifiers that are generated for
the item at each position. -/
structure DispatchPass where
  batchId : String
  callerContext : ReportCallerContext
  workerId : String
  runtimeLoad : BatchRuntimeLoad := {}
  policy : BatchDispatchPolicy := {}
  leaseToken : String
  generated : Nat → Jobs.Generated

/-- `BatchDispatchResult`. -/
structure BatchDispatchResult where
  batchId : String
  leasedCount : Nat := 0
  dispatchedCount : Nat := 0
  reportJobIds : List String := []
  backPressureReasons : List String := []
deriving DecidableEq, Repr

/-- How a dispatch fails. -/
inductive DispatchFailure where
  | missingLeaseToken
  | ledger (error : BatchLedgerError)
  | jobs (error : Jobs.LedgerError)

/-- Programs of dispatchers. -/
abbrev DispatchProgram := Program DispatchCall DispatchCall.Result

/-- `max_attempts` of the default `BatchRetryPolicy`. -/
def defaultMaxAttempts : Nat := 3

/-- Fail an item whose request is refused. -/
def failItem (item : BatchItemRow) (message : String) : DispatchProgram (Transaction BatchItemRow) :=
  .call .utcNow fun now =>
    .call (.markItemFailed item.batchItemId "validation_failed"
        (clip 500 ("Report job request rejected: " ++ message)) false defaultMaxAttempts now)
      fun outcome => .done outcome

/-- Create the report job of an item and record it on the item. -/
def linkItem (pass : DispatchPass) (position : Nat) (item : BatchItemRow) (leaseToken : String)
    (request : Jobs.PortfolioReviewJobRequest) : DispatchProgram (Except DispatchFailure String) :=
  .call .utcNow fun acceptedAt =>
    .call (.createPortfolioReviewJob item (Jobs.createPortfolioReviewJob pass.callerContext
        (some item.itemIdempotencyKey) { pass.generated position with now := acceptedAt } request))
      fun accepted =>
        match (accepted : Except Jobs.LedgerError Jobs.JobFile) with
        | .error error => .done (.error (.jobs error))
        | .ok record =>
            .call .utcNow fun dispatchedAt =>
              .call (.markItemWaitingOnReportJob item.batchItemId leaseToken
                  record.job.reportJobId dispatchedAt) fun outcome =>
                match (outcome : Transaction BatchItemRow) with
                | .error error => .done (.error (.ledger error))
                | .ok _ => .done (.ok record.job.reportJobId)

/-- The loop over the leased items, from a position on. -/
def dispatchItems (pass : DispatchPass) (batch : BatchRow) : Nat → List BatchItemRow →
    List String → DispatchProgram (Except DispatchFailure (List String))
  | _, [], reportJobIds => .done (.ok reportJobIds)
  | position, item :: items, reportJobIds =>
      match item.lease.token with
      | none => .done (.error .missingLeaseToken)
      | some leaseToken =>
          match itemRequest batch item.portfolioId with
          | .error message =>
              (failItem item message).bind fun
                | .error error => .done (.error (.ledger error))
                | .ok _ => dispatchItems pass batch (position + 1) items reportJobIds
          | .ok request =>
              (linkItem pass position item leaseToken request).bind fun
                | .error error => .done (.error error)
                | .ok reportJobId =>
                    dispatchItems pass batch (position + 1) items (reportJobIds ++ [reportJobId])

/-- Lease items up to the capacity and dispatch them. -/
def dispatchLeased (pass : DispatchPass) (batch : BatchRow) (load : BatchRuntimeLoad) :
    DispatchProgram (Except DispatchFailure BatchDispatchResult) :=
  let capacity : Int := pass.policy.maxActiveItems - load.activeItems
  .call .utcNow fun now =>
    .call (.acquireDispatchItems pass.batchId pass.workerId pass.policy.leaseSeconds
        (min pass.policy.maxActiveItems capacity) pass.leaseToken now) fun leased =>
      match (leased : Transaction (List BatchItemRow)) with
      | .error error => .done (.error (.ledger error))
      | .ok items =>
          (dispatchItems pass batch 0 items []).bind fun
            | .error error => .done (.error error)
            | .ok reportJobIds => .done (.ok
                { batchId := pass.batchId
                  leasedCount := items.length
                  dispatchedCount := reportJobIds.length
                  reportJobIds := reportJobIds })

/-- `dispatch_batch`. -/
def dispatchBatch (pass : DispatchPass) :
    DispatchProgram (Except DispatchFailure BatchDispatchResult) :=
  .call (.getBatch pass.batchId) fun found =>
    match (found : Transaction ReportBatchRecord) with
    | .error error => .done (.error (.ledger error))
    | .ok record =>
        .call .countActiveBatches fun activeBatches =>
          .call .countActiveItems fun activeItems =>
            let load := runtimeLoadForBatch record.batch activeBatches activeItems pass.runtimeLoad
            match evaluateBackPressure load pass.policy with
            | [] => dispatchLeased pass record.batch load
            | reasons => .done (.ok { batchId := pass.batchId, backPressureReasons := reasons })

/-- The calls on the batch ledger that other components make before a replay: creations, controls
and successful settlements. -/
def BatchCall.besidesDispatch : BatchCall → Bool
  | .createBatch _ _ _ _ _ _ => true
  | .markItemSucceeded _ _ _ => true
  | .retryFailedItems _ _ _ => true
  | .pauseBatch _ _ => true
  | .resumeBatch _ _ => true
  | .cancelBatch _ _ => true
  | _ => false

/-- What may start: a dispatcher, a lease recovery, a call of another component, a wait. -/
inductive DispatchActivity where
  | dispatch (pass : DispatchPass)
  | recover (batchId : String)
  | batches (call : { call : BatchCall // call.besidesDispatch = true })
  | jobs (call : Jobs.Call)
  | elapse (duration : Nat)

/-- The program of an activity. -/
def DispatchActivity.program : DispatchActivity →
    DispatchProgram (Option (Except DispatchFailure BatchDispatchResult))
  | dispatch pass => (dispatchBatch pass).bind fun result => .done (some result)
  | recover batchId =>
      .call .utcNow fun now => .call (.recoverExpiredLeases batchId now) fun _ => .done none
  | batches call => .call (.batches call.val) fun _ => .done none
  | jobs call => .call (.jobs call) fun _ => .done none
  | elapse duration => .call (.elapse duration) fun _ => .done none

/-- The store with the activities under way. -/
abbrev DispatchSystem :=
  System DispatchState DispatchCall DispatchCall.Result
    (Option (Except DispatchFailure BatchDispatchResult))

/-- One step of the dispatch system. -/
def dispatchStep (d : Jobs.Deployment) : DispatchSystem → Event DispatchActivity → DispatchSystem :=
  System.step (DispatchState.perform d) DispatchActivity.program

/-- Empty ledgers at an instant. -/
def DispatchSystem.empty (clock : Instant) : DispatchSystem :=
  System.initial ⟨.empty, .empty, clock, [], []⟩

end Passes

end LotusReport.Batch
