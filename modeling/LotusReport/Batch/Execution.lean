import LotusReport.Batch.Changes
import LotusReport.Jobs.Execution

/-!
# Execution of batch items

The batch executor runs a pass over the job of a waiting item and settles the
item from the status of the job alone, while the worker of the job reads the
whole result of a pass. They agree unless the owner is still awaited, the custody
of the job was given up, the job was cancelled, or only a spreadsheet was asked
for.
-/

namespace LotusReport.Batch

open Encoding Relational StateMachine

section Executor

/-- Why a linked job cannot be read. -/
inductive JobLookupError where
  | notFound
  | fault (message : String)

/-- What the executor reads and calls in the job ledger. -/
structure ExecutionPorts extends Jobs.ExecutionServices where
  getJob : String → Except JobLookupError Jobs.JobFile
  finds : ∀ jobId f, getJob jobId = .ok f → f.job.reportJobId = jobId

/-- `execute_job`. -/
def ExecutionPorts.executeJob (ports : ExecutionPorts) (jobId : String) :
    Except String Jobs.ExecutionResult :=
  match ports.getJob jobId with
  | .ok f => ports.executeAdmittedJob f
  | .error .notFound => .error "ReportJobNotFoundError"
  | .error (.fault message) => .error message

/-- `_is_successful_job`. -/
def isSuccessfulJob (f : Jobs.JobFile) : Bool :=
  f.job.status == .completed || f.job.status == .completedWithWarnings ||
    f.job.status == .archived ||
    f.job.status == .dataReady && "pdf" ∉ f.request.requestedOutputFormats

/-- `BatchItemExecutionResult`. -/
structure ItemExecutionResult where
  batchId : String
  batchItemId : String
  reportJobId : String
  itemStatus : BatchItemStatus
  reportJobStatus : String
  failureCategory : Option String := none
  retryEligible : Bool := false

/-- The exceptions of `execute_item`. -/
inductive ExecutionError where
  | itemNotFound
  | notWaiting
  | reportJobMissing
  | ledger (error : BatchLedgerError)

def ExecutionError.code : ExecutionError → String
  | itemNotFound => "report_batch_item_not_found"
  | notWaiting => "batch_item_not_waiting_on_report_job"
  | reportJobMissing => "batch_item_report_job_missing"
  | ledger error => error.code

/-- What the executor makes of a waiting item. -/
inductive ItemOutcome where
  | succeeded (job : Jobs.JobFile)
  | failed (errorCategory errorSummary : String) (retryable : Bool) (reportJobStatus : String)
  | waits (job : Jobs.JobFile)

/-- What the result of a pass makes of it. -/
def outcomeOf (r : Jobs.ExecutionResult) : ItemOutcome :=
  if isSuccessfulJob r.job then .succeeded r.job
  else if r.job.job.status = .failed then
    .failed ((r.job.job.failureCategory.map Jobs.ReportFailureCategory.text).getD "report_job_failed")
      (match r.job.job.failureMessage with
        | some message => if message = "" then "Report job failed." else message
        | none => "Report job failed.")
      r.job.job.retryEligible r.job.job.status.text
  else .waits r.job

/-- `_quarantine_unusable_linked_job`, and the pass over a job that is usable. -/
def ExecutionPorts.outcome (ports : ExecutionPorts) (batch : BatchRow) (reportJobId : String) :
    ItemOutcome :=
  match ports.getJob reportJobId with
  | .error .notFound => .failed "batch_item_report_job_missing"
      ("Linked report job does not exist; execution refused and the item " ++
        "quarantined for operator review.") false "not_executed"
  | .error (.fault message) => .failed "batch_execution_failed" message true "unknown"
  | .ok f =>
      if f.request.tenantId ≠ batch.tenantId then .failed "batch_item_tenant_mismatch"
        ("Linked report job belongs to a different tenant than its batch; " ++
          "execution refused and the item quarantined for operator review.") false "not_executed"
      else
        match ports.executeJob reportJobId with
        | .ok r => outcomeOf r
        | .error message => .failed "batch_execution_failed" message true "unknown"

/-- The write that an outcome asks for. -/
def BatchLedger.applyOutcome (s : BatchLedger) (maxAttempts : Nat) (now : Instant)
    (item : BatchItemRow) (reportJobId : String) :
    ItemOutcome → Transaction (ItemExecutionResult × BatchLedger)
  | .succeeded job => do
      let (settled, s) ← s.markItemSucceeded item.batchItemId job.job.reportJobId now
      return (⟨item.batchId, item.batchItemId, job.job.reportJobId, settled.status,
        job.job.status.text, none, false⟩, s)
  | .failed errorCategory errorSummary retryable reportJobStatus => do
      let (settled, s) ← s.markItemFailed item.batchItemId errorCategory errorSummary retryable
        maxAttempts none now
      return (⟨item.batchId, item.batchItemId, reportJobId, settled.status, reportJobStatus,
        settled.lastErrorCategory, settled.retryEligible⟩, s)
  | .waits job => .ok (⟨item.batchId, item.batchItemId, job.job.reportJobId, item.status,
      job.job.status.text, none, false⟩, s)

/-- `execute_item`. -/
def BatchLedger.executeItem (ports : ExecutionPorts) (maxAttempts : Nat) (now : Instant)
    (s : BatchLedger) (batchId batchItemId : String) :
    Except ExecutionError (ItemExecutionResult × BatchLedger) :=
  match s.loadBatch batchId with
  | .error e => .error (.ledger e)
  | .ok record =>
      match record.items.find? fun i => i.batchItemId == batchItemId with
      | none => .error .itemNotFound
      | some item =>
          if item.status ≠ .waitingOnReportJob then .error .notWaiting
          else
            match item.reportJobId with
            | none => .error .reportJobMissing
            | some reportJobId =>
                (s.applyOutcome maxAttempts now item reportJobId
                  (ports.outcome record.batch reportJobId)).mapError .ledger

end Executor

section Agreement

variable {s : BatchLedger} {i : BatchItemRow}

/-- The item waits on its job no more. -/
def LeavesWaiting (s : BatchLedger) (batchItemId : String) : Prop :=
  ∀ i ∈ s.items.rows, i.batchItemId = batchItemId → i.status ≠ .waitingOnReportJob

/-- The executor, which left the ledger `s`, and the worker agree on the result of a pass. -/
structure AgreeOnDone (s : BatchLedger) (batchItemId : String) (r : Jobs.ExecutionResult) :
    Prop where
  exactly : LeavesWaiting s batchItemId ↔ Jobs.Settles r
  awaited : r.waitingOnOwner = true → ¬ LeavesWaiting s batchItemId
  terminal : Jobs.TerminalJob r.job → r.waitingOnOwner = false → LeavesWaiting s batchItemId
  succeeded : ∀ i ∈ s.items.rows, i.batchItemId = batchItemId → i.status = .succeeded →
    r.waitingOnOwner = false

/-- The results that executor and worker read alike. -/
def readAlike (r : Jobs.ExecutionResult) : Bool :=
  match r.job.job.status with
  | .completed | .completedWithWarnings | .archived | .failed =>
      !r.waitingOnOwner && !Jobs.custodyParked r.job
  | .cancelled => r.waitingOnOwner
  | .dataReady => "pdf" ∈ r.job.request.requestedOutputFormats ||
      !r.waitingOnOwner && !Jobs.custodyParked r.job &&
        "xlsx" ∉ r.job.request.requestedOutputFormats
  | .accepted | .queued | .collectingData | .rendering | .archiving => true

/-- The executor settles the item. -/
def settlesItem (r : Jobs.ExecutionResult) : Bool :=
  isSuccessfulJob r.job || r.job.job.status == .failed

theorem status_of_settled {p : BatchItemRow → Bool}
    {a : ItemAssignment}
    (hi : i ∈ s.items.rows) (hp : p i = true) {i' : BatchItemRow}
    (hi' : i' ∈ (s.items.update (fun j => j.batchItemId == i.batchItemId && p j) a).rows)
    (hid : i'.batchItemId = i.batchItemId) : i' = a.set i := by
  rcases Table.mem_update.mp hi' with ⟨hold, hnot⟩ | ⟨j, hj, hpj, rfl⟩
  · have heq : i' = i := List.inj_on_of_nodup_map s.items.key_nodup hold hi hid
    simp [heq, hp] at hnot
  · simp only [Bool.and_eq_true, beq_iff_eq] at hpj
    rw [List.inj_on_of_nodup_map s.items.key_nodup hj hi hpj.1]

/-- A settled item leaves a ledger in which it waits no more, with the status it was given. -/
theorem settled_ledger {p : BatchItemRow → Bool}
    {a : ItemAssignment}
    (hi : i ∈ s.items.rows) (hp : p i = true) (now : Instant) :
    ∃ s', BatchLedger.thenRefresh now (s.updateItem i.batchItemId p a .itemNotFound) =
        .ok (a.set i, s') ∧
      ∀ i' ∈ s'.items.rows, i'.batchItemId = i.batchItemId → i'.status = (a.set i).status := by
  rw [updateItem_of_mem hi rfl hp]
  refine ⟨_, rfl, fun i' hi' hid => ?_⟩
  rw [items_refreshBatchStatus] at hi'
  rw [status_of_settled hi hp hi' hid]

/-- What a pass makes of a waiting item: it leaves its status exactly when the executor settles
it, and succeeds only with a successful job. -/
theorem applyOutcome_outcomeOf (maxAttempts : Nat) (now : Instant) {reportJobId : String}
    {r : Jobs.ExecutionResult} (hi : i ∈ s.items.rows) (hwaiting : i.status = .waitingOnReportJob)
    (hjob : i.reportJobId = some reportJobId) (hid : r.job.job.reportJobId = reportJobId) :
    ∃ result s', s.applyOutcome maxAttempts now i reportJobId (outcomeOf r) = .ok (result, s') ∧
      (LeavesWaiting s' i.batchItemId ↔ settlesItem r = true) ∧
      ((∃ i' ∈ s'.items.rows, i'.batchItemId = i.batchItemId ∧ i'.status = .succeeded) →
        isSuccessfulJob r.job = true) := by
  cases hsuccess : isSuccessfulJob r.job with
  | true =>
      obtain ⟨s', hmarked, hstatus⟩ := settled_ledger (s := s) (i := i)
        (p := fun i => i.reportJobId == some r.job.job.reportJobId && i.status == .waitingOnReportJob)
        hi (by simp [hjob, hid, hwaiting]) now
      rw [outcomeOf, if_pos hsuccess, BatchLedger.applyOutcome, BatchLedger.markItemSucceeded, hmarked]
      refine ⟨_, s', rfl, iff_of_true (fun i' hi' hid' => ?_) (by simp [settlesItem, hsuccess]),
        fun _ => rfl⟩
      rw [hstatus i' hi' hid']
      exact fun h => by cases h
  | false =>
      rw [outcomeOf, if_neg (by simp [hsuccess])]
      by_cases hfailed : r.job.job.status = .failed
      · rw [if_pos hfailed, BatchLedger.applyOutcome, BatchLedger.markItemFailed]
        obtain ⟨s', hmarked, hstatus⟩ := settled_ledger (s := s) (i := i) (p := fun _ => true) hi rfl now
        rw [hmarked]
        have hnot : ∀ i' ∈ s'.items.rows, i'.batchItemId = i.batchItemId →
            i'.status = .failedRetryable ∨ i'.status = .failedTerminal := by
          intro i' hi' hid'
          rw [hstatus i' hi' hid']
          simp only [BatchLedger.itemSet, batchItemFailureOutcome]
          split
          · exact Or.inl rfl
          · exact Or.inr rfl
        refine ⟨_, s', rfl, iff_of_true (fun i' hi' hid' => ?_) (by simp [settlesItem, hfailed]), ?_⟩
        · rcases hnot i' hi' hid' with h | h <;> rw [h] <;> exact fun h => by cases h
        · rintro ⟨i', hi', hid', hsucceeded⟩
          rcases hnot i' hi' hid' with h | h <;> rw [h] at hsucceeded <;> cases hsucceeded
      · rw [if_neg hfailed]
        refine ⟨_, s, rfl, iff_of_false (fun h => h i hi rfl hwaiting) ?_, ?_⟩
        · simp [settlesItem, hsuccess, hfailed]
        · rintro ⟨i', hi', hid', hsucceeded⟩
          rw [List.inj_on_of_nodup_map s.items.key_nodup hi' hi hid', hwaiting] at hsucceeded
          cases hsucceeded

/-- The executor and the worker come to the same, case by case of the job's status. -/
theorem settlesItem_iff_settles (r : Jobs.ExecutionResult) :
    ((settlesItem r = true ↔ Jobs.Settles r) ∧
      (Jobs.TerminalJob r.job → r.waitingOnOwner = false → settlesItem r = true)) ↔
      readAlike r = true := by
  rw [Jobs.settles_iff, Jobs.terminalJob_iff]
  unfold settlesItem isSuccessfulJob readAlike
  cases hstatus : r.job.job.status <;> cases r.waitingOnOwner <;>
    cases Jobs.custodyParked r.job <;>
    by_cases hpdf : "pdf" ∈ r.job.request.requestedOutputFormats <;>
    by_cases hxlsx : "xlsx" ∈ r.job.request.requestedOutputFormats <;>
    simp [hpdf, hxlsx, Jobs.ReportJobStatus.workTerminal]

theorem find_item {b : BatchRow} (hi : i ∈ s.items.rows) (hbatch : i.batchId = b.batchId) :
    ((BatchLedger.byPosition (s.itemsOf b.batchId)).find? fun j => j.batchItemId == i.batchItemId) =
      some i := by
  have hmem : ∀ {j : BatchItemRow}, j ∈ BatchLedger.byPosition (s.itemsOf b.batchId) ↔
      j ∈ s.itemsOf b.batchId := (List.perm_insertionSort _ _).mem_iff
  have hitem : i ∈ s.itemsOf b.batchId := List.mem_filter.mpr ⟨hi, by simpa using hbatch⟩
  cases hfind : (BatchLedger.byPosition (s.itemsOf b.batchId)).find? fun j =>
      j.batchItemId == i.batchItemId with
  | none => simpa using List.find?_eq_none.mp hfind i (hmem.mpr hitem)
  | some j =>
      have hj := List.mem_filter.mp (hmem.mp (List.mem_of_find?_eq_some hfind))
      have hid : j.batchItemId = i.batchItemId := by simpa using List.find?_some hfind
      rw [List.inj_on_of_nodup_map s.items.key_nodup hj.1 hi hid]

/-- The executor runs on a waiting item with a usable job, and it agrees with the worker exactly
on the results that both read alike. -/
theorem execute_item_agrees_iff (ports : ExecutionPorts) (maxAttempts : Nat) (now : Instant)
    {b : BatchRow} {reportJobId : String} {f : Jobs.JobFile} {r : Jobs.ExecutionResult}
    (hb : b ∈ s.batches.rows) (hi : i ∈ s.items.rows) (hbatch : i.batchId = b.batchId)
    (hwaiting : i.status = .waitingOnReportJob) (hjob : i.reportJobId = some reportJobId)
    (hfound : ports.getJob reportJobId = .ok f) (htenant : f.request.tenantId = b.tenantId)
    (hexecuted : ports.executeJob reportJobId = .ok r) :
    ∃ result s', s.executeItem ports maxAttempts now b.batchId i.batchItemId = .ok (result, s') ∧
      (AgreeOnDone s' i.batchItemId r ↔ readAlike r = true) := by
  have hid : r.job.job.reportJobId = reportJobId := by
    have hpass := hexecuted
    simp only [ExecutionPorts.executeJob, hfound] at hpass
    exact (Jobs.executeAdmittedJob_jobId hpass).trans (ports.finds reportJobId f hfound)
  obtain ⟨result, s', happlied, hleaves, hsucceeded⟩ :=
    applyOutcome_outcomeOf maxAttempts now hi hwaiting hjob hid
  have hload : s.loadBatch b.batchId =
      .ok ⟨b, BatchLedger.byPosition (s.itemsOf b.batchId)⟩ := by
    simp only [BatchLedger.loadBatch, Table.find?_key hb]
  have hrun : s.executeItem ports maxAttempts now b.batchId i.batchItemId = .ok (result, s') := by
    unfold BatchLedger.executeItem
    simp only [hload, find_item hi hbatch, hwaiting, hjob, ExecutionPorts.outcome, hfound, htenant,
      hexecuted, ne_eq, not_true_eq_false, if_false, happlied, Except.mapError]
  refine ⟨result, s', hrun, ?_⟩
  rw [← settlesItem_iff_settles r]
  constructor
  · intro h
    exact ⟨hleaves.symm.trans h.exactly, fun hterminal hquiet =>
      hleaves.mp (h.terminal hterminal hquiet)⟩
  · rintro ⟨hexactly, hterminal⟩
    refine ⟨hleaves.trans hexactly, fun hawaited hout => ?_, fun hdone hquiet =>
      hleaves.mpr (hterminal hdone hquiet), fun i' hi' hid' hstatus => ?_⟩
    · have hsettled := (Jobs.settles_iff r).mp (hexactly.mp (hleaves.mp hout))
      rw [hsettled.2.1] at hawaited
      cases hawaited
    · have hsuccess := hsucceeded ⟨i', hi', hid', hstatus⟩
      have hsettled := hexactly.mp (by simp [settlesItem, hsuccess])
      exact ((Jobs.settles_iff r).mp hsettled).2.1

end Agreement

section Sample

/-- The job of item `rbit_1`: a pdf of the given status. -/
def linkedJob (status : Jobs.ReportJobStatus) : Jobs.JobFile where
  request :=
    { reportRequestId := "rrq_1"
      reportType := "portfolio_review"
      portfolioScope := [("portfolio_ids", .ofTexts ["PF_1"])]
      requestedOutputFormats := ["pdf"]
      asOfDate := "2026-04-22"
      reportingCurrency := none
      options := []
      triggerType := .system
      triggeredBy := "worker-1"
      callerApplication := "lotus-report"
      tenantId := "tenant-sg"
      region := "APAC"
      bookingCenterCode := none
      role := none
      idempotencyKey := "item-key-1"
      requestHash := "hash-1"
      correlationId := "corr-1"
      traceId := "trace-1"
      createdAt := dtToText 1500000 }
  job :=
    { reportJobId := "rjob_1"
      reportRequestId := "rrq_1"
      reportType := "portfolio_review"
      portfolioScope := [("portfolio_ids", .ofTexts ["PF_1"])]
      status := status
      currentStep := "render"
      createdAt := dtToText 1500000
      updatedAt := dtToText 1500000 }
  work := none
  events := []

/-- Ports to one job, whose render either waits on its owner or ends in a status. -/
def samplePorts (status : Jobs.ReportJobStatus) (rendered : Option Jobs.ReportJobStatus) :
    ExecutionPorts where
  captureForJob := .ok
  renderForJob f := .ok (match rendered with
    | none => .waiting f
    | some status => .advanced { f with job := { f.job with status := status } })
  captures f f' h := by rw [Except.ok.inj h]
  renders f f' h := by
    cases rendered with
    | none =>
        rcases h with h | h <;> cases h
        rfl
    | some status =>
        rcases h with h | h <;> cases h
        rfl
  getJob jobId := if jobId = "rjob_1" then .ok (linkedJob status) else .error .notFound
  finds jobId f h := by
    split at h
    · rename_i heq
      cases h
      exact heq.symm
    · cases h

/-- The ledger with item `rbit_1` waiting on job `rjob_1`. -/
def waitingLedger : BatchLedger :=
  run (step Runtime.verbatim) BatchLedger.empty (dispatchedBatch ["PF_1"])

/-- The job is archived: the item leaves its status, and the worker settles its work item. -/
theorem execute_item_agrees_archived : ∃ result s',
    waitingLedger.executeItem (samplePorts .dataReady (some .archived)) 3 3000000 "rbch_1" "rbit_1" =
      .ok (result, s') ∧
    AgreeOnDone s' "rbit_1" ⟨linkedJob .archived, false⟩ := by
  obtain ⟨b, hb, hpb⟩ := List.any_eq_true.mp (by decide +kernel :
    (waitingLedger.batches.rows.any fun b => b.batchId == "rbch_1" && b.tenantId == "tenant-sg") =
      true)
  obtain ⟨i, hi, hpi⟩ := List.any_eq_true.mp (by decide +kernel :
    (waitingLedger.items.rows.any fun i => i.batchItemId == "rbit_1" && i.batchId == "rbch_1" &&
      i.status == .waitingOnReportJob && i.reportJobId == some "rjob_1") = true)
  simp only [Bool.and_eq_true, beq_iff_eq] at hpb hpi
  obtain ⟨result, s', hrun, hagree⟩ := execute_item_agrees_iff
    (samplePorts .dataReady (some .archived)) 3 3000000 hb hi (hpi.1.1.2.trans hpb.1.symm) hpi.1.2
    hpi.2 rfl hpb.2.symm rfl
  rw [hpb.1, hpi.1.1.1] at hrun
  refine ⟨result, s', hrun, ?_⟩
  rw [← hpi.1.1.1]
  exact hagree.mpr rfl

/-- The render of a completed job still waits on its owner: the executor marks the item as
succeeded, where the worker defers its work item. -/
theorem not_agree_awaitedRender : ∃ result s',
    (samplePorts .completed none).executeJob "rjob_1" = .ok ⟨linkedJob .completed, true⟩ ∧
    waitingLedger.executeItem (samplePorts .completed none) 3 3000000 "rbch_1" "rbit_1" =
      .ok (result, s') ∧
    ¬ AgreeOnDone s' "rbit_1" ⟨linkedJob .completed, true⟩ := by
  have hsucceeded : ((waitingLedger.executeItem (samplePorts .completed none) 3 3000000 "rbch_1"
      "rbit_1").toOption.any fun p => p.2.items.rows.all fun i => i.status == .succeeded) = true := by
    decide +kernel
  obtain ⟨⟨result, s'⟩, hrun, hall⟩ := (Option.any_eq_true _ _).mp hsucceeded
  refine ⟨result, s', rfl, ?_, fun h => h.awaited rfl fun i hi _ => ?_⟩
  · cases hexecuted : waitingLedger.executeItem (samplePorts .completed none) 3 3000000 "rbch_1"
        "rbit_1" with
    | error e =>
        rw [hexecuted] at hrun
        cases hrun
    | ok p =>
        rw [hexecuted] at hrun
        cases hrun
        rfl
  · rw [beq_iff_eq.mp (List.all_eq_true.mp hall i hi)]
    exact fun h => by cases h

end Sample

end LotusReport.Batch
