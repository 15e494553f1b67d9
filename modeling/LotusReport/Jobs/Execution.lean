import LotusReport.Jobs.Calls

/-!
# Execution of a job

One pass advances a job through the capture and the render service, which are
parameters here, and says whether an owner's outcome is still awaited. The
worker reads the result of a pass and settles, defers or fails its work item.
-/

namespace LotusReport.Jobs

open Encoding Fallible

section Pass

/-- What the render service returns: the job, or the job that still waits on its owner. -/
inductive RenderResult where
  | advanced (job : JobFile)
  | waiting (job : JobFile)

/-- The services of a pass. Each returns the record of the job that it was given. -/
structure ExecutionServices where
  captureForJob : JobFile → Except String JobFile
  renderForJob : JobFile → Except String RenderResult
  captures : ∀ f f', captureForJob f = .ok f' → f'.job.reportJobId = f.job.reportJobId
  renders : ∀ f f', renderForJob f = .ok (.advanced f') ∨ renderForJob f = .ok (.waiting f') →
    f'.job.reportJobId = f.job.reportJobId

/-- `ReportJobExecutionResult`. -/
structure ExecutionResult where
  job : JobFile
  waitingOnOwner : Bool

/-- A status in which a document job has render work to do. -/
def ReportJobStatus.renderable : ReportJobStatus → Bool
  | .dataReady | .rendering | .completed | .archiving => true
  | _ => false

/-- `str(exc)`; what the libraries say of a validation and of a type error is only named. -/
def exceptionText : LedgerError → String
  | .missingIdempotencyKey => "missing_idempotency_key"
  | .idempotencyConflict => "idempotency_key_reused_with_different_request"
  | .jobNotFound => "report_job_not_found"
  | .invalidJobTransition text | .invalidWorkTransition text | .custodyRecovery text
  | .twrAuthorityRefused text | .valueError text | .lookupError text | .integrity text => text
  | .validationError model => model
  | .typeError => "TypeError"

/-- A new job is captured first. -/
def ExecutionServices.captureIfDue (services : ExecutionServices) (f : JobFile) :
    Except String JobFile :=
  if f.job.status = .accepted ∨ f.job.status = .collectingData then services.captureForJob f
  else .ok f

/-- A captured document job is rendered. -/
def ExecutionServices.renderIfDue (services : ExecutionServices) (f : JobFile) :
    Except String ExecutionResult :=
  if f.job.status.renderable then
    match documentOutputFormat f.request.requestedOutputFormats with
    | .error e => .error (exceptionText e)
    | .ok none => .ok ⟨f, false⟩
    | .ok (some _) =>
        match services.renderForJob f with
        | .error message => .error message
        | .ok (.waiting f') => .ok ⟨f', true⟩
        | .ok (.advanced f') => .ok ⟨f', false⟩
  else .ok ⟨f, false⟩

/-- `_execute_admitted_job`. -/
def ExecutionServices.executeAdmittedJob (services : ExecutionServices) (f : JobFile) :
    Except String ExecutionResult := do
  let captured ← services.captureIfDue f
  services.renderIfDue captured

/-- A pass returns the record of the job that it was given. -/
theorem executeAdmittedJob_jobId {services : ExecutionServices} {f : JobFile} {r : ExecutionResult}
    (h : services.executeAdmittedJob f = .ok r) : r.job.job.reportJobId = f.job.reportJobId := by
  obtain ⟨g, hg, hrendered⟩ := bind_eq_ok.mp h
  have hcaptured : g.job.reportJobId = f.job.reportJobId := by
    unfold ExecutionServices.captureIfDue at hg
    split at hg
    · exact services.captures f g hg
    · cases hg
      rfl
  rw [← hcaptured]
  unfold ExecutionServices.renderIfDue at hrendered
  split at hrendered
  · split at hrendered
    · cases hrendered
    · cases hrendered
      rfl
    · split at hrendered
      · cases hrendered
      · rename_i f' hwaiting
        cases hrendered
        exact services.renders g f' (Or.inr hwaiting)
      · rename_i f' hadvanced
        cases hrendered
        exact services.renders g f' (Or.inl hadvanced)
  · cases hrendered
    rfl

end Pass

section Worker

/-- The statuses of `TERMINAL_JOB_STATUSES`. -/
def ReportJobStatus.workTerminal : ReportJobStatus → Bool
  | .completed | .completedWithWarnings | .archived | .failed | .cancelled => true
  | _ => false

/-- `_is_terminal_job`. -/
def isTerminalJob (f : JobFile) : Except LedgerError Bool :=
  if f.job.status.workTerminal then .ok true
  else if f.job.status = .dataReady then
    (documentOutputFormat f.request.requestedOutputFormats).map Option.isNone
  else .ok false

/-- The custody of the job was given up: its work item has been parked. -/
def custodyParked (f : JobFile) : Bool :=
  f.job.custody.policy == requiredPolicy &&
    (f.job.custody.state == some .blocked || f.job.custody.state == some .refused)

/-- The ledger call with which the worker ends the pass of a work item, if it makes one. -/
def workItemCall (retryPolicy : ReportJobWorkRetryPolicy) (workItemId leaseToken : String)
    (now : Instant) (r : ExecutionResult) : Except LedgerError (Option LedgerCall) :=
  if custodyParked r.job then .ok none
  else if r.waitingOnOwner then
    .ok (some (.deferWorkItem workItemId leaseToken "waiting_on_render"
      retryPolicy.baseDelaySeconds now))
  else do
    if ← isTerminalJob r.job then return some (.completeWorkItem workItemId leaseToken now)
    else return some (.failWorkItem workItemId leaseToken "report_job_worker_incomplete"
      ("Report job remained in non-terminal state " ++ r.job.job.status.text ++ ".")
      retryPolicy none now)

/-- The worker settles its work item. -/
def Settles (r : ExecutionResult) : Prop :=
  ∀ retryPolicy workItemId leaseToken now,
    workItemCall retryPolicy workItemId leaseToken now r =
      .ok (some (.completeWorkItem workItemId leaseToken now))

/-- A job is terminal for the worker: finished, or data ready without a document to render. -/
def TerminalJob (f : JobFile) : Prop := isTerminalJob f = .ok true

instance (f : JobFile) : Decidable (TerminalJob f) :=
  match h : isTerminalJob f with
  | .ok true => isTrue h
  | .ok false => isFalse (by simp [TerminalJob, h])
  | .error _ => isFalse (by simp [TerminalJob, h])

/-- The worker settles exactly the jobs that are terminal, await no owner and are not parked. -/
theorem settles_iff (r : ExecutionResult) :
    Settles r ↔ TerminalJob r.job ∧ r.waitingOnOwner = false ∧ custodyParked r.job = false := by
  have hpolicy : Nonempty ReportJobWorkRetryPolicy := ⟨{}⟩
  unfold Settles workItemCall
  cases hparked : custodyParked r.job with
  | true => simp
  | false =>
      cases hwaiting : r.waitingOnOwner with
      | true => simp
      | false =>
          unfold TerminalJob
          cases isTerminalJob r.job with
          | error e => simp [bind, Except.bind]
          | ok terminal => cases terminal <;> simp [bind, Except.bind, pure, Except.pure]

/-- A document format is requested exactly when a pdf or a spreadsheet is. -/
theorem documentOutputFormat_eq_none {outputFormats : List String} :
    documentOutputFormat outputFormats = .ok none ↔
      "pdf" ∉ outputFormats ∧ "xlsx" ∉ outputFormats := by
  unfold documentOutputFormat
  by_cases hpdf : "pdf" ∈ outputFormats <;> by_cases hxlsx : "xlsx" ∈ outputFormats <;>
    simp [hpdf, hxlsx]

theorem terminalJob_iff (f : JobFile) : TerminalJob f ↔ f.job.status.workTerminal = true ∨
    f.job.status = .dataReady ∧ "pdf" ∉ f.request.requestedOutputFormats ∧
      "xlsx" ∉ f.request.requestedOutputFormats := by
  rw [← documentOutputFormat_eq_none]
  unfold TerminalJob isTerminalJob
  cases hterminal : f.job.status.workTerminal with
  | true => simp
  | false =>
      by_cases hready : f.job.status = .dataReady
      · cases documentOutputFormat f.request.requestedOutputFormats with
        | error e => simp [hready, Except.map]
        | ok format => cases format <;> simp [hready, Except.map]
      · simp [hready]

end Worker

end LotusReport.Jobs
