import LotusReport.Corrections.Attempts

/-!
# The calls of the correction services

The rerender, the regeneration and the reconciliation work on the job ledger
with its rerender attempts, on the renderer and on the archive. The state holds
the tables and records of what has happened: the attempts that failed on an
answer which excludes a delivery, those whose delivery the archive refused for
good, those whose recorded archive request the archive answered with absence,
and the fresh attempts that were created beside an unresolved one. The answers
of the renderer and of the archive are values of the calls.
-/

namespace LotusReport.Corrections

open Encoding Relational StateMachine Jobs Replay

section Render

/-- The parts of a render package that the rerender reads. -/
structure RenderPackage where
  templateId : String
  templateVersion : String
  documentReference : String

/-- A response of the renderer. -/
abbrev RenderResponse := Int × Fields

/-- `_optional_str` of a field: the stripped text, unless it is blank. -/
def optionalStr (payload : Fields) (name : String) : Option String :=
  match Json.lookup payload name with
  | some (.str text) => if strip text = "" then none else some (strip text)
  | _ => none

/-- The renderer states that the document was rendered. -/
def rendered (response : RenderResponse) : Bool :=
  (response.1 == 200 || response.1 == 201) &&
    Json.lookup response.2 "status" == some (.str "rendered")

/-- The answer excludes that the renderer delivered a document: it refused the package, or it
states that the render failed. -/
def excludesDelivery (response : RenderResponse) : Bool :=
  decide (400 ≤ response.1 ∧ response.1 < 500) ||
    Json.lookup response.2 "status" == some (.str "failed")

/-- `template_contract_mismatch`. -/
def templateContractMismatch (package : RenderPackage) (payload : Fields) :
    Option String :=
  let statedId := optionalStr payload "template_id"
  let statedVersion := optionalStr payload "template_version"
  if statedId = some package.templateId ∧ statedVersion = some package.templateVersion then none
  else some ("RENDER_TEMPLATE_CONTRACT_MISMATCH: ordered " ++ package.templateId ++ "/" ++
    package.templateVersion ++ ", response stated " ++ statedId.getD "nothing" ++ "/" ++
    statedVersion.getD "nothing" ++ "; refusing to record an artifact this job never ordered.")

/-- `_is_terminal_archive_refusal`. -/
def isTerminalArchiveRefusal (archiveDetail : String) : Bool :=
  startsWith archiveDetail "archive_refused_4"

/-- The renderer reports that the archive refused the document for good. -/
def terminallyRefused (payload : Fields) : Bool :=
  optionalStr payload "archive_state" == some "archive_failed" &&
    isTerminalArchiveRefusal ((optionalStr payload "archive_detail").getD "")

end Render

/-- The tables, and what has happened to the attempts. -/
structure CorrectionState where
  jobs : Jobs.Ledger
  attempts : Attempts
  undelivered : List String
  refused : List String
  absent : List String
  strayed : List (String × String)

/-- Nothing can come of the attempt any more that a fresh attempt would duplicate: it is archived,
it failed before a delivery could have been made, it was refused for good, or its recorded archive
request was answered with absence. -/
def CorrectionState.resolved (s : CorrectionState) (row : AttemptRow) : Bool :=
  row.status == .archived ||
    (row.status == .failed && decide (row.rerenderAttemptId ∈ s.undelivered)) ||
    decide (row.rerenderAttemptId ∈ s.refused) || decide (row.rerenderAttemptId ∈ s.absent)

/-- The attempts of a job that are not resolved. -/
def CorrectionState.unresolved (s : CorrectionState) (jobId : String) : List String :=
  (s.attempts.rows.filter fun row => row.reportJobId == jobId && !s.resolved row).map
    (·.rerenderAttemptId)

/-- The calls of the correction services, and those of other components. `lookedUp` are the
attempts that the caller of `create_rerender_attempt` has resolved, and `cause` is the response of
the renderer for which an attempt is marked as failed. -/
inductive CorrectionCall where
  | getJob (jobId : String)
  | listStatusEvents (jobId : String)
  | listPendingArchiveLineage (limit : Int)
  | recordLifecycleTransition (request : LineageRequest) (answer : ArchiveAnswer)
  | listUnresolvedArchiveAmbiguousAttempts (jobId : String)
  | getDocumentByRequestId (attempt : AttemptRow) (archiveRequestId : String)
      (answer : ArchiveAnswer)
  | createRerenderAttempt (lookedUp : List String) (call : AttemptCall)
  | recordAdoptedRerenderOutcome (call : AdoptionCall)
  | submitRenderPackage (rerenderAttemptId : String) (package : RenderPackage)
      (answer : Option RenderResponse)
  | markRerenderRendered (rerenderAttemptId renderJobId : String)
      (artifactSha256 boundedDeterminismFingerprint runtimeEngine runtimeEngineVersion :
        Option String) (renderDurationMs : Option Int) (now : Instant)
  | markRerenderArchiving (rerenderAttemptId archiveRequestId : String) (now : Instant)
  | markRerenderArchived (rerenderAttemptId archiveDocumentId : String) (context : CallContext)
  | markRerenderFailed (rerenderAttemptId : String) (failure : RerenderFailure)
      (cause : RenderResponse) (context : CallContext)
  | createJob (call : CreateCall)
  | ledger (call : LedgerCall)
  | jobs (call : Jobs.Call)

/-- What a call returns. -/
def CorrectionCall.Result : CorrectionCall → Type
  | getJob _ => Except LedgerError JobFile
  | listStatusEvents _ => List EventRow
  | listPendingArchiveLineage _ => List PendingArchiveLineage
  | recordLifecycleTransition _ _ => ArchiveAnswer
  | listUnresolvedArchiveAmbiguousAttempts _ => List AttemptRow
  | getDocumentByRequestId _ _ _ => ArchiveAnswer
  | createRerenderAttempt _ _ => Except LedgerError (AttemptRow × Bool)
  | recordAdoptedRerenderOutcome _ => Except LedgerError AttemptRow
  | submitRenderPackage _ _ _ => Option RenderResponse
  | markRerenderRendered _ _ _ _ _ _ _ _ => Except LedgerError AttemptRow
  | markRerenderArchiving _ _ _ => Except LedgerError AttemptRow
  | markRerenderArchived _ _ _ => Except LedgerError AttemptRow
  | markRerenderFailed _ _ _ _ => Except LedgerError AttemptRow
  | createJob _ => Except LedgerError JobFile
  | ledger _ => Except LedgerError Unit
  | jobs _ => Unit

namespace CorrectionState

/-- The state after a transaction on the tables; a transaction that raises is rolled back. -/
def commit {α : Type} (s : CorrectionState) :
    Except LedgerError (α × Jobs.Ledger × Attempts) → CorrectionState
  | .ok (_, jobs, attempts) => { s with jobs := jobs, attempts := attempts }
  | .error _ => s

/-- A transaction on the attempts alone. -/
def onAttempts {α : Type} (s : CorrectionState) (outcome : Except LedgerError (α × Attempts)) :
    Except LedgerError (α × Jobs.Ledger × Attempts) :=
  outcome.map fun (value, attempts) => (value, s.jobs, attempts)

/-- The value that a transaction returns. -/
def value {α : Type} (outcome : Except LedgerError (α × Jobs.Ledger × Attempts)) :
    Except LedgerError α := outcome.map Prod.fst

/-- The archive's answer denies the document of the recorded archive request. -/
def deniesRecorded (attempt : AttemptRow) (answer : ArchiveAnswer) : Bool :=
  present attempt.archiveRequestId && answer.absent

/-- Execute a call. -/
def perform (d : Deployment) (s : CorrectionState) :
    (call : CorrectionCall) → CorrectionState × call.Result
  | .getJob jobId => (s, jobOf s.jobs jobId)
  | .listStatusEvents jobId => (s, Replay.listStatusEvents s.jobs jobId)
  | .listPendingArchiveLineage limit => (s, Corrections.listPendingArchiveLineage s.jobs limit)
  | .recordLifecycleTransition _ answer => (s, answer)
  | .listUnresolvedArchiveAmbiguousAttempts jobId =>
      (s, Corrections.listUnresolvedArchiveAmbiguousAttempts s.attempts jobId)
  | .getDocumentByRequestId attempt _ answer =>
      ({ s with
          absent := if deniesRecorded attempt answer then attempt.rerenderAttemptId :: s.absent
            else s.absent },
        answer)
  | .createRerenderAttempt _ call =>
      let outcome := Corrections.createRerenderAttempt d.toRuntime s.jobs s.attempts call
      let strays := match value outcome with
        | .ok (row, true) =>
            (s.unresolved row.reportJobId).map fun earlier => (row.rerenderAttemptId, earlier)
        | _ => []
      ({ s.commit outcome with strayed := s.strayed ++ strays }, value outcome)
  | .recordAdoptedRerenderOutcome call =>
      let outcome := Corrections.recordAdoptedRerenderOutcome s.jobs s.attempts call
      (s.commit outcome, value outcome)
  | .submitRenderPackage _ _ answer => (s, answer)
  | .markRerenderRendered attemptId renderJobId artifact fingerprint engine engineVersion duration
      now =>
      let outcome := s.onAttempts (Corrections.markRerenderRendered s.attempts attemptId renderJobId
        artifact fingerprint engine engineVersion duration now)
      (s.commit outcome, value outcome)
  | .markRerenderArchiving attemptId archiveRequestId now =>
      let outcome := s.onAttempts
        (Corrections.markRerenderArchiving s.attempts attemptId archiveRequestId now)
      (s.commit outcome, value outcome)
  | .markRerenderArchived attemptId archiveDocumentId context =>
      let outcome := Corrections.markRerenderArchived s.jobs s.attempts attemptId archiveDocumentId
        context
      (s.commit outcome, value outcome)
  | .markRerenderFailed attemptId failure cause context =>
      let outcome := Corrections.markRerenderFailed s.jobs s.attempts attemptId failure context
      ({ s.commit outcome with
          undelivered := if !rendered cause && excludesDelivery cause then
            attemptId :: s.undelivered else s.undelivered
          refused := if rendered cause && terminallyRefused cause.2 then
            attemptId :: s.refused else s.refused },
        value outcome)
  | .createJob call =>
      match s.jobs.createReportJob d call with
      | .ok (record, jobs) => ({ s with jobs := jobs }, .ok record)
      | .error error => (s, .error error)
  | .ledger call =>
      ({ s with jobs := s.jobs.step d (.ledger call) },
        returning (fun _ => .ok ()) (call.perform d s.jobs))
  | .jobs call => ({ s with jobs := s.jobs.step d call }, ())

/-- A ledger without rerender attempts. -/
def initial (jobs : Jobs.Ledger) : CorrectionState := ⟨jobs, Table.empty, [], [], [], []⟩

end CorrectionState

/-- How a correction fails: an exception of the ledger, the rejection of a render package or of a
request, or an exception of the render client. -/
inductive CorrectionFailure where
  | jobs (error : LedgerError)
  | rejected (message : String)
  | renderUnavailable

/-- Programs of the correction services. -/
abbrev CorrectionProgram (α : Type) :=
  Program CorrectionCall CorrectionCall.Result (Except CorrectionFailure α)

section Requests

variable {α : Type}

/-- End in a failure. -/
def refuse (failure : CorrectionFailure) : CorrectionProgram α := .done (.error failure)

/-- Go on with the value of a check or of a transaction. -/
def require (outcome : Except LedgerError α) : CorrectionProgram α :=
  .done (outcome.mapError .jobs)

/-- Read a report job. -/
def readJob (jobId : String) : CorrectionProgram JobFile := .call (.getJob jobId) require

/-- Carry out a call on the job ledger. -/
def write (call : LedgerCall) : CorrectionProgram Unit := .call (.ledger call) require

/-- `report_job_cannot_be_rerendered`. -/
def cannotBeRerendered : CorrectionFailure :=
  .jobs (.invalidJobTransition "report_job_cannot_be_rerendered")

end Requests

end LotusReport.Corrections
