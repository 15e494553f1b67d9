import Mathlib.Data.List.Basic

/-!
# Report-job lifecycle policy

The statuses of a report job, the transitions the ledger admits between them,
the statuses that refuse cancellation, and the failure categories with those
that leave the outcome of an archive delivery open.
-/

namespace LotusReport.Jobs

/-- `ReportJobStatus`. -/
inductive ReportJobStatus where
  | accepted
  | queued
  | collectingData
  | dataReady
  | rendering
  | completed
  | archiving
  | archived
  | completedWithWarnings
  | failed
  | cancelled
deriving DecidableEq, Repr

/-- `ReportFailureCategory`. -/
inductive ReportFailureCategory where
  | entitlementFailed
  | validationFailed
  | upstreamDataFailed
  | dataIncomplete
  | renderValidationFailed
  | renderConflict
  | renderExecutionFailed
  | renderArtifactUnrecoverable
  | archiveValidationFailed
  | archiveConflict
  | archiveStorageFailed
  | archiveExecutionFailed
  | archiveOutcomeUnknown
  | archiveHandoffFailed
  | archiveHandoffNotConfigured
  | timeout
  | cancelled
  | operatorInterventionRequired
deriving DecidableEq, Repr

namespace ReportJobStatus

/-- The stored text of a status. -/
def text : ReportJobStatus → String
  | accepted => "accepted"
  | queued => "queued"
  | collectingData => "collecting_data"
  | dataReady => "data_ready"
  | rendering => "rendering"
  | completed => "completed"
  | archiving => "archiving"
  | archived => "archived"
  | completedWithWarnings => "completed_with_warnings"
  | failed => "failed"
  | cancelled => "cancelled"

/-- Work on the job is under way. -/
def inFlight : ReportJobStatus → Bool
  | accepted | collectingData | dataReady | rendering | completed | archiving => true
  | _ => false

/-- The job is settled; the work queue leaves it alone. -/
def terminal : ReportJobStatus → Bool
  | archived | completedWithWarnings | failed | cancelled => true
  | _ => false

/-- `REPORT_JOB_TRANSITION_ALLOWED_FROM`. -/
def transitionAllowedFrom : ReportJobStatus → List ReportJobStatus
  | collectingData => [accepted]
  | dataReady => [accepted, collectingData]
  | rendering => [dataReady]
  | completed => [dataReady, rendering]
  | archiving => [completed]
  -- a failed job is archived when the archive lookup proves that the delivery was committed
  | archived => [completed, archiving, failed]
  | failed => [accepted, collectingData, dataReady, rendering, completed, archiving]
  | _ => []

/-- `REPORT_JOB_CANCEL_BLOCKED_STATUSES`. -/
def cancelBlockedStatuses : List ReportJobStatus :=
  [rendering, completed, archiving, archived, completedWithWarnings, cancelled]

end ReportJobStatus

/-- `is_report_job_transition_allowed`. -/
def isReportJobTransitionAllowed (currentStatus toStatus : ReportJobStatus) : Bool :=
  currentStatus ∈ toStatus.transitionAllowedFrom

/-- `is_report_job_cancellable`. -/
def isReportJobCancellable (status : ReportJobStatus) : Bool :=
  status ∉ ReportJobStatus.cancelBlockedStatuses

namespace ReportFailureCategory

/-- The stored text of a failure category. -/
def text : ReportFailureCategory → String
  | entitlementFailed => "entitlement_failed"
  | validationFailed => "validation_failed"
  | upstreamDataFailed => "upstream_data_failed"
  | dataIncomplete => "data_incomplete"
  | renderValidationFailed => "render_validation_failed"
  | renderConflict => "render_conflict"
  | renderExecutionFailed => "render_execution_failed"
  | renderArtifactUnrecoverable => "render_artifact_unrecoverable"
  | archiveValidationFailed => "archive_validation_failed"
  | archiveConflict => "archive_conflict"
  | archiveStorageFailed => "archive_storage_failed"
  | archiveExecutionFailed => "archive_execution_failed"
  | archiveOutcomeUnknown => "archive_outcome_unknown"
  | archiveHandoffFailed => "archive_handoff_failed"
  | archiveHandoffNotConfigured => "archive_handoff_not_configured"
  | timeout => "timeout"
  | cancelled => "cancelled"
  | operatorInterventionRequired => "operator_intervention_required"

/-- The categories after which a document may have been archived all the same. -/
def archiveAmbiguousCategories : List ReportFailureCategory :=
  [archiveStorageFailed, archiveExecutionFailed, archiveOutcomeUnknown, archiveHandoffFailed,
    archiveHandoffNotConfigured]

end ReportFailureCategory

/-- An admitted transition into work under way starts from work under way. -/
theorem inFlight_of_transitionAllowed {current target : ReportJobStatus}
    (h : isReportJobTransitionAllowed current target = true) (hto : target.inFlight = true) :
    current.inFlight = true := by
  cases target <;> cases current <;> simp_all [isReportJobTransitionAllowed,
    ReportJobStatus.transitionAllowedFrom, ReportJobStatus.inFlight]

/-- A settled job only moves on to another settled status. -/
theorem terminal_of_transitionAllowed {current target : ReportJobStatus}
    (h : isReportJobTransitionAllowed current target = true) (hc : current.terminal = true) :
    target.terminal = true := by
  cases target <;> cases current <;> simp_all [isReportJobTransitionAllowed,
    ReportJobStatus.transitionAllowedFrom, ReportJobStatus.terminal]

/-- No transition of the generic path leaves `archived` or `cancelled`. -/
theorem not_transitionAllowed_of_final {current target : ReportJobStatus}
    (hc : current = .archived ∨ current = .cancelled ∨ current = .completedWithWarnings) :
    isReportJobTransitionAllowed current target = false := by
  cases target <;> rcases hc with rfl | rfl | rfl <;> decide

end LotusReport.Jobs
