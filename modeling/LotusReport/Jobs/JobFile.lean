import LotusReport.Jobs.EventContract
import LotusReport.Jobs.Schema

/-!
# The rows of one job

Every transaction of the ledger reads and writes the rows of one job at a
time: its request, its job row, its work item and its events. A `JobFile`
holds these rows during a transaction, and the writes of the program are the
writes defined here.
-/

namespace LotusReport.Jobs

open Encoding

/-- The rows of one job; its events stand in the order of their insertion. -/
structure JobFile where
  request : RequestRow
  job : JobRow
  work : Option WorkRow
  events : List EventRow

namespace JobFile

/-- `UPDATE report_job`, under the constraints of the table. -/
def updateJob (f : JobFile) (new : JobRow) : Except LedgerError JobFile :=
  match admitUpdate f.job new with
  | .ok () => .ok { f with job := new }
  | .error e => .error e

/-- `UPDATE report_job_work_item`. -/
def setWork (f : JobFile) (w : WorkRow) : JobFile := { f with work := some w }

/-- `_append_status_event`. -/
def appendStatusEvent (f : JobFile) (fromStatus : Option ReportJobStatus)
    (toStatus : ReportJobStatus) (eventType : String) (message : Option String)
    (eventPayload : Fields) (eventIdempotencyKey : Option String)
    (actor correlationId traceId : String) (createdAt : Instant) : Except LedgerError JobFile :=
  match buildReportStatusEventContract eventType fromStatus toStatus eventPayload
      eventIdempotencyKey with
  | .error message => .error (.valueError message)
  | .ok contract =>
      .ok { f with
        events := f.events ++
          [{ reportJobId := f.job.reportJobId
             fromStatus := fromStatus
             toStatus := toStatus
             eventType := eventType
             eventSchemaVersion := contract.schemaVersion
             eventFamily := contract.eventFamily
             eventPayload := Json.canonical (.obj contract.eventPayload)
             eventIdempotencyKey := contract.eventIdempotencyKey
             message := message
             actor := actor
             createdAt := dtToText createdAt
             correlationId := correlationId
             traceId := traceId }] }

/-- The key under which the event is stored is normalized. -/
def KeyNormal (e : EventRow) : Prop :=
  normalizedEventIdempotencyKey e.eventIdempotencyKey = e.eventIdempotencyKey

theorem keyNormal_of_eq {e : EventRow} {key : Option String}
    (h : e.eventIdempotencyKey = normalizedEventIdempotencyKey key) : KeyNormal e := by
  rw [KeyNormal, h, normalizedEventIdempotencyKey_idem]

section Inversion

variable {f f' : JobFile} {new : JobRow}

theorem updateJob_eq_ok (h : f.updateJob new = .ok f') :
    f' = { f with job := new } ∧ custodyImmutable f.job new = false ∧
      custodyShape f.job new = false := by
  unfold updateJob admitUpdate at h
  split at h
  · rename_i hadmitted
    split at hadmitted
    · cases hadmitted
    · split at hadmitted
      · cases hadmitted
      · rename_i hi hs
        cases h
        exact ⟨rfl, by simpa using hi, by simpa using hs⟩
  · cases h

theorem appendStatusEvent_eq_ok {fromStatus : Option ReportJobStatus} {toStatus : ReportJobStatus}
    {eventType : String} {message : Option String} {eventPayload : Fields}
    {key : Option String} {actor correlationId traceId : String} {createdAt : Instant}
    (h : f.appendStatusEvent fromStatus toStatus eventType message eventPayload key actor
      correlationId traceId createdAt = .ok f') :
    ∃ e : EventRow, f' = { f with events := f.events ++ [e] } ∧
      e.reportJobId = f.job.reportJobId ∧ e.fromStatus = fromStatus ∧ e.toStatus = toStatus ∧
        e.eventIdempotencyKey = normalizedEventIdempotencyKey key := by
  unfold appendStatusEvent at h
  split at h
  · cases h
  · rename_i contract hcontract
    cases h
    exact ⟨_, rfl, rfl, rfl, rfl, key_of_contract hcontract⟩

end Inversion

end JobFile

end LotusReport.Jobs
