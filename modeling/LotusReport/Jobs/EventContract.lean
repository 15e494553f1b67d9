import LotusReport.Encoding.Runtime
import LotusReport.Encoding.Text
import LotusReport.Jobs.Lifecycle

/-!
# Status-event contract

Every status event carries a versioned payload. The contract fills in the
statuses and the event type, refuses keys that may hold client data, and
requires the fields that the event type declares.
-/

namespace LotusReport.Jobs

open Encoding

/-- `REPORT_STATUS_EVENT_SCHEMA_VERSION`. -/
def reportStatusEventSchemaVersion : String := "report-status-event.v1"

/-- `_REQUIRED_PAYLOAD_FIELDS_BY_EVENT_TYPE`. -/
def requiredPayloadFieldsByEventType : List (String × List String) :=
  [ ("job_accepted", ["report_type"]),
    ("job_failed", ["failure_category", "failure_message"]),
    ("job_rendering", ["render_output_format", "render_template_id"]),
    ("job_completed", ["render_job_id"]),
    ("job_archiving", ["archive_request_id"]),
    ("job_archived", ["archive_document_id"]),
    ("job_rerender_requested", ["snapshot_id"]),
    ("job_rerender_archived", ["archive_document_id"]),
    ("job_rerender_failed", ["failure_message"]),
    ("job_regenerate_requested", ["regenerated_job_id"]),
    ("job_regenerate_archived", ["regenerated_job_id", "archive_document_id"]),
    ("job_replay_requested", ["replayed_job_id"]),
    ("job_replay_snapshot_cloned", ["source_snapshot_id", "cloned_snapshot_id"]),
    ("job_replay_fingerprint_compared", ["outcome", "source_report_job_id"]),
    ("job_replay_archive_resolved", ["archive_document_id", "archive_request_id"]),
    ("job_advisor_commentary_unavailable", ["reason_code"]),
    ("job_replay_completed", ["replayed_job_id", "replayed_status"]),
    ("batch_item_replay_requested", ["batch_item_id", "replayed_job_id"]),
    ("batch_item_replay_lineage_bound", ["source_job_id"]) ]

/-- `_SENSITIVE_PAYLOAD_KEYS`. -/
def sensitivePayloadKeys : List String :=
  ["account_id", "account_number", "client_id", "client_name", "holdings", "portfolio_id",
    "portfolio_ids", "raw_payload", "request_body", "response_body", "secret", "token",
    "traceparent"]

/-- `ReportStatusEventContract`. -/
structure ReportStatusEventContract where
  schemaVersion : String
  eventFamily : String
  eventPayload : Fields
  eventIdempotencyKey : Option String

/-- `report_status_event_family`. -/
def reportStatusEventFamily (eventType : String) : String :=
  if startsWith eventType "batch_item_" then "batch_item_replay"
  else if startsWith eventType "job_rerender_" then "rerender_lifecycle"
  else if startsWith eventType "job_regenerate_" then "regenerate_lifecycle"
  else if startsWith eventType "job_replay_" then "replay_lifecycle"
  else if eventType ∈ ["job_rendering", "job_completed"] then "render_lifecycle"
  else if eventType ∈ ["job_archiving", "job_archived"] then "archive_lifecycle"
  else "job_lifecycle"

/-- `dict.setdefault`. -/
def setDefault (payload : Fields) (key : String) (value : Json) :
    Fields :=
  if (Json.lookup payload key).isSome then payload else payload ++ [(key, value)]

/-- The payload with the statuses and the event type filled in. -/
def completedPayload (eventType : String) (fromStatus : Option ReportJobStatus)
    (toStatus : ReportJobStatus) (payload : Fields) : Fields :=
  let payload := setDefault payload "from_status"
    (match fromStatus with
      | some status => .str status.text
      | none => .null)
  let payload := setDefault payload "to_status" (.str toStatus.text)
  setDefault payload "event_type" (.str eventType)

/-- The declared fields that the payload lacks or leaves empty. -/
def missingPayloadFields (eventType : String) (payload : Fields) : List String :=
  let required := ((requiredPayloadFieldsByEventType.find? fun e => e.1 == eventType).map
    Prod.snd).getD []
  required.filter fun field => !((Json.lookup payload field).any Json.truthy)

/-- `_normalized_event_idempotency_key`. -/
def normalizedEventIdempotencyKey (value : Option String) : Option String :=
  match value with
  | some key => if strip key = "" then none else some (strip key)
  | none => none

theorem normalizedEventIdempotencyKey_idem (key : Option String) :
    normalizedEventIdempotencyKey (normalizedEventIdempotencyKey key) =
      normalizedEventIdempotencyKey key := by
  cases key with
  | none => rfl
  | some key =>
      by_cases hblank : strip key = ""
      · simp [normalizedEventIdempotencyKey, hblank]
      · simp [normalizedEventIdempotencyKey, hblank, strip_strip]

/-- `build_report_status_event_contract`; the error is the message of the raised `ValueError`. -/
def buildReportStatusEventContract (eventType : String) (fromStatus : Option ReportJobStatus)
    (toStatus : ReportJobStatus) (eventPayload : Fields)
    (eventIdempotencyKey : Option String) : Except String ReportStatusEventContract :=
  let payload := completedPayload eventType fromStatus toStatus eventPayload
  let sensitive := payload.map Prod.fst |>.filter fun key => key ∈ sensitivePayloadKeys
  let missing := missingPayloadFields eventType payload
  if !sensitive.isEmpty then
    .error ("report_status_event_payload_sensitive_keys:" ++ ",".intercalate (sortedSet sensitive))
  else if !missing.isEmpty then
    .error ("report_status_event_payload_missing:" ++ ",".intercalate (sortedSet missing) ++ ":" ++
      eventType)
  else
    .ok
      { schemaVersion := reportStatusEventSchemaVersion
        eventFamily := reportStatusEventFamily eventType
        eventPayload := payload
        eventIdempotencyKey := normalizedEventIdempotencyKey eventIdempotencyKey }

theorem key_of_contract {eventType : String} {fromStatus : Option ReportJobStatus}
    {toStatus : ReportJobStatus} {eventPayload : Fields} {key : Option String}
    {contract : ReportStatusEventContract}
    (h : buildReportStatusEventContract eventType fromStatus toStatus eventPayload key =
      .ok contract) : contract.eventIdempotencyKey = normalizedEventIdempotencyKey key := by
  simp only [buildReportStatusEventContract] at h
  split at h
  · cases h
  · split at h
    · cases h
    · cases h
      rfl

end LotusReport.Jobs
