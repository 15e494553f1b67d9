import LotusReport.Caller
import LotusReport.Encoding.Runtime
import LotusReport.Encoding.Text
import LotusReport.Encoding.Timestamp
import LotusReport.Relational.Table
import LotusReport.StateMachine.Program

/-!
# Stored schedule definitions

The schedule tables of `ReportBatchLedger` with their audit trail, and
`ScheduleDefinitionService.create_schedule` and `update_schedule` as programs
over the store's transactions. Clock readings and generated identifiers are
arguments. Instants of this surface are in UTC, so the date of an instant is
its day.
-/

namespace LotusReport.Schedules

open Encoding Relational StateMachine

/-- `ScheduleCadence`. -/
inductive ScheduleCadence where
  | monthlyEnd
  | quarterEnd
deriving DecidableEq, Repr

/-- The name of a cadence on the wire. -/
def ScheduleCadence.text : ScheduleCadence → String
  | monthlyEnd => "monthly_end"
  | quarterEnd => "quarter_end"

/-- `ScheduleAuditAction`. -/
inductive ScheduleAuditAction where
  | created
  | updated
  | enabled
  | disabled
deriving DecidableEq, Repr

/-- The fields of `_MUTABLE_FIELDS`. -/
structure ScheduleFields where
  cadence : ScheduleCadence
  portfolioIds : List String
  requestedOutputFormats : List String
  reportingCurrency : Option String
  options : Fields
  maxBatchSize : Nat
  enabled : Bool
deriving DecidableEq

/-- `StoredBatchSchedule`. -/
structure StoredBatchSchedule extends ScheduleFields where
  scheduleId : String
  tenantId : String
  region : String
  bookingCenterCode : Option String
  ownerActor : String
  cadenceEffectiveOn : Int
  revision : Nat := 1
  createdAt : Instant
  updatedAt : Option Instant
deriving DecidableEq

/-- `definition_fingerprint`. -/
def definitionFingerprint (py : Runtime) (tenantId region : String)
    (bookingCenterCode : Option String) (fields : ScheduleFields) : String :=
  clip 32 (py.digest (.obj
    [ ("tenant_id", .str tenantId),
      ("region", .str region),
      ("booking_center_code", .ofText? bookingCenterCode),
      ("cadence", .str fields.cadence.text),
      ("portfolio_ids", .ofTexts fields.portfolioIds),
      ("requested_output_formats", .ofTexts fields.requestedOutputFormats),
      ("reporting_currency", .ofText? fields.reportingCurrency),
      ("options", .obj fields.options),
      ("max_batch_size", .int fields.maxBatchSize) ]))

/-- `StoredBatchSchedule.fingerprint`. -/
def StoredBatchSchedule.fingerprint (py : Runtime) (schedule : StoredBatchSchedule) : String :=
  definitionFingerprint py schedule.tenantId schedule.region schedule.bookingCenterCode
    schedule.toScheduleFields

/-- One field of an audit record: its value before and after. -/
structure Change (α : Type) where
  before : α
  after : α
deriving DecidableEq

/-- The changed fields of an update. -/
structure ScheduleChanges where
  cadence : Option (Change ScheduleCadence) := none
  portfolioIds : Option (Change (List String)) := none
  requestedOutputFormats : Option (Change (List String)) := none
  reportingCurrency : Option (Change (Option String)) := none
  options : Option (Change Fields) := none
  maxBatchSize : Option (Change Nat) := none
  enabled : Option (Change Bool) := none
deriving DecidableEq

/-- `BatchScheduleAuditRecord.changes`: the definition on create, else the changed fields. -/
inductive AuditChanges where
  | definition (schedule : StoredBatchSchedule)
  | fields (changes : ScheduleChanges)
deriving DecidableEq

/-- `BatchScheduleAuditRecord`. -/
structure BatchScheduleAuditRecord where
  auditId : String
  scheduleId : String
  action : ScheduleAuditAction
  actor : String
  correlationId : String
  changes : AuditChanges
  createdAt : Instant
deriving DecidableEq

/-- A row of `report_batch_schedule_definition`. -/
structure ScheduleRow where
  schedule : StoredBatchSchedule
  fingerprint : String
deriving DecidableEq

/-- The primary key. -/
def ScheduleRow.scheduleId (row : ScheduleRow) : String := row.schedule.scheduleId

/-- The column of the unique index on enabled rows; a disabled row holds a place of its own. -/
def ScheduleRow.enabledFingerprint (row : ScheduleRow) : String ⊕ String :=
  if row.schedule.enabled then .inl row.fingerprint else .inr row.scheduleId

/-- The schedule tables; audit rows are in insertion order. -/
structure ScheduleStore where
  definitions : Table ScheduleRow.scheduleId ScheduleRow.enabledFingerprint
  audits : Table BatchScheduleAuditRecord.auditId BatchScheduleAuditRecord.auditId
deriving DecidableEq

/-- The tables after `ensure_schema` on a new file. -/
def ScheduleStore.empty : ScheduleStore := ⟨Table.empty, Table.empty⟩

/-- The exceptions of a definition write. -/
inductive SaveError where
  | duplicate (existingScheduleId : String)
  | stale (scheduleId : String)
  | integrity
deriving DecidableEq, Repr

namespace ScheduleStore

/-- `get_schedule_definition`. -/
def getScheduleDefinition (s : ScheduleStore) (scheduleId : String) :
    Option StoredBatchSchedule :=
  (s.definitions.find? scheduleId).map (·.schedule)

/-- `ORDER BY created_at, schedule_id`. -/
def listedBefore (a b : StoredBatchSchedule) : Bool :=
  (isoformat a.createdAt).lt (isoformat b.createdAt) ||
    ((isoformat a.createdAt).le (isoformat b.createdAt) && decide (a.scheduleId ≤ b.scheduleId))

/-- `list_schedule_definitions`. -/
def listScheduleDefinitions (s : ScheduleStore) (tenantId : String) : List StoredBatchSchedule :=
  ((s.definitions.rows.map (·.schedule)).filter fun schedule =>
    schedule.tenantId == tenantId).insertionSort fun a b => listedBefore a b

/-- `_read_schedule_audit`. -/
def readScheduleAudit (s : ScheduleStore) (scheduleId : String) : List BatchScheduleAuditRecord :=
  s.audits.rows.filter fun record => record.scheduleId == scheduleId

/-- The enabled schedule with a fingerprint, by which `_resolved_duplicate` finds the winner. -/
def enabledScheduleId (s : ScheduleStore) (fingerprint : String) : Option String :=
  (s.definitions.lookup? (.inl fingerprint)).map (·.scheduleId)

/-- The columns that the `UPDATE` assigns to the stored row. -/
def updatedRow (py : Runtime) (schedule : StoredBatchSchedule) (row : ScheduleRow) : ScheduleRow where
  schedule :=
    { row.schedule with
      toScheduleFields := schedule.toScheduleFields
      cadenceEffectiveOn := schedule.cadenceEffectiveOn
      revision := schedule.revision
      updatedAt := schedule.updatedAt }
  fingerprint := schedule.fingerprint py

/-- `_write_schedule_definition`: insert revision one, else compare and set the revision. -/
def writeScheduleDefinition (py : Runtime) (s : ScheduleStore) (schedule : StoredBatchSchedule) :
    Except SaveError ScheduleStore :=
  if schedule.revision = 1 then
    let row : ScheduleRow := ⟨schedule, schedule.fingerprint py⟩
    match s.definitions.insert? row with
    | some definitions => .ok { s with definitions := definitions }
    | none =>
        if schedule.enabled && (s.enabledScheduleId row.fingerprint).isSome then
          .error (.duplicate "")
        else .error .integrity
  else
    match s.definitions.find? schedule.scheduleId with
    | some row =>
        if row.schedule.revision = schedule.revision - 1 then
          match s.definitions.replace? (updatedRow py schedule row) with
          | some definitions => .ok { s with definitions := definitions }
          | none => .error (.duplicate schedule.scheduleId)
        else .error (.stale schedule.scheduleId)
    | none => .error (.stale schedule.scheduleId)

/-- `_write_schedule_audit`. -/
def writeScheduleAudit (s : ScheduleStore) (record : BatchScheduleAuditRecord) :
    Except SaveError ScheduleStore :=
  match s.audits.insert? record with
  | some audits => .ok { s with audits := audits }
  | none => .error .integrity

/-- The transaction of `save_schedule_definition_with_audit`. -/
def writeDefinitionWithAudit (py : Runtime) (s : ScheduleStore) (schedule : StoredBatchSchedule)
    (record : BatchScheduleAuditRecord) : Except SaveError ScheduleStore := do
  let s ← s.writeScheduleDefinition py schedule
  s.writeScheduleAudit record

end ScheduleStore

/-- The transactions on the schedule tables. -/
inductive ScheduleCall where
  | getScheduleDefinition (scheduleId : String)
  | listScheduleDefinitions (tenantId : String)
  | enabledScheduleId (fingerprint : String)
  | writeDefinitionWithAudit (schedule : StoredBatchSchedule) (record : BatchScheduleAuditRecord)

/-- What a transaction returns. -/
def ScheduleCall.Result : ScheduleCall → Type
  | getScheduleDefinition _ => Option StoredBatchSchedule
  | listScheduleDefinitions _ => List StoredBatchSchedule
  | enabledScheduleId _ => Option String
  | writeDefinitionWithAudit _ _ => Except SaveError Unit

/-- Execute a transaction; one that raises leaves the tables as they were. -/
def ScheduleStore.perform (py : Runtime) (s : ScheduleStore) :
    (call : ScheduleCall) → ScheduleStore × call.Result
  | .getScheduleDefinition scheduleId => (s, s.getScheduleDefinition scheduleId)
  | .listScheduleDefinitions tenantId => (s, s.listScheduleDefinitions tenantId)
  | .enabledScheduleId fingerprint => (s, s.enabledScheduleId fingerprint)
  | .writeDefinitionWithAudit schedule record =>
      match s.writeDefinitionWithAudit py schedule record with
      | .ok s' => (s', .ok ())
      | .error error => (s, .error error)

/-- Programs over the schedule tables. -/
abbrev ScheduleProgram := Program ScheduleCall ScheduleCall.Result

/-- `save_schedule_definition_with_audit`: a duplicate without an id is resolved afterwards, in a
transaction of its own. -/
def saveScheduleDefinitionWithAudit (py : Runtime) (schedule : StoredBatchSchedule)
    (record : BatchScheduleAuditRecord) :
    ScheduleProgram (Except SaveError StoredBatchSchedule) :=
  .call (.writeDefinitionWithAudit schedule record) fun
    | .ok () => .done (.ok schedule)
    | .error (.duplicate existingScheduleId) =>
        if existingScheduleId ≠ "" then .done (.error (.duplicate existingScheduleId))
        else .call (.enabledScheduleId (schedule.fingerprint py)) fun found =>
          .done (.error (.duplicate (Option.getD found schedule.scheduleId)))
    | .error error => .done (.error error)

/-- `ScheduleDefinitionError`. -/
structure ScheduleDefinitionError where
  code : String
  message : String
deriving DecidableEq, Repr

/-- How a request of the service fails: with a typed refusal, or with an exception of the store
that the service does not catch. -/
inductive ScheduleFailure where
  | refused (error : ScheduleDefinitionError)
  | store (error : SaveError)
deriving DecidableEq, Repr

namespace ScheduleDefinitionError

def scopeUnresolved : ScheduleDefinitionError :=
  ⟨"schedule_scope_unresolved",
    "Schedule definition requires a caller context with tenant and region."⟩

def exceedsMaxBatchSize : ScheduleDefinitionError :=
  ⟨"schedule_exceeds_max_batch_size",
    "The schedule lists more portfolios than max_batch_size allows; it would " ++
      "fail with batch_size_exceeded on every due date."⟩

def conflict : ScheduleDefinitionError :=
  ⟨"batch_schedule_conflict", "The schedule could not be created; retry the request."⟩

def notFound : ScheduleDefinitionError :=
  ⟨"batch_schedule_not_found", "Batch schedule was not found."⟩

def updateConflict : ScheduleDefinitionError :=
  ⟨"batch_schedule_update_conflict",
    "The schedule changed concurrently; reload it and retry the update."⟩

def duplicateDefinition : ScheduleDefinitionError :=
  ⟨"batch_schedule_duplicate_definition",
    "The change would make this schedule identical to another enabled " ++
      "schedule in the same scope."⟩

end ScheduleDefinitionError

/-- What the service takes from elsewhere: the digest, the language's `==` on two option
dictionaries, `validate_report_ordering_submission` for a governed schedule of portfolio reviews,
and what `model_dump` in JSON mode makes of the options. -/
structure ScheduleServices where
  py : Runtime
  sameOptions : Fields → Fields → Bool
  validateOrdering : List String → Fields → Option ScheduleDefinitionError
  dumpOptions : Fields → Fields

/-- `BatchScheduleDefinitionCreateRequest`, parsed from a JSON document. -/
structure BatchScheduleDefinitionCreateRequest where
  cadence : ScheduleCadence
  portfolioIds : List String
  requestedOutputFormats : List String := ["pdf"]
  reportingCurrency : Option String := none
  options : Fields := []
  maxBatchSize : Nat := 250

/-- `BatchScheduleDefinitionUpdateRequest`; an omitted field is `none`, and a present reporting
currency may be null. -/
structure BatchScheduleDefinitionUpdateRequest where
  cadence : Option ScheduleCadence := none
  portfolioIds : Option (List String) := none
  requestedOutputFormats : Option (List String) := none
  reportingCurrency : Option (Option String) := none
  options : Option Fields := none
  maxBatchSize : Option Nat := none
  enabled : Option Bool := none

/-- `_require_scoped_caller`. -/
def scopedCaller (callerContext : ReportCallerContext) : Bool :=
  callerContext.tenantId != "" && callerContext.region != ""

/-- `_caller_owns_scope`. -/
def callerOwnsScope (schedule : StoredBatchSchedule) (callerContext : ReportCallerContext) : Bool :=
  schedule.tenantId == callerContext.tenantId && schedule.region == callerContext.region &&
    schedule.bookingCenterCode == callerContext.bookingCenterCode

/-- `_validate_ordering`, then `_validate_portfolio_bound`. -/
def validateSchedule (env : ScheduleServices) (schedule : StoredBatchSchedule) :
    Option ScheduleDefinitionError :=
  match env.validateOrdering schedule.requestedOutputFormats schedule.options with
  | some error => some error
  | none =>
      if schedule.maxBatchSize < schedule.portfolioIds.length then
        some ScheduleDefinitionError.exceedsMaxBatchSize
      else none

/-- `now.date()`, counted in days. -/
def dayOf (now : Instant) : Int := now / 86400000000

/-- A request to create a schedule, with the generated identifiers. -/
structure CreateScheduleCall where
  request : BatchScheduleDefinitionCreateRequest
  callerContext : ReportCallerContext
  now : Instant
  scheduleId : String
  auditId : String

/-- The schedule that a create request describes. -/
def CreateScheduleCall.schedule (call : CreateScheduleCall) : StoredBatchSchedule where
  scheduleId := call.scheduleId
  tenantId := call.callerContext.tenantId
  region := call.callerContext.region
  bookingCenterCode := call.callerContext.bookingCenterCode
  ownerActor := call.callerContext.triggeredBy
  enabled := true
  cadence := call.request.cadence
  portfolioIds := call.request.portfolioIds.eraseDups
  requestedOutputFormats := call.request.requestedOutputFormats
  reportingCurrency := call.request.reportingCurrency
  options := call.request.options
  maxBatchSize := call.request.maxBatchSize
  cadenceEffectiveOn := dayOf call.now
  createdAt := call.now
  updatedAt := none

/-- The audit record of a create. -/
def CreateScheduleCall.record (env : ScheduleServices) (call : CreateScheduleCall) :
    BatchScheduleAuditRecord where
  auditId := call.auditId
  scheduleId := call.scheduleId
  action := .created
  actor := call.callerContext.triggeredBy
  correlationId := call.callerContext.correlationId
  changes := .definition { call.schedule with options := env.dumpOptions call.request.options }
  createdAt := call.now

/-- `create_schedule`. -/
def createSchedule (env : ScheduleServices) (call : CreateScheduleCall) :
    ScheduleProgram (Except ScheduleFailure StoredBatchSchedule) :=
  if !scopedCaller call.callerContext then .done (.error (.refused .scopeUnresolved))
  else
    .call (.listScheduleDefinitions call.callerContext.tenantId) fun stored =>
      match List.find? (fun (existing : StoredBatchSchedule) => existing.enabled &&
          existing.fingerprint env.py == call.schedule.fingerprint env.py) stored with
      | some existing => .done (.ok existing)
      | none =>
          match validateSchedule env call.schedule with
          | some error => .done (.error (.refused error))
          | none =>
              (saveScheduleDefinitionWithAudit env.py call.schedule (call.record env)).bind fun
                | .ok schedule => .done (.ok schedule)
                | .error (.duplicate existingScheduleId) =>
                    -- a racing identical create won the unique index
                    .call (.getScheduleDefinition existingScheduleId) fun winner =>
                      match (winner : Option StoredBatchSchedule) with
                      | some schedule =>
                          if schedule.tenantId = call.callerContext.tenantId then
                            .done (.ok schedule)
                          else .done (.error (.refused .conflict))
                      | none => .done (.error (.refused .conflict))
                | .error error => .done (.error (.store error))

/-- A change of one field, unless it is omitted or equal to the stored value. -/
def changeOf {α : Type} (same : α → α → Bool) (requested : Option α) (current : α) :
    Option (Change α) :=
  match requested with
  | none => none
  | some value => if same value current then none else some ⟨current, value⟩

/-- The fields that an update request changes. -/
def BatchScheduleDefinitionUpdateRequest.changes (env : ScheduleServices)
    (request : BatchScheduleDefinitionUpdateRequest) (existing : ScheduleFields) :
    ScheduleChanges where
  cadence := changeOf (· == ·) request.cadence existing.cadence
  portfolioIds :=
    changeOf (· == ·) (request.portfolioIds.map List.eraseDups) existing.portfolioIds
  requestedOutputFormats :=
    changeOf (· == ·) request.requestedOutputFormats existing.requestedOutputFormats
  reportingCurrency := changeOf (· == ·) request.reportingCurrency existing.reportingCurrency
  options := changeOf env.sameOptions request.options existing.options
  maxBatchSize := changeOf (· == ·) request.maxBatchSize existing.maxBatchSize
  enabled := changeOf (· == ·) request.enabled existing.enabled

namespace ScheduleChanges

/-- The value after an optional change. -/
def valueAfter {α : Type} (change : Option (Change α)) (current : α) : α :=
  match change with
  | some change => change.after
  | none => current

/-- The fields with the changed values. -/
def assign (changes : ScheduleChanges) (fields : ScheduleFields) : ScheduleFields where
  cadence := valueAfter changes.cadence fields.cadence
  portfolioIds := valueAfter changes.portfolioIds fields.portfolioIds
  requestedOutputFormats :=
    valueAfter changes.requestedOutputFormats fields.requestedOutputFormats
  reportingCurrency := valueAfter changes.reportingCurrency fields.reportingCurrency
  options := valueAfter changes.options fields.options
  maxBatchSize := valueAfter changes.maxBatchSize fields.maxBatchSize
  enabled := valueAfter changes.enabled fields.enabled

/-- The action of the audit record: `enabled` alone names what happened. -/
def action (changes : ScheduleChanges) : ScheduleAuditAction :=
  match changes.enabled with
  | some change =>
      if { changes with enabled := none } = {} then
        if change.after then .enabled else .disabled
      else .updated
  | none => .updated

end ScheduleChanges

/-- A request to update a schedule, with the generated identifier. -/
structure UpdateScheduleCall where
  scheduleId : String
  request : BatchScheduleDefinitionUpdateRequest
  callerContext : ReportCallerContext
  now : Instant
  auditId : String

/-- The changes that the request makes to the schedule it has read. -/
def UpdateScheduleCall.changes (env : ScheduleServices) (call : UpdateScheduleCall)
    (existing : StoredBatchSchedule) : ScheduleChanges :=
  call.request.changes env existing.toScheduleFields

/-- The copy of the schedule that the update writes. -/
def UpdateScheduleCall.updated (env : ScheduleServices) (call : UpdateScheduleCall)
    (existing : StoredBatchSchedule) : StoredBatchSchedule :=
  { existing with
    toScheduleFields := (call.changes env existing).assign existing.toScheduleFields
    cadenceEffectiveOn :=
      if (call.changes env existing).cadence.isSome then dayOf call.now
      else existing.cadenceEffectiveOn
    updatedAt := some call.now
    revision := existing.revision + 1 }

/-- The audit record of an update. -/
def UpdateScheduleCall.record (env : ScheduleServices) (call : UpdateScheduleCall)
    (existing : StoredBatchSchedule) : BatchScheduleAuditRecord where
  auditId := call.auditId
  scheduleId := existing.scheduleId
  action := (call.changes env existing).action
  actor := call.callerContext.triggeredBy
  correlationId := call.callerContext.correlationId
  changes := .fields (call.changes env existing)
  createdAt := call.now

/-- `update_schedule`. -/
def updateSchedule (env : ScheduleServices) (call : UpdateScheduleCall) :
    ScheduleProgram (Except ScheduleFailure StoredBatchSchedule) :=
  if !scopedCaller call.callerContext then .done (.error (.refused .scopeUnresolved))
  else
    .call (.getScheduleDefinition call.scheduleId) fun found =>
      match (found : Option StoredBatchSchedule) with
      | none => .done (.error (.refused .notFound))
      | some existing =>
          if !callerOwnsScope existing call.callerContext then .done (.error (.refused .notFound))
          else if call.changes env existing = {} then .done (.ok existing)
          else
            match validateSchedule env (call.updated env existing) with
            | some error => .done (.error (.refused error))
            | none =>
                (saveScheduleDefinitionWithAudit env.py (call.updated env existing)
                  (call.record env existing)).bind fun
                  | .ok schedule => .done (.ok schedule)
                  | .error (.stale _) => .done (.error (.refused .updateConflict))
                  | .error (.duplicate _) => .done (.error (.refused .duplicateDefinition))
                  | .error error => .done (.error (.store error))

/-- A request of the definition service. -/
inductive ScheduleRequest where
  | create (call : CreateScheduleCall)
  | update (call : UpdateScheduleCall)

/-- The program that serves a request. -/
def ScheduleRequest.program (env : ScheduleServices) :
    ScheduleRequest → ScheduleProgram (Except ScheduleFailure StoredBatchSchedule)
  | create call => createSchedule env call
  | update call => updateSchedule env call

/-- The schedule tables with the requests under way. -/
abbrev ScheduleSystem :=
  System ScheduleStore ScheduleCall ScheduleCall.Result (Except ScheduleFailure StoredBatchSchedule)

/-- One step: a request arrives, or one under way executes its next transaction. -/
def scheduleStep (env : ScheduleServices) : ScheduleSystem → Event ScheduleRequest → ScheduleSystem :=
  System.step (ScheduleStore.perform env.py) (ScheduleRequest.program env)

/-- The system with empty tables. -/
def ScheduleSystem.empty : ScheduleSystem := System.initial ScheduleStore.empty

end LotusReport.Schedules
