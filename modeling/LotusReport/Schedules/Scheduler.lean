import LotusReport.Batch.Changes
import LotusReport.Encoding.Date
import LotusReport.Schedules.Definitions

/-!
# The batch scheduler

`ReportBatchScheduler.run_due_schedules` as a program: it reads the due stored
definitions, resolves the candidates of every schedule portfolio by portfolio,
checks whether a configured schedule's cycle already has a batch, and creates
the batch. Passes run against one ledger and against sources that change
between any two calls. Besides the ledger the state lists the batches that
passes have created, each with the cycle it was created for.
-/

namespace LotusReport.Schedules

open Encoding Relational StateMachine Batch

section Cycles

/-- `BatchFrequency`. -/
inductive BatchFrequency where
  | monthly
  | quarterly
  | semiAnnual
  | yearly
  | explicit
deriving DecidableEq, Repr

/-- The name of a frequency on the wire. -/
def BatchFrequency.text : BatchFrequency → String
  | monthly => "monthly"
  | quarterly => "quarterly"
  | semiAnnual => "semi_annual"
  | yearly => "yearly"
  | explicit => "explicit"

/-- `BatchScheduleManifestEntry`. -/
structure BatchScheduleManifestEntry where
  portfolioId : String
  sourceSystem : String := "operator-manifest"
  sourceObject : String := "BatchScheduleManifestEntry"
deriving DecidableEq

/-- `BatchScheduleDefinition`. -/
structure BatchScheduleDefinition where
  scheduleId : String
  enabled : Bool := true
  stableCycleIdentity : Bool := false
  selectorMode : BatchSelectorMode := .explicitPortfolioList
  frequency : BatchFrequency
  asOfDate : CalendarDate
  portfolioIds : List String := []
  manifestEntries : List BatchScheduleManifestEntry := []
  manifestSource : Option String := none
  manifestVersion : Option String := none
  manifestHash : Option String := none
  requestedOutputFormats : List String := ["pdf"]
  reportingCurrency : Option String := none
  options : Fields := []
  maxBatchSize : Nat := 250
  explicitPeriodStart : Option CalendarDate := none
  explicitPeriodEnd : Option CalendarDate := none

/-- `SCHEDULE_CADENCE_FREQUENCY`. -/
def ScheduleCadence.frequency : ScheduleCadence → BatchFrequency
  | monthlyEnd => .monthly
  | quarterEnd => .quarterly

/-- `stored_schedule_to_definition`. -/
def storedScheduleToDefinition (schedule : StoredBatchSchedule) (asOfDate : CalendarDate) :
    BatchScheduleDefinition where
  scheduleId := schedule.scheduleId
  enabled := schedule.enabled
  stableCycleIdentity := true
  selectorMode := .explicitPortfolioList
  frequency := schedule.cadence.frequency
  asOfDate := asOfDate
  portfolioIds := schedule.portfolioIds
  requestedOutputFormats := schedule.requestedOutputFormats
  reportingCurrency := schedule.reportingCurrency
  options := schedule.options
  maxBatchSize := schedule.maxBatchSize

/-- `BatchCycle`. -/
structure BatchCycle where
  frequency : BatchFrequency
  periodStart : CalendarDate
  periodEnd : CalendarDate
  asOfDate : CalendarDate
  idempotencyScope : String

/-- `BatchScheduleValidationError`. -/
structure BatchScheduleValidationError where
  code : String
  message : String
deriving DecidableEq, Repr

/-- What `_cycle_scope` hashes. -/
def cyclePayload (frequency : BatchFrequency) (periodStart periodEnd asOfDate : CalendarDate) :
    Json :=
  .obj
    [ ("frequency", .str frequency.text),
      ("period_start", .str periodStart.isoformat),
      ("period_end", .str periodEnd.isoformat),
      ("as_of_date", .str asOfDate.isoformat) ]

/-- `_cycle_scope`. -/
def cycleScope (py : Runtime) (frequency : BatchFrequency)
    (periodStart periodEnd asOfDate : CalendarDate) : String :=
  frequency.text ++ ":" ++ periodStart.isoformat ++ ":" ++ periodEnd.isoformat ++ ":" ++
    clip 24 (py.digest (cyclePayload frequency periodStart periodEnd asOfDate))

/-- `_explicit_period`. -/
def explicitPeriod (schedule : BatchScheduleDefinition) :
    Except BatchScheduleValidationError (CalendarDate × CalendarDate) :=
  match schedule.explicitPeriodStart, schedule.explicitPeriodEnd with
  | some start, some finish =>
      if finish.before start then
        .error ⟨"invalid_explicit_period",
          "Explicit period start must be on or before explicit period end."⟩
      else if schedule.asOfDate.before start || finish.before schedule.asOfDate then
        .error ⟨"as_of_date_outside_period",
          "Explicit as-of date must fall within the explicit period."⟩
      else .ok (start, finish)
  | _, _ =>
      .error ⟨"explicit_period_required",
        "Explicit batch frequency requires explicit period start and end dates."⟩

/-- The first and last day of the cycle. -/
def cyclePeriod (schedule : BatchScheduleDefinition) :
    Except BatchScheduleValidationError (CalendarDate × CalendarDate) :=
  let day := schedule.asOfDate
  match schedule.frequency with
  | .explicit => explicitPeriod schedule
  | .monthly => .ok (⟨day.year, day.month, 1⟩, day)
  | .quarterly => .ok (⟨day.year, (day.month - 1) / 3 * 3 + 1, 1⟩, day)
  | .semiAnnual => .ok (⟨day.year, if day.month ≤ 6 then 1 else 7, 1⟩, day)
  | .yearly => .ok (⟨day.year, 1, 1⟩, day)

/-- `materialize_cycle` of `_cycle_request`. -/
def materializeCycle (py : Runtime) (schedule : BatchScheduleDefinition) :
    Except BatchScheduleValidationError BatchCycle :=
  match cyclePeriod schedule with
  | .error error => .error error
  | .ok (periodStart, periodEnd) =>
      .ok
        { frequency := schedule.frequency
          periodStart := periodStart
          periodEnd := periodEnd
          asOfDate := schedule.asOfDate
          idempotencyScope :=
            cycleScope py schedule.frequency periodStart periodEnd schedule.asOfDate }

end Cycles

section Keys

/-- `_stable_short_hash`. -/
def stableShortHash (py : Runtime) (length : Nat) (payload : Json) : String :=
  clip length (py.digest payload)

/-- `_manifest_hash`. -/
def manifestHash (py : Runtime) (schedule : BatchScheduleDefinition) : String :=
  match schedule.manifestHash with
  | some hash => if hash ≠ "" then hash else computed
  | none => computed
where
  computed : String := stableShortHash py 32 (.obj
    [ ("manifest_source", .str (orDefault schedule.manifestSource "inline-schedule-manifest")),
      ("manifest_version", .str (orDefault schedule.manifestVersion "v1")),
      ("entries", .arr (schedule.manifestEntries.map fun entry => .obj
        [ ("portfolio_id", .str entry.portfolioId),
          ("source_system", .str entry.sourceSystem),
          ("source_object", .str entry.sourceObject) ])) ])
  orDefault (text : Option String) (default : String) : String :=
    match text with
    | some text => if text ≠ "" then text else default
    | none => default

/-- `stored_schedule_cycle_idempotency_key`. -/
def storedScheduleCycleIdempotencyKey (py : Runtime) (scheduleId : String)
    (asOfDate : CalendarDate) : String :=
  "scheduled-batch-" ++ stableShortHash py 32 (.obj
    [("schedule_id", .str scheduleId), ("as_of_date", .str asOfDate.isoformat)])

/-- What `_selector_identity` hashes. -/
def selectorPayload (py : Runtime) (schedule : BatchScheduleDefinition)
    (portfolioIds : List String) : Json :=
  .obj
    [ ("schedule_id", .str schedule.scheduleId),
      ("selector_mode", .str schedule.selectorMode.text),
      ("portfolio_ids", .ofTexts portfolioIds),
      ("manifest_hash",
        if schedule.selectorMode = .batchManifest then .str (manifestHash py schedule) else .null),
      ("requested_output_formats", .ofTexts (sortedTexts schedule.requestedOutputFormats)),
      ("reporting_currency", .ofText? schedule.reportingCurrency),
      ("options", .obj schedule.options),
      ("max_batch_size", .int schedule.maxBatchSize) ]

/-- `_selector_identity`. -/
def selectorIdentity (py : Runtime) (schedule : BatchScheduleDefinition)
    (portfolioIds : List String) : String :=
  stableShortHash py 32 (selectorPayload py schedule portfolioIds)

/-- What `scheduled_batch_idempotency_key` hashes. -/
def scheduledBatchPayload (callerContext : ReportCallerContext) (selectorMode : BatchSelectorMode)
    (cycle : BatchCycle) (selectorIdentity : String) : Json :=
  .obj
    [ ("tenant_id", .str callerContext.tenantId),
      ("region", .str callerContext.region),
      ("selector_mode", .str selectorMode.text),
      ("cycle", .str cycle.idempotencyScope),
      ("selector_identity", .str selectorIdentity) ]

/-- `scheduled_batch_idempotency_key`. -/
def scheduledBatchIdempotencyKey (py : Runtime) (callerContext : ReportCallerContext)
    (selectorMode : BatchSelectorMode) (cycle : BatchCycle) (selectorIdentity : String) : String :=
  "scheduled-batch-" ++
    clip 32 (py.digest (scheduledBatchPayload callerContext selectorMode cycle selectorIdentity))

/-- `_batch_options`. -/
def batchOptions (py : Runtime) (schedule : BatchScheduleDefinition) (cycle : BatchCycle) :
    Fields :=
  let options := Json.assign (Json.assign (Json.assign (Json.assign (Json.assign schedule.options
    "batch_schedule_id" (.str schedule.scheduleId))
    "batch_selector_mode" (.str schedule.selectorMode.text))
    "batch_frequency" (.str cycle.frequency.text))
    "batch_period_start" (.str cycle.periodStart.isoformat))
    "batch_period_end" (.str cycle.periodEnd.isoformat)
  if schedule.selectorMode = .batchManifest then
    Json.assign (Json.assign (Json.assign options
      "batch_manifest_source"
        (.str (manifestHash.orDefault schedule.manifestSource "inline-schedule-manifest")))
      "batch_manifest_version" (.str (manifestHash.orDefault schedule.manifestVersion "v1")))
      "batch_manifest_hash" (.str (manifestHash py schedule))
  else options

end Keys

section Calls

/-- The business cycle of a schedule, as the ledger recognises it. -/
structure ScheduleCycle where
  tenantId : String
  region : String
  scheduleId : String
  periodStart : String
  periodEnd : String
  asOfDate : String
deriving DecidableEq

/-- `json_extract(options_json, '$.name') = text`. -/
def optionIs (options : Json) (name text : String) : Bool :=
  match options with
  | .obj fields => decide (Json.lookup fields name = some (.str text))
  | _ => false

/-- The `WHERE` clause of `has_batch_for_schedule_cycle`. -/
def ScheduleCycle.recognises (cycle : ScheduleCycle) (b : BatchRow) : Bool :=
  b.asOfDate == cycle.asOfDate && b.tenantId == cycle.tenantId && b.region == cycle.region &&
    optionIs b.options "batch_schedule_id" cycle.scheduleId &&
    optionIs b.options "batch_period_start" cycle.periodStart &&
    optionIs b.options "batch_period_end" cycle.periodEnd

/-- `has_batch_for_schedule_cycle`. -/
def hasBatchForScheduleCycle (s : BatchLedger) (cycle : ScheduleCycle) : Bool :=
  s.batches.rows.any cycle.recognises

/-- Where a definition comes from: the stored schedules, or the configuration. -/
inductive ScheduleOrigin where
  | stored
  | configured
deriving DecidableEq, Repr

/-- A batch that a pass has created. -/
structure ScheduledBatch where
  origin : ScheduleOrigin
  cycle : ScheduleCycle
  batchId : String
deriving DecidableEq

/-- `get_portfolio_detail`: a status code and a payload. -/
abbrev PortfolioAnswer := Int × Fields

/-- The ledger, the batches that passes have created, and the two sources as they are now: the
due stored schedules of a scope with their as-of dates, and the portfolios. -/
structure SchedulerState where
  ledger : BatchLedger
  scheduled : List ScheduledBatch
  due : String → String → Option String → List (StoredBatchSchedule × CalendarDate)
  portfolios : String → String → PortfolioAnswer

/-- The calls of a pass, the calls of others on the ledger, and changes of the sources. -/
inductive SchedulerCall where
  | dueDefinitionsForScheduler (tenantId region : String) (bookingCenterCode : Option String)
  | getPortfolioDetail (portfolioId admittedTenantId : String)
  | hasBatchForScheduleCycle (cycle : ScheduleCycle)
  | createBatch (origin : ScheduleOrigin) (cycle : ScheduleCycle) (request : BatchCreateRequest)
      (callerContext : ReportCallerContext) (idempotencyKey batchId : String)
      (itemId : Nat → String) (now : Instant)
  | ledger (call : BatchCall)
  | changeSchedules (due : String → String → Option String →
      List (StoredBatchSchedule × CalendarDate))
  | changePortfolios (portfolios : String → String → PortfolioAnswer)

/-- What a call returns. -/
def SchedulerCall.Result : SchedulerCall → Type
  | dueDefinitionsForScheduler _ _ _ => List BatchScheduleDefinition
  | getPortfolioDetail _ _ => PortfolioAnswer
  | hasBatchForScheduleCycle _ => Bool
  | createBatch _ _ _ _ _ _ _ _ => Transaction ReportBatchRecord
  | ledger _ => Unit
  | changeSchedules _ => Unit
  | changePortfolios _ => Unit

/-- Execute a call. -/
def SchedulerState.perform (py : Runtime) (s : SchedulerState) :
    (call : SchedulerCall) → SchedulerState × call.Result
  | .dueDefinitionsForScheduler tenantId region bookingCenterCode =>
      (s, (s.due tenantId region bookingCenterCode).map fun owed =>
        storedScheduleToDefinition owed.1 owed.2)
  | .getPortfolioDetail portfolioId admittedTenantId =>
      (s, s.portfolios portfolioId admittedTenantId)
  | .hasBatchForScheduleCycle cycle => (s, Schedules.hasBatchForScheduleCycle s.ledger cycle)
  | .createBatch origin cycle request callerContext idempotencyKey batchId itemId now =>
      match s.ledger.createBatch py request callerContext (some idempotencyKey) batchId itemId
          now with
      | .ok (record, ledger) =>
          let created : ScheduledBatch := ⟨origin, cycle, record.batch.batchId⟩
          let isNew := (s.ledger.batches.find? record.batch.batchId).isNone
          ({ s with
              ledger := ledger
              scheduled := if isNew then s.scheduled ++ [created] else s.scheduled },
            .ok record)
      | .error error => (s, .error error)
  | .ledger call => ({ s with ledger := Batch.step py s.ledger call }, ())
  | .changeSchedules due => ({ s with due := due }, ())
  | .changePortfolios portfolios => ({ s with portfolios := portfolios }, ())

end Calls

section Passes

/-- `BatchSchedulerConfig`. -/
structure BatchSchedulerConfig where
  schedulerId : String
  tenantId : String
  region : String
  bookingCenterCode : Option String
  schedules : List BatchScheduleDefinition

/-- A pass: its configuration and caller, with the identifiers and clock readings of the creation
for the schedule at each position. -/
structure SchedulerPass where
  config : BatchSchedulerConfig
  callerContext : ReportCallerContext
  batchId : Nat → String
  itemId : Nat → Nat → String
  now : Nat → Instant

/-- `BatchSchedulerMaterialization`. -/
structure BatchSchedulerMaterialization where
  scheduleId : String
  batchId : String
  idempotencyKey : String
  itemCount : Nat
  status : BatchStatus
deriving DecidableEq

/-- `BatchSchedulerRunResult`. -/
structure BatchSchedulerRunResult where
  schedulerId : String
  attemptedCount : Nat
  materialized : List BatchSchedulerMaterialization := []
  skippedScheduleIds : List String := []
  refusedScheduleIds : List String := []
deriving DecidableEq

/-- How a pass fails. -/
inductive SchedulerFailure where
  | notAdmitted
  | cycle (error : BatchScheduleValidationError)
  | invalidRequest
  | ledger (error : BatchLedgerError)
deriving DecidableEq, Repr

/-- Programs of the scheduler. -/
abbrev SchedulerProgram := Program SchedulerCall SchedulerCall.Result

/-- `str(payload.get(name) or "")`. -/
def payloadText (py : Runtime) (payload : Fields) (name : String) : String :=
  match Json.lookup payload name with
  | some value => if value.truthy then pyStr py value else ""
  | none => ""

/-- A candidate of the scheduler, unless the source refuses it, names another portfolio or does
not project the expected tenant. A manifest candidate has the stripped id of the payload. -/
def candidateOf (py : Runtime) (config : BatchSchedulerConfig) (schedule : BatchScheduleDefinition)
    (entry : BatchScheduleManifestEntry) (answer : PortfolioAnswer) :
    Option PortfolioBatchCandidate :=
  let (statusCode, payload) := answer
  let projected := strip (payloadText py payload "tenant_id")
  if statusCode ≠ 200 || payloadText py payload "portfolio_id" ≠ entry.portfolioId ||
      projected = "" || projected ≠ config.tenantId then none
  else some
    { portfolioId :=
        if schedule.selectorMode = .batchManifest then strip entry.portfolioId
        else entry.portfolioId
      tenantId := projected
      region := config.region
      active := (payloadText py payload "status").toLower == "active"
      selected := true
      sourceSystem := entry.sourceSystem
      sourceObject := entry.sourceObject }

/-- The portfolios that a schedule asks the source for. -/
def requestedEntries (schedule : BatchScheduleDefinition) : List BatchScheduleManifestEntry :=
  if schedule.selectorMode = .batchManifest then schedule.manifestEntries
  else schedule.portfolioIds.map fun portfolioId => ⟨portfolioId, "lotus-core", "Portfolio"⟩

/-- `_resolve_candidates`. -/
def resolveCandidates (py : Runtime) (pass : SchedulerPass) (schedule : BatchScheduleDefinition) :
    List BatchScheduleManifestEntry → SchedulerProgram (List PortfolioBatchCandidate)
  | [] => .done []
  | entry :: entries =>
      .call (.getPortfolioDetail entry.portfolioId pass.callerContext.tenantId) fun answer =>
        (resolveCandidates py pass schedule entries).bind fun candidates =>
          .done ((candidateOf py pass.config schedule entry answer).toList ++ candidates)

/-- The cycle of a schedule under the caller's scope. -/
def scheduleCycle (callerContext : ReportCallerContext) (schedule : BatchScheduleDefinition)
    (cycle : BatchCycle) : ScheduleCycle where
  tenantId := callerContext.tenantId
  region := callerContext.region
  scheduleId := schedule.scheduleId
  periodStart := cycle.periodStart.isoformat
  periodEnd := cycle.periodEnd.isoformat
  asOfDate := cycle.asOfDate.isoformat

/-- The request for a cycle of a schedule. -/
def cycleRequest (py : Runtime) (schedule : BatchScheduleDefinition) (cycle : BatchCycle)
    (candidates : List PortfolioBatchCandidate) : BatchCreateRequest where
  selectorMode := schedule.selectorMode
  portfolioIds := candidates.map (·.portfolioId)
  sourceCandidates := candidates
  asOfDate := cycle.asOfDate.isoformat
  requestedOutputFormats := schedule.requestedOutputFormats
  reportingCurrency := schedule.reportingCurrency
  options := batchOptions py schedule cycle
  maxBatchSize := schedule.maxBatchSize

/-- The idempotency key for a cycle of a schedule. -/
def cycleKey (py : Runtime) (callerContext : ReportCallerContext)
    (schedule : BatchScheduleDefinition) (cycle : BatchCycle)
    (candidates : List PortfolioBatchCandidate) : String :=
  if schedule.stableCycleIdentity then
    storedScheduleCycleIdempotencyKey py schedule.scheduleId cycle.asOfDate
  else
    scheduledBatchIdempotencyKey py callerContext schedule.selectorMode cycle
      (selectorIdentity py schedule (candidates.map (·.portfolioId)))

/-- What one schedule of a pass adds to its result. -/
inductive ScheduleOutcome where
  | materialized (record : BatchSchedulerMaterialization)
  | skipped
  | refused
deriving DecidableEq

/-- What a pass makes of the result of `create_batch`: a conflict means that the cycle has a batch,
and a domain failure of a stored schedule does not stop the pass. -/
def cycleOutcome (schedule : BatchScheduleDefinition) (idempotencyKey : String) :
    Transaction ReportBatchRecord → Except SchedulerFailure ScheduleOutcome
  | .ok record =>
      .ok (.materialized
        { scheduleId := schedule.scheduleId
          batchId := record.batch.batchId
          idempotencyKey := idempotencyKey
          itemCount := record.batch.itemCount
          status := record.batch.status })
  | .error .idempotencyConflict => .ok .skipped
  -- a database fault is no domain failure
  | .error .integrity => .error (.ledger .integrity)
  | .error error =>
      if schedule.stableCycleIdentity then .ok .skipped else .error (.ledger error)

/-- The creation of a cycle's batch. -/
def createCycle (py : Runtime) (pass : SchedulerPass) (position : Nat) (origin : ScheduleOrigin)
    (schedule : BatchScheduleDefinition) (cycle : BatchCycle)
    (candidates : List PortfolioBatchCandidate) :
    SchedulerProgram (Except SchedulerFailure ScheduleOutcome) :=
  let idempotencyKey := cycleKey py pass.callerContext schedule cycle candidates
  .call (.createBatch origin (scheduleCycle pass.callerContext schedule cycle)
      (cycleRequest py schedule cycle candidates) pass.callerContext idempotencyKey
      (pass.batchId position) (pass.itemId position) (pass.now position)) fun created =>
    .done (cycleOutcome schedule idempotencyKey created)

/-- One schedule of a pass. -/
def runSchedule (py : Runtime) (pass : SchedulerPass) (position : Nat) (origin : ScheduleOrigin)
    (schedule : BatchScheduleDefinition) :
    SchedulerProgram (Except SchedulerFailure ScheduleOutcome) :=
  if schedule.selectorMode = .allActivePortfolios then .done (.ok .refused)
  else
    (resolveCandidates py pass schedule (requestedEntries schedule)).bind fun candidates =>
      if candidates.isEmpty then .done (.ok .skipped)
      else if schedule.stableCycleIdentity && candidates.length != schedule.portfolioIds.length then
        .done (.ok .skipped)
      else
        match materializeCycle py schedule with
        | .error error => .done (.error (.cycle error))
        | .ok cycle =>
            if 1000 < schedule.maxBatchSize then .done (.error .invalidRequest)
            else if schedule.stableCycleIdentity then
              createCycle py pass position origin schedule cycle candidates
            else
              .call (.hasBatchForScheduleCycle (scheduleCycle pass.callerContext schedule cycle))
                fun found =>
                  match (found : Bool) with
                  | true => .done (.ok .skipped)
                  | false => createCycle py pass position origin schedule cycle candidates

/-- The result of a pass with the outcome of one more schedule. -/
def BatchSchedulerRunResult.add (result : BatchSchedulerRunResult) (scheduleId : String) :
    ScheduleOutcome → BatchSchedulerRunResult
  | .materialized record => { result with materialized := result.materialized ++ [record] }
  | .skipped => { result with skippedScheduleIds := result.skippedScheduleIds ++ [scheduleId] }
  | .refused => { result with refusedScheduleIds := result.refusedScheduleIds ++ [scheduleId] }

/-- The loop over the schedules of a pass. -/
def runSchedules (py : Runtime) (pass : SchedulerPass) : Nat →
    List (ScheduleOrigin × BatchScheduleDefinition) → BatchSchedulerRunResult →
    SchedulerProgram (Except SchedulerFailure BatchSchedulerRunResult)
  | _, [], result => .done (.ok result)
  | position, (origin, schedule) :: schedules, result =>
      (runSchedule py pass position origin schedule).bind fun
        | .ok outcome =>
            runSchedules py pass (position + 1) schedules (result.add schedule.scheduleId outcome)
        | .error error => .done (.error error)

/-- `admit_scheduler`. -/
def admitScheduler (config : BatchSchedulerConfig) (callerContext : ReportCallerContext) : Bool :=
  strip config.tenantId != "" && strip config.region != "" &&
    config.tenantId == callerContext.tenantId && config.region == callerContext.region &&
    config.bookingCenterCode == callerContext.bookingCenterCode

/-- `run_due_schedules`. -/
def runDueSchedules (py : Runtime) (pass : SchedulerPass) :
    SchedulerProgram (Except SchedulerFailure BatchSchedulerRunResult) :=
  if !admitScheduler pass.config pass.callerContext then .done (.error .notAdmitted)
  else
    .call (.dueDefinitionsForScheduler pass.config.tenantId pass.config.region
        pass.config.bookingCenterCode) fun stored =>
      let configured := pass.config.schedules.filter (·.enabled)
      let schedules := configured.map (fun schedule => (ScheduleOrigin.configured, schedule)) ++
        List.map (fun schedule => (ScheduleOrigin.stored, schedule)) stored
      runSchedules py pass 0 schedules
        { schedulerId := pass.config.schedulerId, attemptedCount := schedules.length }

/-- What may start: a pass, a call of another component on the ledger, a change of a source. -/
inductive SchedulerActivity where
  | pass (p : SchedulerPass)
  | ledger (call : BatchCall)
  | changeSchedules (due : String → String → Option String →
      List (StoredBatchSchedule × CalendarDate))
  | changePortfolios (portfolios : String → String → PortfolioAnswer)

/-- The program of an activity. -/
def SchedulerActivity.program (py : Runtime) : SchedulerActivity →
    SchedulerProgram (Option (Except SchedulerFailure BatchSchedulerRunResult))
  | pass p => (runDueSchedules py p).bind fun result => .done (some result)
  | ledger call => .call (.ledger call) fun _ => .done none
  | changeSchedules due => .call (.changeSchedules due) fun _ => .done none
  | changePortfolios portfolios => .call (.changePortfolios portfolios) fun _ => .done none

/-- The ledger and the sources, with the passes under way. -/
abbrev SchedulerSystem :=
  System SchedulerState SchedulerCall SchedulerCall.Result
    (Option (Except SchedulerFailure BatchSchedulerRunResult))

/-- One step of the scheduler system. -/
def schedulerStep (py : Runtime) : SchedulerSystem → Event SchedulerActivity → SchedulerSystem :=
  System.step (SchedulerState.perform py) (SchedulerActivity.program py)

/-- An empty ledger, no schedules and no portfolios. -/
def SchedulerSystem.empty : SchedulerSystem :=
  System.initial ⟨.empty, [], fun _ _ _ => [], fun _ _ => (404, [])⟩

end Passes

end LotusReport.Schedules
