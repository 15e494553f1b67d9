import LotusReport.Batch.Ledger
import LotusReport.Jobs.Calls
import LotusReport.Relational.Ranking

/-!
# The attention scan

The scan looks for report jobs and batch items that have been active for too
long. It reads one page of the jobs of every active status, the newest jobs
first, and the items of a page of active batches, the oldest batches first. Of
what it finds it reports the most urgent: breaches of the service level before
stuck states, then by age.
-/

namespace LotusReport.Operations

open Encoding Relational Jobs Batch

section Model

/-- `AttentionScanConfig`. -/
structure AttentionScanConfig where
  reportJobStuckThresholdSeconds : Nat := 900
  batchItemStuckThresholdSeconds : Nat := 900
  slaBreachThresholdSeconds : Nat := 3600
  maxReportJobsPerStatus : Nat := 100
  maxBatches : Nat := 100
  maxEvents : Nat := 250
  positive : 1 ≤ reportJobStuckThresholdSeconds ∧ 1 ≤ batchItemStuckThresholdSeconds ∧
    1 ≤ slaBreachThresholdSeconds ∧ 1 ≤ maxReportJobsPerStatus ∧ 1 ≤ maxBatches ∧
    1 ≤ maxEvents := by decide

/-- `ACTIVE_REPORT_JOB_STATUSES`. -/
def activeReportJobStatuses : List ReportJobStatus :=
  [.accepted, .queued, .collectingData, .dataReady, .rendering, .archiving]

/-- `ACTIVE_BATCH_ITEM_STATUSES`. -/
def activeBatchItemStatuses : List BatchItemStatus :=
  [.materialized, .leased, .waitingOnReportJob, .recoveryPending]

/-- The text of a batch item status. -/
def itemStatusText : BatchItemStatus → String
  | .materialized => "materialized"
  | .leased => "leased"
  | .waitingOnReportJob => "waiting_on_report_job"
  | .succeeded => "succeeded"
  | .failedRetryable => "failed_retryable"
  | .failedTerminal => "failed_terminal"
  | .cancelled => "cancelled"
  | .recoveryPending => "recovery_pending"

/-- `AttentionType`. -/
inductive AttentionType where
  | stuckState
  | slaBreach
deriving DecidableEq, Repr

/-- `AttentionSeverity`. -/
inductive AttentionSeverity where
  | warning
  | critical
deriving DecidableEq, Repr

/-- `ReportingAttentionEvent`. -/
structure AttentionEvent where
  resourceType : String
  resourceId : String
  parentResourceId : Option String
  attentionType : AttentionType
  severity : AttentionSeverity
  status : String
  reason : String
  ageSeconds : Nat
  thresholdSeconds : Nat
  recommendedAction : String
  evidenceUrl : String
  observedAt : Instant
deriving DecidableEq

/-- `_elapsed_seconds`. -/
def elapsedSeconds (scanAt since : Instant) : Nat := ((scanAt - since) / 1000000).toNat

variable (config : AttentionScanConfig) (scanAt : Instant)

/-- `_classify`. -/
def classify (ageSeconds stuckThresholdSeconds : Nat) : AttentionType × AttentionSeverity × Nat :=
  if config.slaBreachThresholdSeconds ≤ ageSeconds then
    (.slaBreach, .critical, config.slaBreachThresholdSeconds)
  else (.stuckState, .warning, stuckThresholdSeconds)

/-- `_report_job_reason`. -/
def reportJobReason : AttentionType → String
  | .slaBreach => "report_job_active_state_exceeded_sla_threshold"
  | .stuckState => "report_job_active_state_exceeded_stuck_threshold"

/-- `_batch_item_reason`. -/
def batchItemReason : AttentionType → BatchItemStatus → String
  | .slaBreach, _ => "batch_item_active_state_exceeded_sla_threshold"
  | .stuckState, .leased => "batch_item_lease_heartbeat_stale"
  | .stuckState, .waitingOnReportJob => "batch_item_waiting_on_report_job_exceeded_stuck_threshold"
  | .stuckState, _ => "batch_item_active_state_exceeded_stuck_threshold"

/-- The event of a report job whose age reaches a threshold. -/
def reportJobEvent (job : JobRow) : Option AttentionEvent :=
  let ageSeconds := elapsedSeconds scanAt job.updatedAt.instant
  if ageSeconds < min config.reportJobStuckThresholdSeconds config.slaBreachThresholdSeconds then none
  else
    let (attentionType, severity, thresholdSeconds) :=
      classify config ageSeconds config.reportJobStuckThresholdSeconds
    some {
      resourceType := "report_job"
      resourceId := job.reportJobId
      parentResourceId := none
      attentionType := attentionType
      severity := severity
      status := job.status.text
      reason := reportJobReason attentionType
      ageSeconds := ageSeconds
      thresholdSeconds := thresholdSeconds
      recommendedAction := "Inspect report job diagnostics and replay only if the source " ++
        "failure is retryable."
      evidenceUrl := "/reports/jobs/" ++ job.reportJobId ++ "/diagnostics"
      observedAt := scanAt }

/-- The instant of the last activity of an item. -/
def lastActivity (item : BatchItemRow) : Instant :=
  ((item.lease.lastHeartbeatAt <|> item.dispatchedAt <|> item.lease.acquiredAt <|>
    item.startedAt).getD item.createdAt).instant

/-- The event of a batch item whose age reaches a threshold. -/
def batchItemEvent (item : BatchItemRow) : Option AttentionEvent :=
  let ageSeconds := elapsedSeconds scanAt (lastActivity item)
  if ageSeconds < min config.batchItemStuckThresholdSeconds config.slaBreachThresholdSeconds then none
  else
    let (attentionType, severity, thresholdSeconds) :=
      classify config ageSeconds config.batchItemStuckThresholdSeconds
    some {
      resourceType := "batch_item"
      resourceId := item.batchItemId
      parentResourceId := some item.batchId
      attentionType := attentionType
      severity := severity
      status := itemStatusText item.status
      reason := batchItemReason attentionType item.status
      ageSeconds := ageSeconds
      thresholdSeconds := thresholdSeconds
      recommendedAction := "Inspect the batch item, recover expired leases, and replay only " ++
        "after the linked report job failure is confirmed retryable."
      evidenceUrl := "/reports/batches/" ++ item.batchId ++ "/items/" ++ item.batchItemId
      observedAt := scanAt }

/-- The jobs of a status, joined with their requests. -/
def jobsOf (jobs : Jobs.Ledger) (status : ReportJobStatus) : List JobRow :=
  jobs.jobs.rows.filter fun job =>
    job.status == status && (jobs.requests.find? job.reportRequestId).isSome

/-- `ORDER BY created_at DESC, report_job_id DESC`. -/
def newestFirst (job : JobRow) : (ℤ ×ₗ String)ᵒᵈ :=
  OrderDual.toDual (toLex (job.createdAt.rank, job.reportJobId))

/-- `list_jobs` by status. -/
def listJobs (jobs : Jobs.Ledger) (status : ReportJobStatus) (limit : Nat) : List JobRow :=
  (ranked newestFirst (jobsOf jobs status)).take limit

/-- The items for which `list_attention_batch_ids` lists a batch. -/
def needsAttention (now : Timestamp) (item : BatchItemRow) : Bool :=
  item.status ∈ activeBatchItemStatuses ||
    (item.status == .failedRetryable && item.retryEligible && BatchLedger.retryDue item now)

/-- The active batches with an item that needs attention. -/
def attentionBatches (batches : BatchLedger) (now : Instant) : List BatchRow :=
  batches.batches.rows.filter fun batch =>
    batch.status.active && (batches.itemsOf batch.batchId).any (needsAttention (dtToText now))

/-- `ORDER BY created_at, batch_id`. -/
def oldestFirst (batch : BatchRow) : ℤ ×ₗ String := toLex (batch.createdAt.rank, batch.batchId)

/-- `list_attention_batch_ids`. -/
def listAttentionBatchIds (batches : BatchLedger) (limit : Nat) (now : Instant) : List String :=
  ((ranked oldestFirst (attentionBatches batches now)).take limit).map (·.batchId)

/-- `_report_job_events`. -/
def reportJobEvents (jobs : Jobs.Ledger) : List AttentionEvent :=
  activeReportJobStatuses.flatMap fun status =>
    (listJobs jobs status config.maxReportJobsPerStatus).filterMap (reportJobEvent config scanAt)

/-- `_batch_item_events`. -/
def batchItemEvents (batches : BatchLedger) : Transaction (List AttentionEvent) := do
  let records ← (listAttentionBatchIds batches config.maxBatches scanAt).mapM batches.loadBatch
  return records.flatMap fun record =>
    (record.items.filter fun item => item.status ∈ activeBatchItemStatuses).filterMap
      (batchItemEvent config scanAt)

/-- The sort key of the scan. -/
def urgency (event : AttentionEvent) : ℕ ×ₗ ℤ ×ₗ String ×ₗ String :=
  toLex (if event.severity = .critical then 0 else 1,
    toLex (-(event.ageSeconds : ℤ), toLex (event.resourceType, event.resourceId)))

/-- `ReportingAttentionScanResponse`; the id of the scan is made from the instant. -/
structure AttentionScanResponse where
  scannedAt : Instant
  reportJobStuckThresholdSeconds : Nat
  batchItemStuckThresholdSeconds : Nat
  slaBreachThresholdSeconds : Nat
  eventCount : Nat
  events : List AttentionEvent
deriving DecidableEq

/-- `scan`. -/
def scan (jobs : Jobs.Ledger) (batches : BatchLedger) : Transaction AttentionScanResponse := do
  let itemEvents ← batchItemEvents config scanAt batches
  let events := (ranked urgency (reportJobEvents config scanAt jobs ++ itemEvents)).take
    config.maxEvents
  return {
    scannedAt := scanAt
    reportJobStuckThresholdSeconds := config.reportJobStuckThresholdSeconds
    batchItemStuckThresholdSeconds := config.batchItemStuckThresholdSeconds
    slaBreachThresholdSeconds := config.slaBreachThresholdSeconds
    eventCount := events.length
    events := events }

end Model

section Purpose

variable (config : AttentionScanConfig) (scanAt : Instant) (jobs : Jobs.Ledger)
  (batches : BatchLedger)

/-- The events of all active report jobs and batch items whose age reaches a threshold. -/
def allEvents : List AttentionEvent :=
  (jobs.jobs.rows.filter fun job => job.status ∈ activeReportJobStatuses).filterMap
      (reportJobEvent config scanAt) ++
    (batches.items.rows.filter fun item => item.status ∈ activeBatchItemStatuses).filterMap
      (batchItemEvent config scanAt)

/-- The scan returns exactly the most urgent of all events. -/
def ShowsMostUrgent : Prop :=
  ∃ response, scan config scanAt jobs batches = .ok response ∧
    response.events = (ranked urgency (allEvents config scanAt jobs batches)).take config.maxEvents

/-- The page of its status is full before this job, or the join drops it. -/
def PagedOut (job : JobRow) : Prop :=
  jobs.requests.find? job.reportRequestId = none ∨
    config.maxReportJobsPerStatus ≤
      (jobsOf jobs job.status).countP fun other => newestFirst other < newestFirst job

/-- The batch of the item is not active, or the page of batches is full before it. -/
def BatchLeftOut (item : BatchItemRow) : Prop :=
  ∀ batch ∈ attentionBatches batches scanAt, batch.batchId = item.batchId →
    config.maxBatches ≤
      (attentionBatches batches scanAt).countP fun other => oldestFirst other < oldestFirst batch

/-- Enough events are more urgent than this one to fill the response. -/
def Outranked (event : AttentionEvent) : Prop :=
  config.maxEvents ≤ (allEvents config scanAt jobs batches).countP fun other =>
    urgency other < urgency event

end Purpose

section Results

variable {config : AttentionScanConfig} {scanAt : Instant} {jobs : Jobs.Ledger}
  {batches : BatchLedger} {event : AttentionEvent}

theorem reportJobEvent_eq_some {job : JobRow} (h : reportJobEvent config scanAt job = some event) :
    event.resourceType = "report_job" ∧ event.resourceId = job.reportJobId := by
  unfold reportJobEvent at h
  dsimp only at h
  split at h
  · cases h
  · cases h
    exact ⟨rfl, rfl⟩

theorem batchItemEvent_eq_some {item : BatchItemRow}
    (h : batchItemEvent config scanAt item = some event) :
    event.resourceType = "batch_item" ∧ event.resourceId = item.batchItemId := by
  unfold batchItemEvent at h
  dsimp only at h
  split at h
  · cases h
  · cases h
    exact ⟨rfl, rfl⟩

/-- The batches that a scan reads are there. -/
theorem loadBatch_listed {batchId : String} {limit : Nat} {now : Instant}
    (h : batchId ∈ listAttentionBatchIds batches limit now) :
    ∃ batch, batches.loadBatch batchId = .ok ⟨batch, BatchLedger.byPosition (batches.itemsOf batchId)⟩ := by
  obtain ⟨batch, hbatch, rfl⟩ := List.mem_map.mp h
  have hrow : batch ∈ batches.batches.rows :=
    List.mem_of_mem_filter ((List.mem_insertionSort _).mp (List.mem_of_mem_take hbatch))
  refine ⟨batch, ?_⟩
  rw [BatchLedger.loadBatch, Table.find?_key hrow]

/-- The items of the batches that a scan reads. -/
def listedItems (config : AttentionScanConfig) (scanAt : Instant) (batches : BatchLedger) :
    List BatchItemRow :=
  (listAttentionBatchIds batches config.maxBatches scanAt).flatMap fun batchId =>
    BatchLedger.byPosition (batches.itemsOf batchId)

theorem mapM_loadBatch {batchIds : List String} {β : Type} (f : List BatchItemRow → List β)
    (h : ∀ batchId ∈ batchIds, ∃ batch, batches.loadBatch batchId =
      .ok ⟨batch, BatchLedger.byPosition (batches.itemsOf batchId)⟩) :
    ∃ records, batchIds.mapM batches.loadBatch = .ok records ∧
      (records.flatMap fun record => f record.items) =
        batchIds.flatMap fun batchId => f (BatchLedger.byPosition (batches.itemsOf batchId)) := by
  induction batchIds with
  | nil => exact ⟨[], rfl, rfl⟩
  | cons batchId batchIds ih =>
      rw [List.forall_mem_cons] at h
      obtain ⟨batch, hbatch⟩ := h.1
      obtain ⟨records, hrecords, hitems⟩ := ih h.2
      refine ⟨⟨batch, BatchLedger.byPosition (batches.itemsOf batchId)⟩ :: records, ?_, ?_⟩
      · rw [List.mapM_cons, hbatch, hrecords]
        rfl
      · rw [List.flatMap_cons, List.flatMap_cons, hitems]

theorem batchItemEvents_eq :
    batchItemEvents config scanAt batches =
      .ok (((listedItems config scanAt batches).filter fun item =>
        item.status ∈ activeBatchItemStatuses).filterMap (batchItemEvent config scanAt)) := by
  have hlisted : ∀ batchId ∈ listAttentionBatchIds batches config.maxBatches scanAt, ∃ batch,
      batches.loadBatch batchId = .ok ⟨batch, BatchLedger.byPosition (batches.itemsOf batchId)⟩ :=
    fun _ h => loadBatch_listed h
  obtain ⟨records, hrecords, hitems⟩ := mapM_loadBatch
    (fun items => (items.filter fun item => item.status ∈ activeBatchItemStatuses).filterMap
      (batchItemEvent config scanAt)) hlisted
  unfold batchItemEvents listedItems
  rw [hrecords, List.filter_flatMap, List.filterMap_flatMap, ← hitems]
  rfl

/-- The jobs that a scan reads. -/
def listedJobs (config : AttentionScanConfig) (jobs : Jobs.Ledger) : List JobRow :=
  activeReportJobStatuses.flatMap fun status => listJobs jobs status config.maxReportJobsPerStatus

theorem reportJobEvents_eq :
    reportJobEvents config scanAt jobs =
      (listedJobs config jobs).filterMap (reportJobEvent config scanAt) := by
  rw [reportJobEvents, listedJobs, List.filterMap_flatMap]

theorem mem_listJobs {job : JobRow} {status : ReportJobStatus} {limit : Nat}
    (h : job ∈ listJobs jobs status limit) : job ∈ jobs.jobs.rows ∧ job.status = status := by
  have hmem := List.mem_filter.mp ((List.mem_insertionSort _).mp (List.mem_of_mem_take h))
  simp only [Bool.and_eq_true, beq_iff_eq] at hmem
  exact ⟨hmem.1, hmem.2.1⟩

theorem nodup_page {α : Type} {r : α → α → Prop} [DecidableRel r] {rows : List α} {p : α → Bool}
    (h : rows.Nodup) (limit : Nat) : (((rows.filter p).insertionSort r).take limit).Nodup :=
  (List.take_sublist _ _).nodup ((List.perm_insertionSort r _).nodup_iff.mpr (h.filter p))

theorem listedJobs_subperm : (listedJobs config jobs).Subperm
    (jobs.jobs.rows.filter fun job => job.status ∈ activeReportJobStatuses) := by
  apply List.Nodup.subperm
  · refine List.nodup_flatMap.mpr ⟨fun status _ => ?_, ?_⟩
    · exact nodup_page (List.Nodup.of_map _ jobs.jobs.key_nodup) _
    · have hstatuses : activeReportJobStatuses.Pairwise (· ≠ ·) := by decide
      refine hstatuses.imp fun hne job ha hb => hne ?_
      exact (mem_listJobs ha).2.symm.trans (mem_listJobs hb).2
  · intro job hjob
    obtain ⟨status, hstatus, hjob⟩ := List.mem_flatMap.mp hjob
    obtain ⟨hrow, rfl⟩ := mem_listJobs hjob
    exact List.mem_filter.mpr ⟨hrow, decide_eq_true hstatus⟩

theorem mem_itemsOf {item : BatchItemRow} {batchId : String} :
    item ∈ BatchLedger.byPosition (batches.itemsOf batchId) ↔
      item ∈ batches.items.rows ∧ item.batchId = batchId := by
  unfold BatchLedger.byPosition BatchLedger.itemsOf
  rw [List.mem_insertionSort, List.mem_filter, beq_iff_eq]

theorem listedItems_subperm : ((listedItems config scanAt batches).filter fun item =>
    item.status ∈ activeBatchItemStatuses).Subperm
      (batches.items.rows.filter fun item => item.status ∈ activeBatchItemStatuses) := by
  have hbatches : (listAttentionBatchIds batches config.maxBatches scanAt).Nodup := by
    have hsub : ((batches.batches.rows.filter fun batch => batch.status.active &&
        (batches.itemsOf batch.batchId).any (needsAttention (dtToText scanAt))).map
          BatchRow.batchId).Nodup :=
      (List.filter_sublist.map BatchRow.batchId).nodup batches.batches.key_nodup
    refine ((List.take_sublist _ _).map BatchRow.batchId).nodup ?_
    exact ((List.perm_insertionSort _ _).map BatchRow.batchId).nodup_iff.mpr hsub
  apply List.Nodup.subperm
  · refine List.Nodup.filter _ (List.nodup_flatMap.mpr ⟨fun batchId _ => ?_, ?_⟩)
    · refine (List.perm_insertionSort _ _).nodup_iff.mpr ?_
      exact (List.Nodup.of_map _ batches.items.key_nodup).filter _
    · refine hbatches.imp fun hne item ha hb => hne ?_
      exact (mem_itemsOf.mp ha).2.symm.trans (mem_itemsOf.mp hb).2
  · intro item hitem
    obtain ⟨hlisted, hactive⟩ := List.mem_filter.mp hitem
    obtain ⟨batchId, -, hitem⟩ := List.mem_flatMap.mp hlisted
    exact List.mem_filter.mpr ⟨(mem_itemsOf.mp hitem).1, hactive⟩

/-- The resource of an event. -/
def resource (event : AttentionEvent) : String × String := (event.resourceType, event.resourceId)

/-- Events of different resources have different keys. -/
theorem nodup_urgency {events : List AttentionEvent} (h : (events.map resource).Nodup) :
    (events.map urgency).Nodup := by
  have hresource : events.map resource =
      (events.map urgency).map fun key => ofLex (ofLex (ofLex key).2).2 := by
    rw [List.map_map]
    rfl
  rw [hresource] at h
  exact h.of_map _

/-- The events of rows with distinct ids are about distinct resources. -/
theorem nodup_resource {α : Type} {rows : List α} {event? : α → Option AttentionEvent}
    (kind : String) (id : α → String) (hrows : (rows.map id).Nodup)
    (hevent : ∀ row event, event? row = some event →
      event.resourceType = kind ∧ event.resourceId = id row) :
    ((rows.filterMap event?).map resource).Nodup := by
  have hids : ((rows.filterMap event?).map resource).Sublist ((rows.map id).map (kind, ·)) := by
    induction rows with
    | nil => exact List.Sublist.slnil
    | cons row rows ih =>
        have ih := ih (List.nodup_cons.mp hrows).2
        cases hrow : event? row with
        | none =>
            rw [List.filterMap_cons_none hrow]
            exact ih.cons _
        | some event =>
            rw [List.filterMap_cons_some hrow, List.map_cons, resource,
              (hevent row event hrow).1, (hevent row event hrow).2]
            exact ih.cons_cons _
  exact hids.nodup (hrows.map fun _ _ h => (Prod.mk.inj h).2)

theorem nodup_allEvents :
    ((allEvents config scanAt jobs batches).map urgency).Nodup := by
  apply nodup_urgency
  rw [allEvents, List.map_append]
  refine List.Nodup.append ?_ ?_ ?_
  · refine nodup_resource "report_job" JobRow.reportJobId ?_ fun _ _ => reportJobEvent_eq_some
    exact (List.filter_sublist.map _).nodup jobs.jobs.key_nodup
  · refine nodup_resource "batch_item" BatchItemRow.batchItemId ?_ fun _ _ => batchItemEvent_eq_some
    exact (List.filter_sublist.map _).nodup batches.items.key_nodup
  · intro key hjob hitem
    obtain ⟨jobEvent, hjobEvent, rfl⟩ := List.mem_map.mp hjob
    obtain ⟨itemEvent, hitemEvent, hkey⟩ := List.mem_map.mp hitem
    obtain ⟨job, -, hjob⟩ := List.mem_filterMap.mp hjobEvent
    obtain ⟨item, -, hitem⟩ := List.mem_filterMap.mp hitemEvent
    have hkinds : itemEvent.resourceType = jobEvent.resourceType := congrArg Prod.fst hkey
    rw [(reportJobEvent_eq_some hjob).1, (batchItemEvent_eq_some hitem).1] at hkinds
    exact absurd hkinds (by decide)

/-- The events that a scan ranks. -/
def shownEvents (config : AttentionScanConfig) (scanAt : Instant) (jobs : Jobs.Ledger)
    (batches : BatchLedger) : List AttentionEvent :=
  (listedJobs config jobs).filterMap (reportJobEvent config scanAt) ++
    ((listedItems config scanAt batches).filter fun item =>
      item.status ∈ activeBatchItemStatuses).filterMap (batchItemEvent config scanAt)

theorem subperm_filterMap {α β : Type} {rows all : List α} (f : α → Option β)
    (h : rows.Subperm all) : (rows.filterMap f).Subperm (all.filterMap f) := by
  obtain ⟨part, hperm, hpart⟩ := h
  exact ⟨part.filterMap f, hperm.filterMap f, hpart.filterMap f⟩

variable (config scanAt jobs batches)

theorem shownEvents_subperm :
    (shownEvents config scanAt jobs batches).Subperm (allEvents config scanAt jobs batches) :=
  (subperm_filterMap _ listedJobs_subperm).append (subperm_filterMap _ listedItems_subperm)

theorem scan_eq : ∃ response, scan config scanAt jobs batches = .ok response ∧
    response.events =
      (ranked urgency (shownEvents config scanAt jobs batches)).take config.maxEvents := by
  rw [scan, batchItemEvents_eq, reportJobEvents_eq]
  exact ⟨_, rfl, rfl⟩

theorem showsMostUrgent_iff :
    ShowsMostUrgent config scanAt jobs batches ↔
      ∀ event ∈ allEvents config scanAt jobs batches,
        event ∉ shownEvents config scanAt jobs batches →
          Outranked config scanAt jobs batches event := by
  obtain ⟨response, hscan, hevents⟩ := scan_eq config scanAt jobs batches
  have htake := take_ranked_eq_iff (shownEvents_subperm config scanAt jobs batches)
    nodup_allEvents config.maxEvents
  rw [ShowsMostUrgent, hscan]
  simp only [Except.ok.injEq, exists_eq_left', hevents]
  exact htake

variable {config scanAt jobs batches}

theorem nodup_newestFirst (status : ReportJobStatus) :
    ((jobsOf jobs status).map newestFirst).Nodup := by
  have hids : ((jobsOf jobs status).map JobRow.reportJobId).Nodup :=
    (List.filter_sublist.map _).nodup jobs.jobs.key_nodup
  have hid : JobRow.reportJobId = (fun key => (ofLex (OrderDual.ofDual key)).2) ∘ newestFirst := rfl
  rw [hid, ← List.map_map] at hids
  exact hids.of_map _

theorem nodup_oldestFirst : ((attentionBatches batches scanAt).map oldestFirst).Nodup := by
  have hids : ((attentionBatches batches scanAt).map BatchRow.batchId).Nodup :=
    (List.filter_sublist.map _).nodup batches.batches.key_nodup
  have hid : BatchRow.batchId = (fun key => (ofLex key).2) ∘ oldestFirst := rfl
  rw [hid, ← List.map_map] at hids
  exact hids.of_map _

theorem mem_listedJobs_iff {job : JobRow} (hjob : job ∈ jobs.jobs.rows)
    (hactive : job.status ∈ activeReportJobStatuses) :
    job ∈ listedJobs config jobs ↔ ¬PagedOut config jobs job := by
  have hlisted : job ∈ listedJobs config jobs ↔
      job ∈ listJobs jobs job.status config.maxReportJobsPerStatus := by
    rw [listedJobs, List.mem_flatMap]
    constructor
    · rintro ⟨status, -, h⟩
      rwa [(mem_listJobs h).2]
    · exact fun h => ⟨job.status, hactive, h⟩
  rw [hlisted, listJobs, mem_take_ranked_iff (nodup_newestFirst job.status), PagedOut, not_or, not_le,
    jobsOf, List.mem_filter]
  simp [hjob, Option.isSome_iff_ne_none]

theorem mem_listedItems_iff {item : BatchItemRow} (hitem : item ∈ batches.items.rows) :
    item ∈ listedItems config scanAt batches ↔ ¬BatchLeftOut config scanAt batches item := by
  rw [listedItems, List.mem_flatMap, BatchLeftOut]
  push Not
  constructor
  · rintro ⟨batchId, hlisted, h⟩
    obtain ⟨-, rfl⟩ := mem_itemsOf.mp h
    obtain ⟨batch, hbatch, hid⟩ := List.mem_map.mp hlisted
    rw [mem_take_ranked_iff nodup_oldestFirst] at hbatch
    exact ⟨batch, hbatch.1, hid, hbatch.2⟩
  · rintro ⟨batch, hbatch, hid, hcount⟩
    refine ⟨item.batchId, List.mem_map.mpr ⟨batch, ?_, hid⟩, mem_itemsOf.mpr ⟨hitem, rfl⟩⟩
    rw [mem_take_ranked_iff nodup_oldestFirst]
    exact ⟨hbatch, hcount⟩

theorem jobEvent_mem_shownEvents {job : JobRow} (hjob : job ∈ jobs.jobs.rows)
    (h : reportJobEvent config scanAt job = some event) :
    event ∈ shownEvents config scanAt jobs batches ↔ job ∈ listedJobs config jobs := by
  rw [shownEvents, List.mem_append, List.mem_filterMap, List.mem_filterMap]
  constructor
  · rintro (⟨other, hother, hevent⟩ | ⟨item, -, hevent⟩)
    · have hid := (reportJobEvent_eq_some h).2.symm.trans (reportJobEvent_eq_some hevent).2
      obtain ⟨status, -, hlisted⟩ := List.mem_flatMap.mp hother
      rwa [List.inj_on_of_nodup_map jobs.jobs.key_nodup hjob (mem_listJobs hlisted).1 hid]
    · have hkind := (reportJobEvent_eq_some h).1.symm.trans (batchItemEvent_eq_some hevent).1
      exact absurd hkind (by decide)
  · exact fun hlisted => Or.inl ⟨job, hlisted, h⟩

theorem itemEvent_mem_shownEvents {item : BatchItemRow} (hitem : item ∈ batches.items.rows)
    (hactive : item.status ∈ activeBatchItemStatuses)
    (h : batchItemEvent config scanAt item = some event) :
    event ∈ shownEvents config scanAt jobs batches ↔ item ∈ listedItems config scanAt batches := by
  rw [shownEvents, List.mem_append, List.mem_filterMap, List.mem_filterMap]
  constructor
  · rintro (⟨job, -, hevent⟩ | ⟨other, hother, hevent⟩)
    · have hkind := (reportJobEvent_eq_some hevent).1.symm.trans (batchItemEvent_eq_some h).1
      exact absurd hkind (by decide)
    · have hid := (batchItemEvent_eq_some h).2.symm.trans (batchItemEvent_eq_some hevent).2
      have hlisted := (List.mem_filter.mp hother).1
      obtain ⟨batchId, -, hrow⟩ := List.mem_flatMap.mp hlisted
      rwa [List.inj_on_of_nodup_map batches.items.key_nodup hitem (mem_itemsOf.mp hrow).1 hid]
  · intro hlisted
    exact Or.inr ⟨item, List.mem_filter.mpr ⟨hlisted, decide_eq_true hactive⟩, h⟩

variable (config scanAt jobs batches)

/-- The scan shows the most urgent work exactly when everything stuck that its pages leave out is
outranked by enough other events. -/
theorem showsMostUrgent_iff_outranked :
    ShowsMostUrgent config scanAt jobs batches ↔
      (∀ job ∈ jobs.jobs.rows, job.status ∈ activeReportJobStatuses → PagedOut config jobs job →
        ∀ event, reportJobEvent config scanAt job = some event →
          Outranked config scanAt jobs batches event) ∧
      ∀ item ∈ batches.items.rows, item.status ∈ activeBatchItemStatuses →
        BatchLeftOut config scanAt batches item →
          ∀ event, batchItemEvent config scanAt item = some event →
            Outranked config scanAt jobs batches event := by
  rw [showsMostUrgent_iff]
  constructor
  · intro h
    refine ⟨fun job hjob hactive hout event hevent => ?_,
      fun item hitem hactive hout event hevent => ?_⟩
    · apply h event
      · refine List.mem_append_left _ (List.mem_filterMap.mpr ⟨job, ?_, hevent⟩)
        exact List.mem_filter.mpr ⟨hjob, decide_eq_true hactive⟩
      · rw [jobEvent_mem_shownEvents hjob hevent, mem_listedJobs_iff hjob hactive, not_not]
        exact hout
    · apply h event
      · refine List.mem_append_right _ (List.mem_filterMap.mpr ⟨item, ?_, hevent⟩)
        exact List.mem_filter.mpr ⟨hitem, decide_eq_true hactive⟩
      · rw [itemEvent_mem_shownEvents hitem hactive hevent, mem_listedItems_iff hitem, not_not]
        exact hout
  · rintro ⟨hjobs, hitems⟩ event hevent hnot
    rcases List.mem_append.mp hevent with hevent | hevent
    · obtain ⟨job, hmem, hevent⟩ := List.mem_filterMap.mp hevent
      obtain ⟨hjob, hactive⟩ := List.mem_filter.mp hmem
      have hactive := of_decide_eq_true hactive
      rw [jobEvent_mem_shownEvents hjob hevent, mem_listedJobs_iff hjob hactive, not_not] at hnot
      exact hjobs job hjob hactive hnot event hevent
    · obtain ⟨item, hmem, hevent⟩ := List.mem_filterMap.mp hevent
      obtain ⟨hitem, hactive⟩ := List.mem_filter.mp hmem
      have hactive := of_decide_eq_true hactive
      rw [itemEvent_mem_shownEvents hitem hactive hevent, mem_listedItems_iff hitem, not_not] at hnot
      exact hitems item hitem hactive hnot event hevent

/-- A job that was accepted an hour before another one. -/
def newerJobLedger : Jobs.Ledger :=
  (Ledger.empty.step sampleDeployment (sampleSubmit none)).step sampleDeployment
    (.ledger (.create (submitPortfolioReviewJob Jobs.sampleCaller (some "key-2")
      ⟨"rrq_2", "rjob_2", "rwork_2", .ok none, 3600000000⟩ sampleRequest)))

/-- A scan of one job of every status. -/
def oneJobScan : AttentionScanConfig := { maxReportJobsPerStatus := 1 }

/-- The newer job fills the page, and the scan reports nothing of the older one. -/
theorem newer_job_hides_stuck_job :
    scan oneJobScan 3600000000 newerJobLedger .empty = .ok ⟨3600000000, 900, 900, 3600, 0, []⟩ ∧
      (allEvents oneJobScan 3600000000 newerJobLedger .empty).map
        (fun event => (event.resourceId, event.severity, event.ageSeconds)) =
          [("rjob_1", .critical, 3600)] ∧
      ¬ShowsMostUrgent oneJobScan 3600000000 newerJobLedger .empty := by
  have hscan : scan oneJobScan 3600000000 newerJobLedger .empty =
      .ok ⟨3600000000, 900, 900, 3600, 0, []⟩ := by decide +kernel
  refine ⟨hscan, by decide +kernel, ?_⟩
  rintro ⟨response, hresponse, hevents⟩
  have hmost : ((ranked urgency (allEvents oneJobScan 3600000000 newerJobLedger .empty)).take
      oneJobScan.maxEvents).length = 1 := by decide +kernel
  cases hscan.symm.trans hresponse
  rw [← hevents] at hmost
  exact absurd hmost (by decide)

end Results

end LotusReport.Operations
