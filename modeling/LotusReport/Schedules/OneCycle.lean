import LotusReport.Batch.Creation
import LotusReport.Encoding.Fields
import LotusReport.Schedules.Scheduler

/-!
# One batch for one business cycle

The key of a stored schedule's cycle is the schedule id with the as-of date, so
the unique key admits one batch. The key of a configured schedule's cycle
contains the resolved portfolios and the options, and the cycle itself is
checked in a call of its own before the creation. Two passes that overlap
between check and creation both create when they resolved different content;
where no creation is overtaken in this way, every cycle has one batch.
-/

namespace LotusReport.Schedules

open Encoding Relational StateMachine Batch

/-- What a batch must be the only one of. -/
inductive CycleIdentity where
  | stored (scheduleId asOfDate : String)
  | configured (cycle : ScheduleCycle)
deriving DecidableEq

/-- The identity of a scheduled batch: the schedule and the as-of date for a stored schedule, the
whole cycle for a configured one. -/
def ScheduledBatch.identity (b : ScheduledBatch) : CycleIdentity :=
  match b.origin with
  | .stored => .stored b.cycle.scheduleId b.cycle.asOfDate
  | .configured => .configured b.cycle

/-- Every cycle has at most one batch. -/
def OneBatchPerCycle (s : SchedulerState) : Prop := (s.scheduled.map (·.identity)).Nodup

instance (s : SchedulerState) : Decidable (OneBatchPerCycle s) :=
  inferInstanceAs (Decidable (List.Nodup _))

/-- A creation for a configured schedule is not overtaken: its cycle has no batch yet, or its key
is taken already. -/
def NotOvertaken (s : SchedulerState) : SchedulerCall → Prop
  | .createBatch .configured cycle _ _ idempotencyKey _ _ _ =>
      hasBatchForScheduleCycle s.ledger cycle = false ∨
        (s.ledger.batches.lookup? (strip idempotencyKey)).isSome = true
  | _ => True

section Requests

variable {py : Runtime} {schedule : BatchScheduleDefinition} {cycle : BatchCycle}

theorem optionIs_batchOptions :
    optionIs (Json.canonical (.obj (batchOptions py schedule cycle))) "batch_schedule_id"
        schedule.scheduleId = true ∧
      optionIs (Json.canonical (.obj (batchOptions py schedule cycle))) "batch_period_start"
        cycle.periodStart.isoformat = true ∧
      optionIs (Json.canonical (.obj (batchOptions py schedule cycle))) "batch_period_end"
        cycle.periodEnd.isoformat = true := by
  have hlookup : ∀ {fields : Fields} {name text : String},
      Json.lookup fields name = some (.str text) →
      optionIs (Json.canonical (.obj fields)) name text = true := by
    intro fields name text h
    simp [optionIs, Json.canonical, lookup_sortFields, lookup_canonicalFields, h]
  refine ⟨hlookup ?_, hlookup ?_, hlookup ?_⟩ <;>
    (unfold batchOptions
     simp only
     split <;> simp [lookup_assign_of_ne, lookup_assign_self])

/-- The call names the cycle of the request, and the key of a stored schedule is content-free. -/
structure Faithful (py : Runtime) (origin : ScheduleOrigin) (cycle : ScheduleCycle)
    (request : BatchCreateRequest) (callerContext : ReportCallerContext)
    (idempotencyKey : String) : Prop where
  tenantId : cycle.tenantId = callerContext.tenantId
  region : cycle.region = callerContext.region
  asOfDate : cycle.asOfDate = request.asOfDate
  scheduleId : optionIs (Json.canonical (.obj request.options)) "batch_schedule_id"
    cycle.scheduleId = true
  periodStart : optionIs (Json.canonical (.obj request.options)) "batch_period_start"
    cycle.periodStart = true
  periodEnd : optionIs (Json.canonical (.obj request.options)) "batch_period_end"
    cycle.periodEnd = true
  storedKey : origin = .stored → idempotencyKey = "scheduled-batch-" ++ stableShortHash py 32
    (.obj [("schedule_id", .str cycle.scheduleId), ("as_of_date", .str cycle.asOfDate)])

theorem faithful_createCycle {origin : ScheduleOrigin} {callerContext : ReportCallerContext}
    {candidates : List PortfolioBatchCandidate}
    (horigin : origin = .stored → schedule.stableCycleIdentity = true) :
    Faithful py origin (scheduleCycle callerContext schedule cycle)
      (cycleRequest py schedule cycle candidates) callerContext
      (cycleKey py callerContext schedule cycle candidates) where
  tenantId := rfl
  region := rfl
  asOfDate := rfl
  scheduleId := optionIs_batchOptions.1
  periodStart := optionIs_batchOptions.2.1
  periodEnd := optionIs_batchOptions.2.2
  storedKey h := by
    rw [cycleKey, if_pos (horigin h)]
    rfl

end Requests

section Ledger

variable {py : Runtime} {s : SchedulerState}

/-- The row of a scheduled batch. -/
structure RowOf (py : Runtime) (c : ScheduledBatch) (b : BatchRow) : Prop where
  batchId : b.batchId = c.batchId
  recognised : c.cycle.recognises b = true
  storedKey : c.origin = .stored → b.idempotencyKey = strip ("scheduled-batch-" ++
    stableShortHash py 32
      (.obj [("schedule_id", .str c.cycle.scheduleId), ("as_of_date", .str c.cycle.asOfDate)]))

/-- Every scheduled batch is in the ledger, and every cycle has one. -/
structure Accounted (py : Runtime) (s : SchedulerState) : Prop where
  recorded : ∀ c ∈ s.scheduled, ∃ b ∈ s.ledger.batches.rows, RowOf py c b
  unique : OneBatchPerCycle s

theorem RowOf.continues {c : ScheduledBatch} {b b' : BatchRow} (h : RowOf py c b)
    (hb : b.Continues b') : RowOf py c b' := by
  refine ⟨?_, ?_, ?_⟩
  · rw [hb]
    exact h.batchId
  · rw [hb]
    exact h.recognised
  · rw [hb]
    exact h.storedKey

theorem rowOf_newBatch {origin : ScheduleOrigin} {cycle : ScheduleCycle}
    {request : BatchCreateRequest} {callerContext : ReportCallerContext}
    {idempotencyKey batchId : String} {now : Instant} {materialized : List MaterializedPortfolio}
    (h : Faithful py origin cycle request callerContext idempotencyKey) :
    RowOf py ⟨origin, cycle, batchId⟩
      (newBatch py request callerContext (strip idempotencyKey) batchId now materialized) := by
  refine ⟨rfl, ?_, fun horigin => ?_⟩
  · simp [ScheduleCycle.recognises, newBatch, h.tenantId, h.region, h.asOfDate, h.scheduleId,
      h.periodStart, h.periodEnd]
  · rw [← h.storedKey horigin]
    rfl

/-- A faithful creation that is not overtaken finds no batch of its cycle where it inserts. -/
theorem identity_fresh (hs : Accounted py s) {origin : ScheduleOrigin} {cycle : ScheduleCycle}
    {request : BatchCreateRequest} {callerContext : ReportCallerContext}
    {idempotencyKey batchId : String} {itemId : Nat → String} {now : Instant}
    (hfaithful : Faithful py origin cycle request callerContext idempotencyKey)
    (hallowed : NotOvertaken s (.createBatch origin cycle request callerContext idempotencyKey
      batchId itemId now))
    (hfree : s.ledger.batches.lookup? (strip idempotencyKey) = none) (id : String) :
    (⟨origin, cycle, id⟩ : ScheduledBatch).identity ∉ s.scheduled.map (·.identity) := by
  intro hmem
  obtain ⟨c, hc, hidentity⟩ := List.mem_map.mp hmem
  obtain ⟨b, hb, hrow⟩ := hs.recorded c hc
  cases origin with
  | stored =>
      -- the same schedule and date give the same key, which is free
      cases horigin : c.origin with
      | configured => simp [ScheduledBatch.identity, horigin] at hidentity
      | stored =>
          simp only [ScheduledBatch.identity, horigin, CycleIdentity.stored.injEq] at hidentity
          have hkey : b.idempotencyKey = strip idempotencyKey := by
            rw [hrow.storedKey horigin, hidentity.1, hidentity.2, ← hfaithful.storedKey rfl]
          exact (Table.lookup?_eq_none_iff _ _).mp hfree b hb hkey
  | configured =>
      cases horigin : c.origin with
      | stored => simp [ScheduledBatch.identity, horigin] at hidentity
      | configured =>
          simp only [ScheduledBatch.identity, horigin, CycleIdentity.configured.injEq] at hidentity
          rcases hallowed with hnone | htaken
          · have hrecognised : cycle.recognises b = true := hidentity ▸ hrow.recognised
            exact absurd hrecognised (by simpa using List.any_eq_false.mp hnone b hb)
          · rw [hfree] at htaken
            cases htaken

/-- The discipline of the scheduler: one batch for one cycle, while no creation is overtaken. -/
def cycles (py : Runtime) : Discipline SchedulerState SchedulerCall where
  Inv := Accounted py
  Later _ _ := True
  Allowed := NotOvertaken
  refl _ := trivial
  trans _ _ := trivial

theorem Accounted.createBatch (hs : Accounted py s) {origin : ScheduleOrigin}
    {cycle : ScheduleCycle} {request : BatchCreateRequest} {callerContext : ReportCallerContext}
    {idempotencyKey batchId : String} {itemId : Nat → String} {now : Instant}
    (hfaithful : Faithful py origin cycle request callerContext idempotencyKey)
    (hallowed : NotOvertaken s (.createBatch origin cycle request callerContext idempotencyKey
      batchId itemId now)) :
    Accounted py (s.perform py (.createBatch origin cycle request callerContext idempotencyKey
      batchId itemId now)).1 := by
  simp only [SchedulerState.perform]
  cases hcreate : s.ledger.createBatch py request callerContext (some idempotencyKey) batchId itemId
      now with
  | error e => exact hs
  | ok result =>
      obtain ⟨record, ledger⟩ := result
      rcases createBatch_cases hcreate with ⟨hheld, rfl⟩ | ⟨materialized, hrecord, hfree, hfresh,
        hrows⟩
      · have hknown := Table.find?_key (Table.mem_of_lookup? hheld)
        simp only [hknown, Option.isNone_some]
        exact ⟨hs.recorded, hs.unique⟩
      · have hid : record.batch.batchId = batchId := by rw [hrecord]; rfl
        have hnew : RowOf py ⟨origin, cycle, record.batch.batchId⟩ record.batch := by
          rw [hid, hrecord]
          exact rowOf_newBatch hfaithful
        simp only [hid, hfresh, Option.isNone_none, if_true]
        refine ⟨fun c hc => ?_, ?_⟩
        · simp only [hrows]
          rcases List.mem_append.mp hc with hc | hc
          · obtain ⟨b, hb, hrow⟩ := hs.recorded c hc
            exact ⟨b, List.mem_append_left _ hb, hrow⟩
          · rw [List.mem_singleton.mp hc, ← hid]
            exact ⟨record.batch, List.mem_append_right _ List.mem_cons_self, hnew⟩
        · have hnot := identity_fresh hs hfaithful hallowed hfree batchId
          simp only [OneBatchPerCycle, List.map_append, List.map_cons, List.map_nil]
          exact List.Nodup.append hs.unique (List.nodup_singleton _)
            fun x hx hx' => hnot (List.mem_singleton.mp hx' ▸ hx)

/-- Calls of other components leave the scheduled batches in the ledger. -/
theorem Accounted.ledger (hs : Accounted py s) (call : BatchCall) :
    Accounted py { s with ledger := Batch.step py s.ledger call } := by
  refine ⟨fun c hc => ?_, hs.unique⟩
  obtain ⟨b, hb, hrow⟩ := hs.recorded c hc
  obtain ⟨b', hb', hcontinues⟩ := step_batch py call hb
  exact ⟨b', hb', hrow.continues hcontinues⟩

end Ledger

section Programs

variable {py : Runtime} {s : SchedulerState} {pass : SchedulerPass}

theorem safe_resolveCandidates (schedule : BatchScheduleDefinition)
    (entries : List BatchScheduleManifestEntry) :
    (cycles py).Safe (SchedulerState.perform py) (fun _ _ => True)
      (resolveCandidates py pass schedule entries) s := by
  induction entries generalizing s with
  | nil => exact Discipline.safe_end
  | cons entry entries ih =>
      refine Discipline.safe_read (fun _ => rfl) fun t _ ht => ?_
      exact ih.bind ht fun _ _ _ _ _ => Discipline.safe_end

theorem safe_createCycle (position : Nat) {origin : ScheduleOrigin}
    {schedule : BatchScheduleDefinition} (cycle : BatchCycle)
    (candidates : List PortfolioBatchCandidate)
    (horigin : origin = .stored → schedule.stableCycleIdentity = true) :
    (cycles py).Safe (SchedulerState.perform py) (fun _ _ => True)
      (createCycle py pass position origin schedule cycle candidates) s := by
  intro t _ ht hallowed
  exact ⟨ht.createBatch (faithful_createCycle horigin) hallowed, trivial,
    Discipline.safe_end⟩

theorem safe_runSchedule (position : Nat) {origin : ScheduleOrigin}
    {schedule : BatchScheduleDefinition}
    (horigin : origin = .stored → schedule.stableCycleIdentity = true) (hs : Accounted py s) :
    (cycles py).Safe (SchedulerState.perform py) (fun _ _ => True)
      (runSchedule py pass position origin schedule) s := by
  unfold runSchedule
  split
  · exact Discipline.safe_end
  · refine (safe_resolveCandidates schedule _).bind hs fun candidates t _ _ _ => ?_
    split
    · exact Discipline.safe_end
    · split
      · exact Discipline.safe_end
      · split
        · exact Discipline.safe_end
        · split
          · exact Discipline.safe_end
          · split
            · exact safe_createCycle position _ candidates horigin
            · refine Discipline.safe_read (fun _ => rfl) fun u _ _ => ?_
              split
              · exact Discipline.safe_end
              · exact safe_createCycle position _ candidates horigin

theorem safe_runSchedules {schedules : List (ScheduleOrigin × BatchScheduleDefinition)}
    (horigin : ∀ d ∈ schedules, d.1 = .stored → d.2.stableCycleIdentity = true)
    (position : Nat) (result : BatchSchedulerRunResult) (hs : Accounted py s) :
    (cycles py).Safe (SchedulerState.perform py) (fun _ _ => True)
      (runSchedules py pass position schedules result) s := by
  induction schedules generalizing position result s with
  | nil => exact Discipline.safe_end
  | cons d schedules ih =>
      obtain ⟨origin, schedule⟩ := d
      refine (safe_runSchedule position (horigin _ List.mem_cons_self) hs).bind hs
        fun outcome t _ ht _ => ?_
      split
      · exact ih (fun d hd => horigin d (List.mem_cons_of_mem _ hd)) _ _ ht
      · exact Discipline.safe_end

theorem safe_runDueSchedules :
    (cycles py).Safe (SchedulerState.perform py) (fun _ _ => True) (runDueSchedules py pass) s := by
  unfold runDueSchedules
  split
  · exact Discipline.safe_end
  · refine Discipline.safe_read (fun _ => rfl) fun t _ ht => safe_runSchedules ?_ _ _ ht
    intro d hd hstored
    rcases List.mem_append.mp hd with hd | hd
    · obtain ⟨schedule, -, rfl⟩ := List.mem_map.mp hd
      cases hstored
    · obtain ⟨schedule, hschedule, rfl⟩ := List.mem_map.mp hd
      obtain ⟨owed, -, rfl⟩ := List.mem_map.mp hschedule
      rfl

theorem safe_activity (activity : SchedulerActivity) (hs : Accounted py s) :
    (cycles py).Safe (SchedulerState.perform py) (fun _ _ => True) (activity.program py) s := by
  cases activity with
  | pass p =>
      exact safe_runDueSchedules.bind hs fun _ _ _ _ _ =>
        Discipline.safe_end
  | ledger call =>
      intro t _ ht _
      exact ⟨ht.ledger call, trivial, Discipline.safe_end⟩
  | changeSchedules due =>
      intro t _ ht _
      exact ⟨⟨ht.recorded, ht.unique⟩, trivial, Discipline.safe_end⟩
  | changePortfolios portfolios =>
      intro t _ ht _
      exact ⟨⟨ht.recorded, ht.unique⟩, trivial, Discipline.safe_end⟩

/-- Along every run in which no creation for a configured schedule is overtaken, every cycle has
at most one batch, and the scheduled batches are in the ledger. -/
theorem one_batch_per_cycle {events : List (Event SchedulerActivity)}
    (h : Along (schedulerStep py) (fun c e => c.Permitted NotOvertaken e) .empty events) :
    ∀ before after, events = before ++ after →
      OneBatchPerCycle (run (schedulerStep py) .empty before).store ∧
        ∀ c ∈ (run (schedulerStep py) .empty before).store.scheduled,
          ∃ b ∈ (run (schedulerStep py) .empty before).store.ledger.batches.rows,
            b.batchId = c.batchId ∧ c.cycle.recognises b = true := by
  rintro before after rfl
  have hinit : Accounted py SchedulerSystem.empty.store :=
    ⟨fun c hc => absurd hc List.not_mem_nil, List.nodup_nil⟩
  have hgoverned : (cycles py).Governs (SchedulerState.perform py)
      (run (schedulerStep py) SchedulerSystem.empty before) :=
    ((Discipline.governs_initial hinit).run (fun activity _ _ hs => safe_activity activity hs)
      (along_append.mp h).1).1
  refine ⟨hgoverned.inv.unique, fun c hc => ?_⟩
  obtain ⟨b, hb, hrow⟩ := hgoverned.inv.recorded c hc
  exact ⟨b, hb, hrow.batchId, hrow.recognised⟩

end Programs

section Sample

/-- A configured monthly schedule of the portfolios `P1` and `P2`. -/
def sampleSchedule : BatchScheduleDefinition where
  scheduleId := "monthly-sg"
  frequency := .monthly
  asOfDate := ⟨2026, 4, 30⟩
  portfolioIds := ["P1", "P2"]

/-- The payloads that the passes below hash to short identities. -/
def samplePayloads : List Json :=
  let cycle : BatchCycle :=
    ⟨.monthly, ⟨2026, 4, 1⟩, ⟨2026, 4, 30⟩, ⟨2026, 4, 30⟩, "monthly:2026-04-01:2026-04-30:0"⟩
  [ cyclePayload .monthly ⟨2026, 4, 1⟩ ⟨2026, 4, 30⟩ ⟨2026, 4, 30⟩,
    selectorPayload .verbatim sampleSchedule ["P1", "P2"],
    selectorPayload .verbatim sampleSchedule ["P1"],
    scheduledBatchPayload sampleCaller .explicitPortfolioList cycle "1",
    scheduledBatchPayload sampleCaller .explicitPortfolioList cycle "2" ]

/-- A platform whose digest numbers these payloads and leaves other texts as they are. -/
def samplePlatform : Runtime where
  sha256 text :=
    match samplePayloads.findIdx? fun payload => decide (payload.canonicalJson = text) with
    | some n => toString n
    | none => text
  isPrintable _ := true

/-- A pass over the schedule. -/
def samplePass (batchId : String) : SchedulerPass where
  config :=
    { schedulerId := "scheduler-1"
      tenantId := "tenant-sg"
      region := "APAC"
      bookingCenterCode := none
      schedules := [sampleSchedule] }
  callerContext := sampleCaller
  batchId _ := batchId
  itemId _ n := batchId ++ "_" ++ toString n
  now _ := 0

/-- A source that knows some portfolios of tenant `tenant-sg`. -/
def samplePortfolios (known : List String) (portfolioId _admittedTenantId : String) :
    PortfolioAnswer :=
  if portfolioId ∈ known then
    (200, [("portfolio_id", .str portfolioId), ("tenant_id", .str "tenant-sg"),
      ("status", .str "ACTIVE")])
  else (404, [])

/-- One pass after the other, with a portfolio gone in between. -/
def passesInTurn : List (Event SchedulerActivity) :=
  [ .start (.changePortfolios (samplePortfolios ["P1", "P2"])), .advance 0,
    .start (.pass (samplePass "rbch_1")),
    .advance 1, .advance 1, .advance 1, .advance 1, .advance 1,
    .start (.changePortfolios (samplePortfolios ["P1"])), .advance 2,
    .start (.pass (samplePass "rbch_2")),
    .advance 3, .advance 3, .advance 3, .advance 3, .advance 3 ]

/-- The same passes, each past its check before the other creates. -/
def passesOverlapping : List (Event SchedulerActivity) :=
  [ .start (.changePortfolios (samplePortfolios ["P1", "P2"])), .advance 0,
    .start (.pass (samplePass "rbch_1")),
    .advance 1, .advance 1, .advance 1, .advance 1,
    .start (.changePortfolios (samplePortfolios ["P1"])), .advance 2,
    .start (.pass (samplePass "rbch_2")),
    .advance 3, .advance 3, .advance 3, .advance 3,
    .advance 1, .advance 3 ]

instance (s : SchedulerState) : (call : SchedulerCall) → Decidable (NotOvertaken s call)
  | .createBatch .configured cycle _ _ idempotencyKey _ _ _ =>
      inferInstanceAs (Decidable (hasBatchForScheduleCycle s.ledger cycle = false ∨
        (s.ledger.batches.lookup? (strip idempotencyKey)).isSome = true))
  | .createBatch .stored _ _ _ _ _ _ _ => isTrue trivial
  | .dueDefinitionsForScheduler _ _ _ => isTrue trivial
  | .getPortfolioDetail _ _ => isTrue trivial
  | .hasBatchForScheduleCycle _ => isTrue trivial
  | .ledger _ => isTrue trivial
  | .changeSchedules _ => isTrue trivial
  | .changePortfolios _ => isTrue trivial

theorem scheduled_passesInTurn :
    (run (schedulerStep samplePlatform) .empty passesInTurn).store.scheduled.map (·.batchId) =
      ["rbch_1"] := by
  decide +kernel

theorem notOvertaken_passesInTurn :
    Along (schedulerStep samplePlatform) (fun c e => c.Permitted NotOvertaken e) .empty
      passesInTurn := by
  decide +kernel

theorem one_batch_per_cycle_in_turn :
    (run (schedulerStep samplePlatform) .empty passesInTurn).store.scheduled.map (·.batchId) =
        ["rbch_1"] ∧
      ∀ before after, passesInTurn = before ++ after →
        OneBatchPerCycle (run (schedulerStep samplePlatform) .empty before).store ∧
          ∀ c ∈ (run (schedulerStep samplePlatform) .empty before).store.scheduled,
            ∃ b ∈ (run (schedulerStep samplePlatform) .empty before).store.ledger.batches.rows,
              b.batchId = c.batchId ∧ c.cycle.recognises b = true :=
  ⟨scheduled_passesInTurn, one_batch_per_cycle notOvertaken_passesInTurn⟩

/-- Two overlapping passes that resolve different portfolios create two batches of one cycle. -/
theorem not_oneBatchPerCycle_overlapping :
    ¬ OneBatchPerCycle (run (schedulerStep samplePlatform) .empty passesOverlapping).store := by
  decide +kernel

end Sample

end LotusReport.Schedules
