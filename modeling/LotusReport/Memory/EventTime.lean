import LotusReport.Jobs.Produced
import LotusReport.Memory.PortfolioMemoryEvents
import LotusReport.Snapshots.WriteOnce

/-!
# Events are fixed at event time

The job ledger and the snapshot store develop side by side, and a read builds
the memory events of a job from both. What an event presents of the render and
of the archived document is fixed in every run. What it cites of the snapshot
is fixed exactly when no snapshot is stored for a job that already has an event
to which a later read would attribute the snapshot.
-/

namespace LotusReport.Memory

open Encoding Fallible Relational StateMachine Jobs Snapshots SnapshotStore

section System

/-- The job ledger, and the snapshot store with the calls under way on it. -/
structure MemoryState where
  jobs : Jobs.Ledger
  captures : SnapshotSystem

/-- Empty stores. -/
def MemoryState.empty : MemoryState := ⟨.empty, System.initial .empty⟩

/-- A call on the job ledger, or a step of a call on the snapshot store. -/
inductive MemoryStep where
  | jobs (call : Jobs.Call)
  | captures (event : Event StoreCall)

/-- One step. -/
def MemoryState.step (d : Deployment) (s : MemoryState) : MemoryStep → MemoryState
  | .jobs call => { s with jobs := s.jobs.step d call }
  | .captures event => { s with captures := systemStep d.toRuntime s.captures event }

/-- `get_snapshot_by_job`. -/
def MemoryState.snapshot (s : MemoryState) (jobId : String) : Option SnapshotRow :=
  s.captures.store.snapshots.lookup? jobId

/-- The identifiers that are generated for the events of a job, in the order of their insertion. -/
structure EventIds where
  id : String → Nat → String
  distinct : ∀ jobId, Function.Injective (id jobId)

/-- `ORDER BY created_at ASC, status_event_id ASC`. -/
def listedBefore (a b : StatusEvent) : Bool :=
  a.row.createdAt.lt b.row.createdAt ||
    (a.row.createdAt == b.row.createdAt && decide (a.statusEventId ≤ b.statusEventId))

/-- `list_status_events`. -/
def listStatusEvents (ids : EventIds) (f : JobFile) : List StatusEvent :=
  (f.events.mapIdx fun n row => ⟨ids.id f.job.reportJobId n, row⟩).insertionSort
    fun a b => listedBefore a b = true

/-- The read of the portfolio-memory events of a job. -/
def MemoryState.read (d : Deployment) (ids : EventIds) (s : MemoryState) (jobId : String)
    (readAt : Instant) : Option MemoryEventsResponse :=
  (s.jobs.file? jobId).map fun record =>
    buildReportPortfolioMemoryEvents d.toRuntime record (s.snapshot jobId)
      (listStatusEvents ids record) readAt

end System

section Statement

/-- The events agree in what identifies them and in what they cite. -/
structure SameEvent (e e' : MemoryEvent) : Prop where
  eventId : e'.eventId = e.eventId
  eventIdentity : e'.eventIdentity = e.eventIdentity
  contentHash : e'.contentHash = e.contentHash
  sourceRefs : e'.sourceRefs = e.sourceRefs
  artifactRefs : e'.artifactRefs = e.artifactRefs

/-- The event cites the snapshot, the artifact and the document that a state has of the job. -/
structure CitesFrom (s : MemoryState) (jobId : String) (e : MemoryEvent) : Prop where
  snapshot : ∀ ref ∈ e.sourceRefs, ref.sourceType = "REPORT_INPUT_SNAPSHOT" →
    ∃ row, s.snapshot jobId = some row ∧ row.snapshotId = ref.sourceId
  artifact : ∀ ref ∈ e.artifactRefs, ref.artifactType = "RENDERED_REPORT_ARTIFACT" →
    ∃ f, s.jobs.file? jobId = some f ∧ f.job.render.jobId = some ref.artifactId
  document : ∀ ref ∈ e.artifactRefs, ref.artifactType = "ARCHIVED_REPORT_DOCUMENT" →
    ∃ f, s.jobs.file? jobId = some f ∧ f.job.archiveDocumentId = some ref.artifactId

/-- The events that a read returns in the first state are returned in the second one as they were,
and there they cite what existed in the first. -/
structure FixedBetween (d : Deployment) (ids : EventIds) (s t : MemoryState) : Prop where
  same : ∀ jobId readAt readAt' r, s.read d ids jobId readAt = some r →
    ∃ r', t.read d ids jobId readAt' = some r' ∧ ∀ e ∈ r.events, ∃ e' ∈ r'.events, SameEvent e e'
  existing : ∀ jobId readAt readAt' r r', s.read d ids jobId readAt = some r →
    t.read d ids jobId readAt' = some r' → ∀ e ∈ r.events, ∀ e' ∈ r'.events,
      e'.eventId = e.eventId → CitesFrom s jobId e'

/-- Events are fixed between any two states of the run. -/
def EventsFixed (d : Deployment) (ids : EventIds) (steps : List MemoryStep) : Prop :=
  ∀ before middle after, steps = before ++ middle ++ after →
    FixedBetween d ids (run (MemoryState.step d) .empty before)
      (run (MemoryState.step d) .empty (before ++ middle))

/-- A snapshot that the step stores is dated after every event that its job already has, and none of
these events records a status of a job with a snapshot. -/
def CapturesInTime (d : Deployment) (s : MemoryState) : MemoryStep → Prop
  | .jobs _ => True
  | .captures event => ∀ row ∈ (systemStep d.toRuntime s.captures event).store.snapshots.rows,
      s.snapshot row.reportJobId = none → ∀ x ∈ s.jobs.eventsOf row.reportJobId,
        x.createdAt.instant < row.createdAt.instant ∧ x.toStatus ∉ snapshotBearingStatuses

end Statement

section Evidence

variable {s t u : SnapshotStore}

/-- The evidence of every snapshot is kept. -/
def EvidenceKept (s t : SnapshotStore) : Prop :=
  ∀ row ∈ s.snapshots.rows, ∃ row' ∈ t.snapshots.rows, SameEvidence row row'

theorem EvidenceKept.refl (s : SnapshotStore) : EvidenceKept s s := fun row hrow => ⟨row, hrow, rfl⟩

theorem EvidenceKept.trans (h : EvidenceKept s t) (h' : EvidenceKept t u) : EvidenceKept s u := by
  intro row hrow
  obtain ⟨row', hrow', hsame⟩ := h row hrow
  obtain ⟨row'', hrow'', hsame'⟩ := h' row' hrow'
  exact ⟨row'', hrow'', hsame.trans hsame'⟩

theorem getOrCreateUpstreamCalls_evidence {snapshotId : String}
    {calls : List ReportUpstreamCallCreateRequest} {stamp : Stamp} {rows : List UpstreamCallRow}
    (h : s.getOrCreateUpstreamCalls snapshotId calls stamp = .ok (rows, t)) : EvidenceKept s t := by
  rcases getOrCreateUpstreamCalls_eq_ok h with rfl | ⟨-, hwrites⟩
  · exact .refl _
  · exact hwrites.evidence

theorem body_evidence {body : Snapshots.Transaction} {captured : Captured}
    (h : body.body s = .ok (captured, t)) : EvidenceKept s t := by
  cases body with
  | createSnapshot row =>
      obtain ⟨s₁, hinsert, hlast⟩ := bind_eq_ok.mp h
      cases hlast
      exact (insertSnapshot_writesOnly hinsert "").evidence
  | createCapture row request calls stamp =>
      obtain ⟨s₁, hinsert, hcaptured⟩ := bind_eq_ok.mp h
      obtain ⟨⟨row', s₂⟩, hcomplete, hcompleted⟩ := bind_eq_ok.mp hcaptured
      obtain ⟨⟨rows, s₃⟩, hcreate, hlast⟩ := bind_eq_ok.mp hcompleted
      cases hlast
      have hinserted : EvidenceKept s s₁ := (insertSnapshot_writesOnly hinsert "").evidence
      have hrepaired : EvidenceKept s₁ s₂ := by
        rcases (completeCapture_eq_ok hcomplete).2 with rfl | ⟨-, hwrites⟩
        · exact .refl _
        · exact hwrites.evidence
      exact (hinserted.trans hrepaired).trans (getOrCreateUpstreamCalls_evidence hcreate)
  | repairLineage snapshotId request calls stamp =>
      obtain ⟨⟨row, s₁⟩, hrepair, hrepaired⟩ := bind_eq_ok.mp h
      obtain ⟨⟨rows, s₂⟩, hcreate, hlast⟩ := bind_eq_ok.mp hrepaired
      cases hlast
      obtain ⟨-, rfl⟩ := repairSnapshotLineageMetadata_eq_ok hrepair
      have hwritten : EvidenceKept s (s.updateLineage snapshotId request.lineage) :=
        (updateLineage_writesOnly s snapshotId request.lineage).evidence
      exact hwritten.trans (getOrCreateUpstreamCalls_evidence hcreate)
  | recordCalls snapshot snapshotId calls stamp =>
      obtain ⟨s₁, hinsert, hlast⟩ := bind_eq_ok.mp h
      cases hlast
      exact (insertUpstreamCalls_writesOnly hinsert).evidence

theorem systemStep_evidence (py : Runtime) (c : SnapshotSystem) (event : Event StoreCall) :
    EvidenceKept c.store (systemStep py c event).store := by
  cases event with
  | start call => exact .refl _
  | advance n =>
      simp only [systemStep, System.step]
      split
      · rename_i op next hn
        cases op with
        | selectByJob | selectById | listUpstreamCalls => exact .refl _
        | transaction body =>
            simp only [perform]
            split
            · rename_i captured t hbody
              exact body_evidence hbody
            · exact .refl _
      · exact .refl _

end Evidence

section Later

variable {d : Deployment} {s t u : MemoryState} {jobId : String}

/-- The rows of every job are linked and presented. -/
structure Sound (s : MemoryState) : Prop where
  linked : s.jobs.Linked
  presented : ∀ jobId f, s.jobs.file? jobId = some f → Presented f

/-- What a read of the first state presents is still there in the second: the jobs with what they
have produced, the snapshots, and no new snapshot for an old event. -/
structure Later (s t : MemoryState) : Prop where
  file : ∀ jobId f, s.jobs.file? jobId = some f →
    ∃ f', t.jobs.file? jobId = some f' ∧ SameProduced f f'
  kept : ∀ jobId row, s.snapshot jobId = some row →
    ∃ row', t.snapshot jobId = some row' ∧ SameEvidence row row'
  inTime : ∀ jobId f row, s.jobs.file? jobId = some f → s.snapshot jobId = none →
    t.snapshot jobId = some row → ∀ x ∈ f.events, snapshotExistedAt x row = false

theorem snapshotExistedAt_eq_false {row : SnapshotRow} {x : EventRow} :
    snapshotExistedAt x row = false ↔
      x.createdAt.instant < row.createdAt.instant ∧ x.toStatus ∉ snapshotBearingStatuses := by
  simp [snapshotExistedAt]

theorem snapshotExistedAt_congr {row row' : SnapshotRow} (h : SameEvidence row row') (x : EventRow) :
    snapshotExistedAt x row' = snapshotExistedAt x row := by
  rw [h]
  rfl

theorem Later.refl (s : MemoryState) : Later s s := by
  constructor
  · exact fun jobId f hf => ⟨f, hf, .refl f⟩
  · exact fun jobId row hrow => ⟨row, hrow, rfl⟩
  · intro jobId f row _ hnone hsome
    rw [hnone] at hsome
    cases hsome

theorem Later.trans (h : Later s t) (h' : Later t u) : Later s u := by
  constructor
  · intro jobId f hf
    obtain ⟨f', hf', hsame⟩ := h.file jobId f hf
    obtain ⟨f'', hf'', hsame'⟩ := h'.file jobId f' hf'
    exact ⟨f'', hf'', hsame.trans hsame'⟩
  · intro jobId row hrow
    obtain ⟨row', hrow', hsame⟩ := h.kept jobId row hrow
    obtain ⟨row'', hrow'', hsame'⟩ := h'.kept jobId row' hrow'
    exact ⟨row'', hrow'', hsame.trans hsame'⟩
  · intro jobId f row hf hnone hsome x hx
    cases hmiddle : t.snapshot jobId with
    | none =>
        obtain ⟨f', hf', hsame⟩ := h.file jobId f hf
        exact h'.inTime jobId f' row hf' hmiddle hsome x (hsame.events.subset hx)
    | some row₀ =>
        obtain ⟨row', hrow', hsame⟩ := h'.kept jobId row₀ hmiddle
        rw [hsome] at hrow'
        cases hrow'
        rw [snapshotExistedAt_congr hsame]
        exact h.inTime jobId f row₀ hf hnone hmiddle x hx

theorem Sound.step (hs : Sound s) (step : MemoryStep) : Sound (s.step d step) := by
  cases step with
  | captures event => exact ⟨hs.linked, hs.presented⟩
  | jobs call =>
      refine ⟨Ledger.linked_step d s.jobs call hs.linked, ?_⟩
      intro jobId f' hf'
      rcases Ledger.file_of_step hs.linked call hf' with ⟨f, hf, hrun⟩ | ⟨-, hopened⟩
      · exact (hrun.sameProduced (hs.presented jobId f hf)).1
      · exact presented_of_opened hopened

theorem Sound.file_of_event (hs : Sound s) {x : EventRow} (hx : x ∈ s.jobs.eventsOf jobId) :
    ∃ f, s.jobs.file? jobId = some f := by
  obtain ⟨hevent, howner⟩ := List.mem_filter.mp hx
  obtain ⟨job, hjob⟩ := hs.linked.event x hevent
  rw [eq_of_beq howner] at hjob
  obtain ⟨request, hrequest⟩ := hs.linked.request job (Table.mem_of_find? hjob)
  exact ⟨⟨request, job, s.jobs.workItems.lookup? jobId, s.jobs.eventsOf jobId⟩,
    Ledger.file?_eq_some_iff.mpr ⟨hjob, hrequest, rfl, rfl⟩⟩

/-- A step leaves what a read presents, if the snapshot that it may store comes in time. -/
theorem Sound.later_step (hs : Sound s) {step : MemoryStep} (hstep : CapturesInTime d s step) :
    Later s (s.step d step) := by
  cases step with
  | jobs call =>
      constructor
      · intro jobId f hf
        obtain ⟨f', hf', hrun⟩ := Ledger.step_file (d := d) hs.linked call hf
        exact ⟨f', hf', (hrun.sameProduced (hs.presented jobId f hf)).2⟩
      · exact fun jobId row hrow => ⟨row, hrow, rfl⟩
      · intro jobId f row _ hnone hsome
        rw [show (s.step d (.jobs call)).snapshot jobId = s.snapshot jobId from rfl, hnone] at hsome
        cases hsome
  | captures event =>
      constructor
      · exact fun jobId f hf => ⟨f, hf, .refl f⟩
      · intro jobId row hrow
        obtain ⟨row', hrow', hsame⟩ := systemStep_evidence d.toRuntime s.captures event row
          (Table.mem_of_lookup? hrow)
        refine ⟨row', ?_, hsame⟩
        have hown : row.reportJobId = jobId := Table.index_of_lookup? hrow
        have hjob : row'.reportJobId = jobId := by
          rw [hsame]
          exact hown
        rw [← hjob]
        exact Table.lookup?_index hrow'
      · intro jobId f row hf hnone hsome x hx
        have hjob := Table.index_of_lookup? hsome
        subst hjob
        rw [(Ledger.file?_eq_some_iff.mp hf).2.2.2] at hx
        exact snapshotExistedAt_eq_false.mpr (hstep row (Table.mem_of_lookup? hsome) hnone x hx)

theorem sound_empty : Sound .empty := by
  refine ⟨Ledger.linked_empty, ?_⟩
  intro jobId f hf
  cases hf

theorem sound_run (d : Deployment) (steps : List MemoryStep) :
    Sound (run (MemoryState.step d) .empty steps) :=
  run_induction (fun _ step hs => hs.step step) sound_empty steps

/-- Along a run whose captures come in time a read goes on presenting what it presented. -/
theorem later_run {steps : List MemoryStep} (hs : Sound s)
    (h : Along (MemoryState.step d) (CapturesInTime d) s steps) :
    Later s (run (MemoryState.step d) s steps) := by
  induction steps generalizing s with
  | nil => exact .refl s
  | cons step steps ih => exact (hs.later_step h.1).trans (ih (hs.step step) h.2)

end Later

section Read

variable {d : Deployment} {ids : EventIds} {s t : MemoryState} {jobId : String} {f f' : JobFile}
  {readAt : Instant} {r : MemoryEventsResponse} {e : MemoryEvent} {n : Nat} {x : EventRow}

/-- What a read of the state presents of the event of a job at an index. -/
def MemoryState.eventAt (d : Deployment) (ids : EventIds) (s : MemoryState) (f : JobFile) (n : Nat)
    (x : EventRow) : MemoryEvent :=
  buildEvent d.toRuntime f ⟨ids.id f.job.reportJobId n, x⟩ (s.snapshot f.job.reportJobId)

theorem read_isSome (d : Deployment) (ids : EventIds) (readAt : Instant)
    (hf : s.jobs.file? jobId = some f) : ∃ r, s.read d ids jobId readAt = some r := by
  simp [MemoryState.read, hf]

theorem mem_events_read (hread : s.read d ids jobId readAt = some r)
    (hf : s.jobs.file? jobId = some f) :
    e ∈ r.events ↔ ∃ n x, f.events[n]? = some x ∧ s.eventAt d ids f n x = e := by
  have hjob := Ledger.jobId_of_file? hf
  subst hjob
  simp only [MemoryState.read, hf, Option.map_some, Option.some.injEq] at hread
  subst hread
  simp only [buildReportPortfolioMemoryEvents, listStatusEvents, List.mem_map,
    List.mem_insertionSort, List.mem_mapIdx, MemoryState.eventAt, List.getElem?_eq_some_iff]
  constructor
  · rintro ⟨_, ⟨n, hn, rfl⟩, rfl⟩
    exact ⟨n, _, ⟨hn, rfl⟩, rfl⟩
  · rintro ⟨n, _, ⟨hn, rfl⟩, rfl⟩
    exact ⟨_, ⟨n, hn, rfl⟩, rfl⟩

/-- The identifier of an event determines its index in the history of the job. -/
theorem index_of_eventId {m : Nat} {y : EventRow} (hjob : f'.job.reportJobId = f.job.reportJobId)
    (h : (t.eventAt d ids f' m y).eventId = (s.eventAt d ids f n x).eventId) : m = n := by
  simp only [MemoryState.eventAt, buildEvent, hjob, String.append_right_inj] at h
  exact ids.distinct _ h

theorem getElem?_events (h : SameProduced f f') (hx : f.events[n]? = some x) :
    f'.events[n]? = some x := by
  obtain ⟨es, hes⟩ := h.events
  obtain ⟨hn, -⟩ := List.getElem?_eq_some_iff.mp hx
  rw [← hes, List.getElem?_append_left hn]
  exact hx

theorem ownRefs_congr (h : SameProduced f f') (event : StatusEvent) :
    ownRefs d.toRuntime f' event = ownRefs d.toRuntime f event := by
  simp only [ownRefs, h.job, h.request]

theorem Later.sourceRefs_eq (h : Later s t) (hf : s.jobs.file? jobId = some f)
    (hsame : SameProduced f f') (event : StatusEvent) (hx : event.row ∈ f.events) :
    sourceRefs d.toRuntime f' event (t.snapshot jobId) =
      sourceRefs d.toRuntime f event (s.snapshot jobId) := by
  simp only [sourceRefs, ownRefs_congr hsame]
  cases hold : s.snapshot jobId with
  | none =>
      cases hnew : t.snapshot jobId with
      | none => rfl
      | some row => simp [h.inTime jobId f row hf hold hnew event.row hx]
  | some row =>
      obtain ⟨row', hrow', hkept⟩ := h.kept jobId row hold
      have hrefs : snapshotRefs row' = snapshotRefs row := by
        rw [hkept]
        rfl
      simp only [hrow', snapshotExistedAt_congr hkept, hrefs]

/-- Of the artifact and the document an event presents the same later. -/
theorem artifactRefs_congr (h : SameProduced f f') (event : StatusEvent)
    (hx : event.row ∈ f.events) : artifactRefs f' event = artifactRefs f event := by
  unfold artifactRefs
  by_cases hartifact : event.row.toStatus ∈ artifactStatuses
  · have hrender := h.render ⟨event.row, hx, hartifact⟩
    by_cases harchived : event.row.toStatus = .archived
    · have hdocument := h.document ⟨event.row, hx, harchived⟩
      simp only [renderRef, documentRef, hrender, hdocument]
    · simp only [renderRef, hrender, harchived, if_false]
  · have harchived : event.row.toStatus ≠ .archived := by
      intro harchived
      rw [harchived] at hartifact
      exact hartifact (by decide)
    rw [artifactStatuses] at hartifact
    simp only [hartifact, harchived, if_false]

theorem Later.eventAt_eq (h : Later s t) (hf : s.jobs.file? jobId = some f)
    (hsame : SameProduced f f') (hx : f.events[n]? = some x) :
    t.eventAt d ids f' n x = s.eventAt d ids f n x := by
  have hmem : x ∈ f.events := List.mem_of_getElem? hx
  have hjob := Ledger.jobId_of_file? hf
  subst hjob
  simp only [MemoryState.eventAt, buildEvent, primaryPortfolioId, eventSummary, safePayload, hsame.job,
    hsame.reportType, hsame.portfolioScope, hsame.request,
    artifactRefs_congr hsame ⟨_, x⟩ hmem,
    h.sourceRefs_eq hf hsame ⟨_, x⟩ hmem]

theorem citesFrom_eventAt (hf : s.jobs.file? jobId = some f) :
    CitesFrom s jobId (s.eventAt d ids f n x) := by
  have hjob := Ledger.jobId_of_file? hf
  subst hjob
  constructor
  · intro ref href htype
    simp only [MemoryState.eventAt, buildEvent, sourceRefs] at href
    have hown : ref ∉ ownRefs d.toRuntime f ⟨ids.id f.job.reportJobId n, x⟩ := by
      intro hmem
      simp only [ownRefs, List.mem_cons, List.not_mem_nil, or_false] at hmem
      rcases hmem with rfl | rfl <;> simp at htype
    cases hrow : s.snapshot f.job.reportJobId with
    | none =>
        rw [hrow] at href
        exact absurd href hown
    | some row =>
        refine ⟨row, rfl, ?_⟩
        simp only [hrow] at href
        split at href
        · have hrefs := (List.mem_append.mp href).resolve_left hown
          rcases List.mem_cons.mp hrefs with rfl | hrevision
          · rfl
          · split at hrevision
            · split at hrevision
              · cases hrevision
              · rw [List.mem_singleton] at hrevision
                rw [hrevision] at htype
                simp at htype
            · cases hrevision
        · exact absurd href hown
  all_goals
    intro ref href htype
    refine ⟨f, hf, ?_⟩
    simp only [MemoryState.eventAt, buildEvent, artifactRefs, renderRef, documentRef] at href
    grind

end Read

section Fixed

variable {d : Deployment} {ids : EventIds} {s t : MemoryState}

theorem Later.fixedBetween (h : Later s t) : FixedBetween d ids s t := by
  constructor
  · intro jobId readAt readAt' r hread
    obtain ⟨f, hf, -⟩ := Option.map_eq_some_iff.mp hread
    obtain ⟨f', hf', hsame⟩ := h.file jobId f hf
    obtain ⟨r', hread'⟩ := read_isSome d ids readAt' hf'
    refine ⟨r', hread', ?_⟩
    intro e he
    obtain ⟨n, x, hx, rfl⟩ := (mem_events_read hread hf).mp he
    have hx' : f'.events[n]? = some x := getElem?_events hsame hx
    refine ⟨t.eventAt d ids f' n x, (mem_events_read hread' hf').mpr ⟨n, x, hx', rfl⟩, ?_⟩
    rw [h.eventAt_eq hf hsame hx]
    exact ⟨rfl, rfl, rfl, rfl, rfl⟩
  · intro jobId readAt readAt' r r' hread hread' e he e' he' hid
    obtain ⟨f, hf, -⟩ := Option.map_eq_some_iff.mp hread
    obtain ⟨f', hf', hsame⟩ := h.file jobId f hf
    obtain ⟨n, x, hx, rfl⟩ := (mem_events_read hread hf).mp he
    obtain ⟨m, y, hy, rfl⟩ := (mem_events_read hread' hf').mp he'
    have hindex := index_of_eventId hsame.job hid
    subst hindex
    have hx' : f'.events[m]? = some x := getElem?_events hsame hx
    rw [hy] at hx'
    cases hx'
    rw [h.eventAt_eq hf hsame hx]
    exact citesFrom_eventAt hf

/-- A step between whose states events are fixed stores its snapshot in time. -/
theorem Sound.capturesInTime (hs : Sound s) {step : MemoryStep}
    (hfixed : FixedBetween d ids s (s.step d step)) : CapturesInTime d s step := by
  cases step with
  | jobs call => trivial
  | captures event =>
      intro row hrow hnone x hx
      by_contra hlate
      have hexisted : snapshotExistedAt x row = true := by
        rw [← snapshotExistedAt_eq_false, Bool.not_eq_false] at hlate
        exact hlate
      obtain ⟨f, hf⟩ := hs.file_of_event hx
      have hjob := Ledger.jobId_of_file? hf
      have hevents := (Ledger.file?_eq_some_iff.mp hf).2.2.2
      obtain ⟨n, hn⟩ := List.getElem?_of_mem hx
      rw [← hevents] at hn
      obtain ⟨r, hread⟩ := read_isSome d ids 0 hf
      have he := (mem_events_read hread hf).mpr ⟨n, x, hn, rfl⟩
      obtain ⟨r', hread', hsame⟩ := hfixed.same row.reportJobId 0 0 r hread
      obtain ⟨e', he', hsameEvent⟩ := hsame _ he
      have hf' : (s.step d (.captures event)).jobs.file? row.reportJobId = some f := hf
      obtain ⟨m, y, hy, rfl⟩ := (mem_events_read hread' hf').mp he'
      have hindex := index_of_eventId rfl hsameEvent.eventId
      subst hindex
      rw [hn] at hy
      cases hy
      have hnew : (s.step d (.captures event)).snapshot row.reportJobId = some row :=
        Table.lookup?_index hrow
      have hrefs := hsameEvent.sourceRefs
      simp only [MemoryState.eventAt, buildEvent, hjob, hnone, hnew, sourceRefs, hexisted, if_true,
        List.append_right_eq_self] at hrefs
      cases hrefs

/-- The events of a run are fixed exactly if every snapshot is stored in time. -/
theorem eventsFixed_iff (d : Deployment) (ids : EventIds) (steps : List MemoryStep) :
    EventsFixed d ids steps ↔
      Along (MemoryState.step d) (CapturesInTime d) MemoryState.empty steps := by
  constructor
  · intro hfixed
    apply along_iff.mpr
    intro before step after hsteps
    have hpair := hfixed before [step] after (by simp [hsteps])
    rw [run_append] at hpair
    exact (sound_run d before).capturesInTime hpair
  · rintro halong before middle after rfl
    rw [run_append]
    rw [List.append_assoc] at halong
    have hmiddle := (along_append.mp (along_append.mp halong).2).1
    exact (later_run (sound_run d before) hmiddle).fixedBetween

end Fixed

section Sample

/-- The events of a job have the identifiers `e`, `ee`, and so on. -/
def sampleIds : EventIds where
  id _ n := String.ofList (List.replicate (n + 1) 'e')
  distinct _ m n h := by simpa using congrArg String.length h

/-- A job that is cancelled while the worker collects its data. -/
def cancelledRun : List MemoryStep :=
  [ .jobs (sampleSubmit none),
    .jobs (sampleClaim 'a' 0),
    .jobs (.ledger (.mark "rjob_1" .collectingData (sampleContext "a"))),
    .jobs (.ledger (.cancelJob "rjob_1" ⟨"advisor", "corr-1", "trace-1", none, 1000000⟩)) ]

/-- The capture of the worker, whose transaction comes after the cancellation. -/
def lateCapture : List MemoryStep :=
  [ .captures (.start (.createCapture Snapshots.sampleRequest [sampleUpstreamCall]
      { sampleStamp 'a' with now := 2000000 })),
    .captures (.advance 0), .captures (.advance 0) ]

/-- The read of a state of the example. -/
def sampleRead (steps : List MemoryStep) : Option MemoryEventsResponse :=
  (run (MemoryState.step sampleDeployment) .empty steps).read sampleDeployment sampleIds "rjob_1" 0

/-- The event of the cancellation in a read of the example. -/
def cancellation (steps : List MemoryStep) : Option MemoryEvent :=
  (sampleRead steps).bind fun r => r.events.find? fun e => e.eventType == "REPORT_JOB_CANCELLED"

theorem not_eventsFixed_lateCapture :
    ¬ ∀ (d : Deployment) (ids : EventIds) (steps : List MemoryStep), EventsFixed d ids steps := by
  intro h
  have hpair := h sampleDeployment sampleIds (cancelledRun ++ lateCapture) cancelledRun lateCapture []
    (by simp)
  have hevents : ∃ e e', cancellation cancelledRun = some e ∧
      cancellation (cancelledRun ++ lateCapture) = some e' ∧ e'.eventId = e.eventId ∧
        ∃ ref ∈ e'.sourceRefs, ref.sourceType = "REPORT_INPUT_SNAPSHOT" := by
    have hread : (cancellation cancelledRun).any (fun e =>
        (cancellation (cancelledRun ++ lateCapture)).any fun e' => e'.eventId == e.eventId &&
          e'.sourceRefs.any fun ref => ref.sourceType == "REPORT_INPUT_SNAPSHOT") = true := by
      decide +kernel
    simp only [Option.any_eq_true, Bool.and_eq_true, beq_iff_eq, List.any_eq_true] at hread
    obtain ⟨e, he, e', he', hid, href⟩ := hread
    exact ⟨e, e', he, he', hid, href⟩
  obtain ⟨e, e', he, he', hid, ref, href, htype⟩ := hevents
  obtain ⟨r, hread, hfound⟩ := Option.bind_eq_some_iff.mp he
  obtain ⟨r', hread', hfound'⟩ := Option.bind_eq_some_iff.mp he'
  have hcites := hpair.existing "rjob_1" 0 0 r r' hread hread' e (List.mem_of_find?_eq_some hfound) e'
    (List.mem_of_find?_eq_some hfound') hid
  obtain ⟨row, hrow, -⟩ := hcites.snapshot ref href htype
  have hnone : (run (MemoryState.step sampleDeployment) .empty cancelledRun).snapshot "rjob_1" = none :=
    by decide +kernel
  rw [hnone] at hrow
  cases hrow

end Sample

end LotusReport.Memory
