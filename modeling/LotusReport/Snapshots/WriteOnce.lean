import Mathlib.Data.Multiset.Basic
import LotusReport.Fallible.Checks
import LotusReport.Snapshots.Store

/-!
# Captured evidence is written once

What a call writes to a job's evidence is judged by what it read before its
transaction. As long as no transaction records calls or repairs lineage
metadata for a snapshot that has acquired recorded calls in the meantime, the
evidence of every job is fixed at its first write, the recorded calls and the
lineage metadata are fixed once calls are recorded, and a refused call has
changed nothing. Two captures that overlap can break this.
-/

namespace LotusReport.Snapshots

open Encoding Fallible Relational StateMachine

namespace SnapshotStore

variable {s t u : SnapshotStore} {snapshotId : String}

/-- The multiset of the signatures that are recorded for a snapshot. -/
def signatures (s : SnapshotStore) (snapshotId : String) : Multiset UpstreamCallSignature :=
  ↑((s.listUpstreamCalls snapshotId).map UpstreamCallRow.signature)

theorem signatures_eq_zero_iff : s.signatures snapshotId = 0 ↔ s.listUpstreamCalls snapshotId = [] := by
  simp [signatures]

/-- The rows differ in their lineage metadata at most. -/
def SameEvidence (row row' : SnapshotRow) : Prop := row' = { row with lineage := row'.lineage }

theorem SameEvidence.trans {row row' row'' : SnapshotRow} (h : SameEvidence row row')
    (h' : SameEvidence row' row'') : SameEvidence row row'' := by
  unfold SameEvidence at h h' ⊢
  rw [h'] at ⊢
  rw [h]

/-- What was captured has been kept: the evidence of every snapshot, and, where calls were
recorded, the lineage metadata and the signatures of the calls. -/
structure Kept (s t : SnapshotStore) : Prop where
  evidence : ∀ row ∈ s.snapshots.rows, ∃ row' ∈ t.snapshots.rows, SameEvidence row row'
  lineage : ∀ row ∈ s.snapshots.rows, s.listUpstreamCalls row.snapshotId ≠ [] →
    row ∈ t.snapshots.rows
  calls : ∀ snapshotId, s.listUpstreamCalls snapshotId ≠ [] →
    t.signatures snapshotId = s.signatures snapshotId

theorem Kept.refl (s : SnapshotStore) : Kept s s :=
  ⟨fun row hrow => ⟨row, hrow, rfl⟩, fun _ hrow _ => hrow, fun _ _ => rfl⟩

theorem Kept.recorded (h : Kept s t) (hs : s.listUpstreamCalls snapshotId ≠ []) :
    t.listUpstreamCalls snapshotId ≠ [] := by
  rw [Ne, ← signatures_eq_zero_iff, h.calls snapshotId hs, signatures_eq_zero_iff]
  exact hs

theorem Kept.trans (h : Kept s t) (h' : Kept t u) : Kept s u := by
  constructor
  · intro row hrow
    obtain ⟨row', hrow', hsame⟩ := h.evidence row hrow
    obtain ⟨row'', hrow'', hsame'⟩ := h'.evidence row' hrow'
    exact ⟨row'', hrow'', hsame.trans hsame'⟩
  · intro row hrow hcalls
    exact h'.lineage row (h.lineage row hrow hcalls) (h.recorded hcalls)
  · intro snapshotId hcalls
    rw [h'.calls snapshotId (h.recorded hcalls), h.calls snapshotId hcalls]

/-- The store changes in the rows of one snapshot only. -/
structure WritesOnly (snapshotId : String) (s t : SnapshotStore) : Prop where
  evidence : ∀ row ∈ s.snapshots.rows, ∃ row' ∈ t.snapshots.rows, SameEvidence row row'
  others : ∀ row ∈ s.snapshots.rows, row.snapshotId ≠ snapshotId → row ∈ t.snapshots.rows
  calls : ∀ other, other ≠ snapshotId → t.listUpstreamCalls other = s.listUpstreamCalls other

/-- Writing to a snapshot without recorded calls keeps what was captured. -/
theorem WritesOnly.kept (h : WritesOnly snapshotId s t)
    (hnone : s.listUpstreamCalls snapshotId = []) : Kept s t := by
  have hne : ∀ other, s.listUpstreamCalls other ≠ [] → other ≠ snapshotId := by
    rintro other hcalls rfl
    exact hcalls hnone
  refine ⟨h.evidence, fun row hrow hcalls => h.others row hrow (hne _ hcalls), ?_⟩
  intro other hcalls
  unfold signatures
  rw [h.calls other (hne other hcalls)]

section Writes

theorem insertSnapshot_eq_ok {row : SnapshotRow} (h : s.insertSnapshot row = .ok t) :
    t.snapshots.rows = s.snapshots.rows ++ [row] ∧ t.calls = s.calls := by
  unfold insertSnapshot at h
  split at h
  · cases h
  · rename_i snapshots hinsert
    cases h
    exact ⟨((Table.insert?_eq_some_iff _ _ _).mp hinsert).2.2, rfl⟩

theorem insertSnapshot_writesOnly {row : SnapshotRow} (h : s.insertSnapshot row = .ok t)
    (snapshotId : String) : WritesOnly snapshotId s t := by
  obtain ⟨hrows, hcalls⟩ := insertSnapshot_eq_ok h
  have hmem : ∀ row' ∈ s.snapshots.rows, row' ∈ t.snapshots.rows := by
    intro row' hrow'
    rw [hrows]
    exact List.mem_append_left _ hrow'
  refine ⟨fun row' hrow' => ⟨row', hmem row' hrow', rfl⟩, fun row' hrow' _ => hmem row' hrow', ?_⟩
  intro other _
  unfold listUpstreamCalls
  rw [hcalls]

theorem insertUpstreamCalls_eq_ok {stamp : Stamp} {n : Nat}
    {calls : List ReportUpstreamCallCreateRequest}
    (h : s.insertUpstreamCalls snapshotId stamp n calls = .ok t) :
    t.snapshots = s.snapshots ∧
      ∃ new, t.calls.rows = s.calls.rows ++ new ∧ ∀ row ∈ new, row.snapshotId = snapshotId := by
  induction calls generalizing s n with
  | nil =>
      cases h
      exact ⟨rfl, [], by simp, by simp⟩
  | cons call rest ih =>
      simp only [insertUpstreamCalls] at h
      split at h
      · cases h
      · rename_i table hinsert
        obtain ⟨hsnapshots, new, hnew, hown⟩ := ih h
        have hrows := ((Table.insert?_eq_some_iff _ _ _).mp hinsert).2.2
        refine ⟨hsnapshots, ⟨stamp.upstreamCallIds n, snapshotId, call, dtToText stamp.now⟩ :: new,
          ?_, ?_⟩
        · rw [hnew]
          simp only [hrows, List.append_assoc, List.singleton_append]
        · intro row hrow
          rcases List.mem_cons.mp hrow with rfl | hrow
          · rfl
          · exact hown row hrow

/-- Recorded calls are recorded for their own snapshot. -/
theorem insertUpstreamCalls_writesOnly {stamp : Stamp} {n : Nat}
    {calls : List ReportUpstreamCallCreateRequest}
    (h : s.insertUpstreamCalls snapshotId stamp n calls = .ok t) : WritesOnly snapshotId s t := by
  obtain ⟨hsnapshots, new, hnew, hown⟩ := insertUpstreamCalls_eq_ok h
  refine ⟨fun row hrow => ⟨row, hsnapshots ▸ hrow, rfl⟩, fun row hrow _ => hsnapshots ▸ hrow, ?_⟩
  intro other hne
  have hnone : new.filter (fun row => row.snapshotId == other) = [] := by
    apply List.filter_eq_nil_iff.mpr
    intro row hrow
    simp [hown row hrow, Ne.symm hne]
  unfold listUpstreamCalls
  rw [hnew, List.filter_append, hnone, List.append_nil]

/-- A repair rewrites the lineage metadata of its own snapshot. -/
theorem updateLineage_writesOnly (s : SnapshotStore) (snapshotId : String)
    (lineage : LineageMetadata) : WritesOnly snapshotId s (s.updateLineage snapshotId lineage) := by
  refine ⟨fun row hrow => ?_, fun row hrow hne => ?_, fun _ _ => rfl⟩
  · by_cases hid : row.snapshotId = snapshotId
    · refine ⟨{ row with lineage := lineage }, ?_, rfl⟩
      exact Table.mem_update.mpr (Or.inr ⟨row, hrow, by simpa using hid, rfl⟩)
    · exact ⟨row, Table.mem_update.mpr (Or.inl ⟨hrow, by simpa using hid⟩), rfl⟩
  · exact Table.mem_update.mpr (Or.inl ⟨hrow, by simpa using hne⟩)

theorem repairSnapshotLineageMetadata_eq_ok {request : ReportInputSnapshotCreateRequest}
    {row : SnapshotRow} (h : s.repairSnapshotLineageMetadata snapshotId request = .ok (row, t)) :
    row.snapshotId = snapshotId ∧ t = s.updateLineage snapshotId request.lineage := by
  unfold repairSnapshotLineageMetadata at h
  simp only at h
  split at h
  · cases h
  · rename_i row' hfind
    cases h
    exact ⟨Table.key_of_find? hfind, rfl⟩

theorem decideUpstreamCalls_record {existing : List UpstreamCallRow}
    {calls : List ReportUpstreamCallCreateRequest}
    (h : decideUpstreamCalls existing calls = .record) : existing = [] := by
  unfold decideUpstreamCalls at h
  split at h
  · split at h <;> cases h
  · rename_i hnone
    exact not_not.mp hnone

/-- Inside a transaction calls are recorded only where there are none. -/
theorem getOrCreateUpstreamCalls_eq_ok {calls : List ReportUpstreamCallCreateRequest}
    {stamp : Stamp} {recorded : List UpstreamCallRow}
    (h : s.getOrCreateUpstreamCalls snapshotId calls stamp = .ok (recorded, t)) :
    t = s ∨ s.listUpstreamCalls snapshotId = [] ∧ WritesOnly snapshotId s t := by
  unfold getOrCreateUpstreamCalls at h
  split at h
  · cases h
  · cases h
    exact Or.inl rfl
  · rename_i hrecord
    cases hinsert : s.insertUpstreamCalls snapshotId stamp 0 calls with
    | error error =>
        rw [hinsert] at h
        cases h
    | ok s' =>
        rw [hinsert] at h
        cases h
        exact Or.inr ⟨decideUpstreamCalls_record hrecord, insertUpstreamCalls_writesOnly hinsert⟩

theorem completeCapture_eq_ok {row row' : SnapshotRow} {request : ReportInputSnapshotCreateRequest}
    {calls : List ReportUpstreamCallCreateRequest}
    (h : s.completeCapture row request calls = .ok (row', t)) :
    row'.snapshotId = row.snapshotId ∧
      (t = s ∨ s.listUpstreamCalls row.snapshotId = [] ∧ WritesOnly row.snapshotId s t) := by
  unfold completeCapture at h
  split at h
  · cases h
  · split at h
    · rename_i hrepair
      obtain ⟨hid, rfl⟩ := repairSnapshotLineageMetadata_eq_ok h
      exact ⟨hid, Or.inr ⟨hrepair.1, updateLineage_writesOnly _ _ _⟩⟩
    · cases h
      exact ⟨rfl, Or.inl rfl⟩

end Writes

end SnapshotStore

open SnapshotStore

section Steps

variable {s t : SnapshotStore}

/-- The transaction records calls or repairs lineage metadata for a snapshot that existed before
the call only where no calls are recorded. -/
def Transaction.Timely (s : SnapshotStore) : Transaction → Prop
  | repairLineage snapshotId _ _ _ => s.listUpstreamCalls snapshotId = []
  | recordCalls _ snapshotId _ _ => s.listUpstreamCalls snapshotId = []
  | createSnapshot _ | createCapture _ _ _ _ => True

/-- No calls were recorded between what a call has read and what it writes. -/
def Timely (s : SnapshotStore) : StoreOp → Prop
  | .transaction body => body.Timely s
  | _ => True

instance Timely.decidable (s : SnapshotStore) : (op : StoreOp) → Decidable (Timely s op)
  | .transaction (.repairLineage snapshotId _ _ _)
  | .transaction (.recordCalls _ snapshotId _ _) =>
      inferInstanceAs (Decidable (s.listUpstreamCalls snapshotId = []))
  | .transaction (.createSnapshot _) | .transaction (.createCapture _ _ _ _)
  | .selectByJob _ | .selectById _ | .listUpstreamCalls _ => isTrue trivial

theorem insertSnapshot_kept {row : SnapshotRow} (h : s.insertSnapshot row = .ok t) : Kept s t := by
  obtain ⟨hrows, hcalls⟩ := insertSnapshot_eq_ok h
  refine ⟨(insertSnapshot_writesOnly h "").evidence, fun row' hrow' _ => ?_, fun id _ => ?_⟩
  · rw [hrows]
    exact List.mem_append_left _ hrow'
  · unfold signatures listUpstreamCalls
    rw [hcalls]

/-- A transaction that comes in time keeps what was captured. -/
theorem Transaction.kept {body : Transaction} {captured : Captured} (htimely : body.Timely s)
    (h : body.body s = .ok (captured, t)) : Kept s t := by
  have hrecorded : ∀ {s t : SnapshotStore} {id : String}
      {calls : List ReportUpstreamCallCreateRequest} {stamp : Stamp} {rows : List UpstreamCallRow},
      s.getOrCreateUpstreamCalls id calls stamp = .ok (rows, t) → Kept s t := by
    intro s t id calls stamp rows hcreate
    rcases getOrCreateUpstreamCalls_eq_ok hcreate with rfl | ⟨hnone, hwrites⟩
    · exact .refl _
    · exact hwrites.kept hnone
  cases body with
  | createSnapshot row =>
      obtain ⟨s₁, hinsert, hlast⟩ := bind_eq_ok.mp h
      cases hlast
      exact insertSnapshot_kept hinsert
  | createCapture row request calls stamp =>
      obtain ⟨s₁, hinsert, hcaptured⟩ := bind_eq_ok.mp h
      obtain ⟨⟨row', s₂⟩, hcomplete, hcompleted⟩ := bind_eq_ok.mp hcaptured
      obtain ⟨⟨rows, s₃⟩, hcreate, hlast⟩ := bind_eq_ok.mp hcompleted
      cases hlast
      have hrepaired : Kept s₁ s₂ := by
        rcases (completeCapture_eq_ok hcomplete).2 with rfl | ⟨hnone, hwrites⟩
        · exact .refl _
        · exact hwrites.kept hnone
      exact ((insertSnapshot_kept hinsert).trans hrepaired).trans (hrecorded hcreate)
  | repairLineage snapshotId request calls stamp =>
      obtain ⟨⟨row, s₁⟩, hrepair, hrepaired⟩ := bind_eq_ok.mp h
      obtain ⟨⟨rows, s₂⟩, hcreate, hlast⟩ := bind_eq_ok.mp hrepaired
      cases hlast
      obtain ⟨-, rfl⟩ := repairSnapshotLineageMetadata_eq_ok hrepair
      exact ((updateLineage_writesOnly s snapshotId request.lineage).kept htimely).trans
        (hrecorded hcreate)
  | recordCalls snapshot snapshotId calls stamp =>
      obtain ⟨s₁, hinsert, hlast⟩ := bind_eq_ok.mp h
      cases hlast
      exact (insertUpstreamCalls_writesOnly hinsert).kept htimely

theorem perform_kept {op : StoreOp} (h : Timely s op) : Kept s (perform s op).1 := by
  cases op with
  | selectByJob | selectById | listUpstreamCalls => exact .refl s
  | transaction body =>
      simp only [perform]
      split
      · rename_i captured s' hbody
        exact Transaction.kept h hbody
      · exact .refl s

end Steps

section Rejection

/-- What the program changes it changes at its last step, and then it returns. -/
def RejectsCleanly : StoreProgram → Prop
  | .done _ => True
  | .call op next =>
      (∀ s, (perform s op).1 = s ∨ ∃ captured, next (perform s op).2 = .done (.ok captured)) ∧
        ∀ r, RejectsCleanly (next r)

theorem rejectsCleanly_read {op : StoreOp} {next : op.Result → StoreProgram}
    (hread : ∀ s, (perform s op).1 = s) (h : ∀ r, RejectsCleanly (next r)) :
    RejectsCleanly (.call op next) :=
  ⟨fun s => Or.inl (hread s), h⟩

theorem rejectsCleanly_transaction (body : Transaction) :
    RejectsCleanly (.call (.transaction body) .done) := by
  refine ⟨fun s => ?_, fun _ => trivial⟩
  simp only [perform]
  split
  · exact Or.inr ⟨_, rfl⟩
  · exact Or.inl rfl

theorem rejectsCleanly_getOrCreateUpstreamCalls (snapshot : Option SnapshotRow)
    (snapshotId : String) (calls : List ReportUpstreamCallCreateRequest) (stamp : Stamp) :
    RejectsCleanly (getOrCreateUpstreamCalls snapshot snapshotId calls stamp) := by
  apply rejectsCleanly_read fun _ => rfl
  intro existing
  split
  · trivial
  · trivial
  · exact rejectsCleanly_transaction _

theorem rejectsCleanly_getOrCreateSnapshot (py : Runtime)
    (request : ReportInputSnapshotCreateRequest) {missing : StoreProgram}
    {found : SnapshotRow → StoreProgram} (hmissing : RejectsCleanly missing)
    (hfound : ∀ row, RejectsCleanly (found row)) :
    RejectsCleanly (getOrCreateSnapshot py request missing found) := by
  apply rejectsCleanly_read fun _ => rfl
  intro existing
  cases existing with
  | none => exact hmissing
  | some row =>
      simp only
      split
      · exact hfound row
      · trivial

theorem rejectsCleanly_completeCapture (row : SnapshotRow)
    (request : ReportInputSnapshotCreateRequest) (calls : List ReportUpstreamCallCreateRequest)
    (stamp : Stamp) : RejectsCleanly (completeCapture row request calls stamp) := by
  apply rejectsCleanly_read fun _ => rfl
  intro existing
  split
  · trivial
  · split
    · exact rejectsCleanly_transaction _
    · exact rejectsCleanly_getOrCreateUpstreamCalls _ _ _ _

theorem rejectsCleanly_program (py : Runtime) (call : StoreCall) :
    RejectsCleanly (call.program py) := by
  cases call with
  | createSnapshot request stamp =>
      exact rejectsCleanly_getOrCreateSnapshot py request (rejectsCleanly_transaction _)
        fun _ => trivial
  | createCapture snapshot upstreamCalls stamp =>
      exact rejectsCleanly_getOrCreateSnapshot py snapshot (rejectsCleanly_transaction _)
        fun row => rejectsCleanly_completeCapture row snapshot upstreamCalls stamp
  | createUpstreamCalls snapshotId calls stamp =>
      simp only [StoreCall.program, createUpstreamCalls]
      split
      · trivial
      · apply rejectsCleanly_read fun _ => rfl
        intro found
        cases found with
        | none => trivial
        | some row => exact rejectsCleanly_getOrCreateUpstreamCalls _ _ _ _

/-- No step of a call that ends in an exception has changed the store. -/
theorem rejected_step (py : Runtime) {before after : List (Event StoreCall)} {n : Nat}
    {error : SnapshotError}
    (h : (systemRun py (before ++ .advance n :: after)).pool[n]? = some (.done (.error error))) :
    (systemRun py (before ++ [.advance n])).store = (systemRun py before).store := by
  have hclean : ∀ p ∈ (systemRun py before).pool, RejectsCleanly p :=
    System.pool_run (rejectsCleanly_program py) (fun op next r hp => hp.2 r)
      (fun p hp => absurd hp List.not_mem_nil) before
  have hstep : systemRun py (before ++ [.advance n]) =
      System.step perform (StoreCall.program py) (systemRun py before) (.advance n) := by
    unfold systemRun
    rw [run_append]
    rfl
  have hfinal : systemRun py (before ++ .advance n :: after) =
      run (System.step perform (StoreCall.program py)) (systemRun py (before ++ [.advance n]))
        after := by
    rw [List.append_cons]
    unfold systemRun
    rw [run_append]
    rfl
  cases hn : (systemRun py before).pool[n]? with
  | none => rw [hstep]; simp only [System.step, hn]
  | some p =>
      cases p with
      | done a => rw [hstep, System.step_advance_done hn]
      | call op next =>
          rcases (hclean _ (List.mem_of_getElem? hn)).1 (systemRun py before).store with
            hsame | ⟨captured, hdone⟩
          · rw [hstep, System.step_advance_call hn, hsame]
          · have hlt : n < (systemRun py before).pool.length :=
              (List.getElem?_eq_some_iff.mp hn).1
            have hended : (systemRun py (before ++ [.advance n])).pool[n]? =
                some (.done (.ok captured)) := by
              rw [hstep, System.step_advance_call hn]
              simp [hlt, hdone]
            rw [hfinal, System.getElem?_run_of_done hended] at h
            cases h

end Rejection

section Run

/-- The properties of captured evidence in a run. -/
structure WriteOnce (py : Runtime) (events : List (Event StoreCall)) : Prop where
  oneSnapshot : ∀ row ∈ (systemRun py events).store.snapshots.rows,
    ∀ row' ∈ (systemRun py events).store.snapshots.rows,
      row.reportJobId = row'.reportJobId → row = row'
  kept : ∀ before middle after, events = before ++ middle ++ after →
    Kept (systemRun py before).store (systemRun py (before ++ middle)).store
  rejected : ∀ before n after error, events = before ++ .advance n :: after →
    (systemRun py events).pool[n]? = some (.done (.error error)) →
    (systemRun py (before ++ [.advance n])).store = (systemRun py before).store

/-- Along a run whose transactions come in time the store keeps what was captured. -/
theorem kept_run {py : Runtime} {c : SnapshotSystem} {events : List (Event StoreCall)}
    (h : Along (systemStep py) (fun c e => c.Permitted Timely e) c events) :
    Kept c.store (run (systemStep py) c events).store := by
  refine run_invariant (I := fun c' : SnapshotSystem => Kept c.store c'.store)
    (fun c' e hkept he => hkept.trans ?_) (Kept.refl c.store) h
  cases e with
  | start call => exact .refl _
  | advance n =>
      simp only [systemStep, System.step]
      split
      · rename_i op next hn
        exact perform_kept (he op next hn)
      · exact .refl _

/-- When no call writes recorded calls or lineage metadata for a snapshot whose calls another call
has recorded since it was read, a job has one snapshot, its evidence is fixed at the first write,
its recorded calls and its lineage metadata are fixed once calls are recorded, and a call that
raises has changed nothing. -/
theorem captured_evidence_write_once (py : Runtime) (events : List (Event StoreCall))
    (h : Along (systemStep py) (fun c e => c.Permitted Timely e) (System.initial .empty) events) :
    WriteOnce py events := by
  constructor
  · intro row hrow row' hrow' hjob
    exact List.inj_on_of_nodup_map (systemRun py events).store.snapshots.index_nodup hrow hrow' hjob
  · rintro before middle after rfl
    have hmiddle := (along_append.mp (along_append.mp h).1).2
    unfold systemRun
    rw [run_append]
    exact kept_run hmiddle
  · rintro before n after error rfl hrejected
    exact rejected_step py hrejected

end Run

section Sample

/-- A request for the snapshot of one job. -/
def sampleRequest : ReportInputSnapshotCreateRequest where
  reportJobId := "rjob_1"
  reportType := "portfolio_review"
  reportDataContractVersion := "v1"
  portfolioScope := [("portfolio_ids", Json.ofTexts ["PF_1"])]
  asOfDate := "2026-03-31"
  snapshotPayload := [("report_id", .str "portfolio-review:PF_1:2026-03-31")]
  supportabilityStatus := .complete
  completenessStatus := .complete
  lineageSummary := [("source_services", Json.ofTexts ["lotus-core"])]
  capturedAt := 0
  correlationId := "corr-1"
  traceId := "trace-1"

/-- The source call behind the snapshot. -/
def sampleUpstreamCall : ReportUpstreamCallCreateRequest where
  serviceName := "lotus-core"
  endpoint := "/portfolios/PF_1"
  method := "GET"
  contractVersion := "v1"
  requestHash := "sha256:1"
  statusCode := 200
  latencyMs := 12
  supportabilityStatus := .complete
  completenessStatus := .complete
  failureCategory := .none
  correlationId := "corr-1"
  traceId := "trace-1"
  capturedAt := 0

/-- What a call generates; a letter tells the calls apart. -/
def sampleStamp (letter : Char) : Stamp where
  snapshotId := String.ofList ['r', letter]
  upstreamCallIds := fun n => String.ofList (List.replicate (n + 1) letter)
  now := 0

/-- A snapshot without calls, and a capture that completes it. -/
def completedCapture : List (Event StoreCall) :=
  [ .start (.createSnapshot sampleRequest (sampleStamp 'a')), .advance 0, .advance 0,
    .start (.createCapture sampleRequest [sampleUpstreamCall] (sampleStamp 'b')),
    .advance 1, .advance 1, .advance 1, .advance 1 ]

theorem captured_evidence_write_once_completed :
    WriteOnce Runtime.verbatim completedCapture ∧
      ((systemRun Runtime.verbatim completedCapture).store.listUpstreamCalls "ra").length = 1 :=
  ⟨captured_evidence_write_once _ _ (by decide +kernel), by decide +kernel⟩

/-- Two captures of a job whose snapshot has no calls yet: each reads that there are none before
the other records its own. -/
def overlappingCaptures : List (Event StoreCall) :=
  [ .start (.createSnapshot sampleRequest (sampleStamp 'a')), .advance 0, .advance 0,
    .start (.createCapture sampleRequest [sampleUpstreamCall] (sampleStamp 'b')),
    .start (.createCapture sampleRequest [sampleUpstreamCall] (sampleStamp 'c')),
    .advance 1, .advance 1, .advance 1, .advance 2, .advance 2, .advance 2, .advance 1 ]

theorem not_writeOnce_overlappingCaptures :
    ¬ ∀ (py : Runtime) (events : List (Event StoreCall)), WriteOnce py events := by
  intro h
  have hkept := (h Runtime.verbatim (overlappingCaptures ++ [.advance 2])).kept overlappingCaptures
    [.advance 2] [] (by simp)
  have hcalls := congrArg Multiset.card (hkept.calls "ra" (by decide +kernel))
  revert hcalls
  decide +kernel

end Sample

end LotusReport.Snapshots
