import LotusReport.Schedules.Definitions

/-!
# Schedules and their audit trail

Every write of a definition appends one audit record in the same transaction.
A definition is written at revision one when it is created, and afterwards only
over the revision that the writer has read, so the records of a schedule replay
to the stored row. `InStep` states this of the tables; the programs of the
service are safe for it because a stored row changes only with its revision.
-/

namespace LotusReport.Schedules

open Encoding Relational StateMachine

section Replay

/-- The changed fields held the recorded values before. -/
def ScheduleChanges.startsFrom (changes : ScheduleChanges) (fields : ScheduleFields) : Bool :=
  changes.cadence.all (·.before == fields.cadence) &&
    changes.portfolioIds.all (·.before == fields.portfolioIds) &&
    changes.requestedOutputFormats.all (·.before == fields.requestedOutputFormats) &&
    changes.reportingCurrency.all (·.before == fields.reportingCurrency) &&
    changes.options.all (·.before == fields.options) &&
    changes.maxBatchSize.all (·.before == fields.maxBatchSize) &&
    changes.enabled.all (·.before == fields.enabled)

/-- The mutable fields and the date of the last cadence change, one audit record later. The first
record must be a definition, and every other one must start from the fields before it. -/
def replayAudit (state : Option (ScheduleFields × Int)) (record : BatchScheduleAuditRecord) :
    Option (ScheduleFields × Int) :=
  match state, record.changes with
  | none, .definition schedule => some (schedule.toScheduleFields, dayOf record.createdAt)
  | some (fields, day), .fields changes =>
      if changes.startsFrom fields then
        some (changes.assign fields,
          if changes.cadence.isSome then dayOf record.createdAt else day)
      else none
  | _, _ => none

/-- The mutable fields and the date of the last cadence change after an audit trail. -/
def replayAudits (records : List BatchScheduleAuditRecord) : Option (ScheduleFields × Int) :=
  records.foldl replayAudit none

theorem replayAudits_append (records : List BatchScheduleAuditRecord)
    (record : BatchScheduleAuditRecord) :
    replayAudits (records ++ [record]) = replayAudit (replayAudits records) record := by
  simp [replayAudits, List.foldl_append]

theorem ne_nil_of_replayAudits {records : List BatchScheduleAuditRecord}
    {state : ScheduleFields × Int} (h : replayAudits records = some state) : records ≠ [] := by
  rintro rfl
  cases h

theorem changeOf_all_before {α : Type} [BEq α] [ReflBEq α] (same : α → α → Bool)
    (requested : Option α) (current : α) :
    (changeOf same requested current).all (·.before == current) = true := by
  unfold changeOf
  split
  · rfl
  · split
    · rfl
    · simp

/-- An update records the values it has read. -/
theorem startsFrom_changes (env : ScheduleServices) (call : UpdateScheduleCall)
    (existing : StoredBatchSchedule) :
    (call.changes env existing).startsFrom existing.toScheduleFields = true := by
  simp only [ScheduleChanges.startsFrom, UpdateScheduleCall.changes,
    BatchScheduleDefinitionUpdateRequest.changes, changeOf_all_before, Bool.and_self]

end Replay

/-- A schedule is the outcome of its audit trail. -/
structure Audited (s : ScheduleStore) (row : ScheduleRow) : Prop where
  revision_eq : row.schedule.revision = (s.readScheduleAudit row.scheduleId).length
  replay_eq : replayAudits (s.readScheduleAudit row.scheduleId) =
    some (row.schedule.toScheduleFields, row.schedule.cadenceEffectiveOn)

/-- Definitions and audit trail agree, every audit record belongs to a definition, and the
fingerprint column holds the fingerprints. -/
structure InStep (py : Runtime) (s : ScheduleStore) : Prop where
  audited : ∀ row ∈ s.definitions.rows, Audited s row
  owned : ∀ record ∈ s.audits.rows, ∃ row ∈ s.definitions.rows, row.scheduleId = record.scheduleId
  fingerprint_eq : ∀ row ∈ s.definitions.rows, row.fingerprint = row.schedule.fingerprint py

/-- Stored rows stay, and change only with their revision. -/
def Continues (s t : ScheduleStore) : Prop :=
  ∀ row ∈ s.definitions.rows, ∃ row' ∈ t.definitions.rows, row'.scheduleId = row.scheduleId ∧
    row.schedule.revision ≤ row'.schedule.revision ∧
    (row'.schedule.revision = row.schedule.revision → row' = row)

theorem Continues.refl (s : ScheduleStore) : Continues s s :=
  fun row hrow => ⟨row, hrow, rfl, Nat.le_refl _, fun _ => rfl⟩

theorem Continues.trans {s t u : ScheduleStore} (hst : Continues s t) (htu : Continues t u) :
    Continues s u := by
  intro row hrow
  obtain ⟨row', hrow', hid', hle', heq'⟩ := hst row hrow
  obtain ⟨row'', hrow'', hid'', hle'', heq''⟩ := htu row' hrow'
  refine ⟨row'', hrow'', hid''.trans hid', Nat.le_trans hle' hle'', fun h => ?_⟩
  have hmid : row'.schedule.revision = row.schedule.revision := by omega
  have hlast : row''.schedule.revision = row'.schedule.revision := by omega
  rw [heq'' hlast, heq' hmid]

/-- What the programs of the service keep. -/
def trail (py : Runtime) : Discipline ScheduleStore ScheduleCall where
  Inv := InStep py
  Later := Continues
  Allowed _ _ := True
  refl := Continues.refl
  trans := Continues.trans

section Writes

variable {py : Runtime} {s s' : ScheduleStore} {schedule : StoredBatchSchedule}
  {record : BatchScheduleAuditRecord}

theorem writeDefinitionWithAudit_cases
    (h : s.writeDefinitionWithAudit py schedule record = .ok s') :
    s.audits.insert? record = some s'.audits ∧
      (schedule.revision = 1 ∧
          s.definitions.insert? ⟨schedule, schedule.fingerprint py⟩ = some s'.definitions ∨
        schedule.revision ≠ 1 ∧ ∃ row, s.definitions.find? schedule.scheduleId = some row ∧
          row.schedule.revision = schedule.revision - 1 ∧
          s.definitions.replace? (ScheduleStore.updatedRow py schedule row) =
            some s'.definitions) := by
  unfold ScheduleStore.writeDefinitionWithAudit at h
  cases hw : s.writeScheduleDefinition py schedule with
  | error e => simp [hw, bind, Except.bind] at h
  | ok mid =>
      have haudit : mid.writeScheduleAudit record = .ok s' := by
        simpa [hw, bind, Except.bind] using h
      simp only [ScheduleStore.writeScheduleAudit] at haudit
      cases hi : mid.audits.insert? record with
      | none => simp [hi] at haudit
      | some audits =>
          simp only [hi, Except.ok.injEq] at haudit
          subst haudit
          simp only [ScheduleStore.writeScheduleDefinition] at hw
          by_cases hone : schedule.revision = 1
          · rw [if_pos hone] at hw
            cases hd : s.definitions.insert? ⟨schedule, schedule.fingerprint py⟩ with
            | none =>
                simp only [hd] at hw
                split at hw <;> cases hw
            | some definitions =>
                simp only [hd, Except.ok.injEq] at hw
                subst hw
                exact ⟨hi, Or.inl ⟨hone, rfl⟩⟩
          · rw [if_neg hone] at hw
            cases hrow : s.definitions.find? schedule.scheduleId with
            | none => simp [hrow] at hw
            | some row =>
                simp only [hrow] at hw
                by_cases hrev : row.schedule.revision = schedule.revision - 1
                · rw [if_pos hrev] at hw
                  cases hd : s.definitions.replace? (ScheduleStore.updatedRow py schedule row) with
                  | none => simp [hd] at hw
                  | some definitions =>
                      simp only [hd, Except.ok.injEq] at hw
                      subst hw
                      exact ⟨hi, Or.inr ⟨hone, row, rfl, hrev, hd⟩⟩
                · simp [if_neg hrev] at hw

/-- A write over another revision than the stored one is refused as stale. -/
theorem writeDefinitionWithAudit_stale (hone : schedule.revision ≠ 1)
    (hrev : ∀ row, s.definitions.find? schedule.scheduleId = some row →
      row.schedule.revision ≠ schedule.revision - 1) :
    s.writeDefinitionWithAudit py schedule record = .error (.stale schedule.scheduleId) := by
  simp only [ScheduleStore.writeDefinitionWithAudit, ScheduleStore.writeScheduleDefinition,
    if_neg hone]
  cases hrow : s.definitions.find? schedule.scheduleId with
  | none => rfl
  | some row =>
      simp only [if_neg (hrev row hrow)]
      rfl

theorem readScheduleAudit_insert (h : s.audits.insert? record = some s'.audits) (id : String) :
    s'.readScheduleAudit id =
      s.readScheduleAudit id ++ if record.scheduleId = id then [record] else [] := by
  obtain ⟨-, -, hrows⟩ := (Table.insert?_eq_some_iff _ _ _).mp h
  rw [ScheduleStore.readScheduleAudit, hrows, List.filter_append]
  congr 1
  by_cases hid : record.scheduleId = id <;> simp [hid]

/-- Records of other schedules leave a trail as it is. -/
theorem Audited.of_ne {row : ScheduleRow} (hrow : Audited s row)
    (h : s.audits.insert? record = some s'.audits) (hne : record.scheduleId ≠ row.scheduleId) :
    Audited s' row := by
  have hread : s'.readScheduleAudit row.scheduleId = s.readScheduleAudit row.scheduleId := by
    rw [readScheduleAudit_insert h, if_neg hne, List.append_nil]
  exact ⟨by rw [hread, hrow.revision_eq], by rw [hread, hrow.replay_eq]⟩

theorem InStep.insert (hs : InStep py s)
    (haudit : s.audits.insert? record = some s'.audits)
    (hinsert : s.definitions.insert? ⟨schedule, schedule.fingerprint py⟩ = some s'.definitions)
    (hone : schedule.revision = 1) (hid : record.scheduleId = schedule.scheduleId)
    (hreplay : replayAudit none record =
      some (schedule.toScheduleFields, schedule.cadenceEffectiveOn)) :
    InStep py s' ∧ Continues s s' := by
  obtain ⟨hfresh, -, hrows⟩ := (Table.insert?_eq_some_iff _ _ _).mp hinsert
  obtain ⟨-, -, hrecords⟩ := (Table.insert?_eq_some_iff _ _ _).mp haudit
  have hnew : ∀ row ∈ s.definitions.rows, row.scheduleId ≠ schedule.scheduleId :=
    (Table.find?_eq_none_iff _ _).mp hfresh
  have hnone : s.readScheduleAudit schedule.scheduleId = [] := by
    refine List.filter_eq_nil_iff.mpr fun a ha heq => ?_
    obtain ⟨row, hrow, hrowId⟩ := hs.owned a ha
    exact hnew row hrow (hrowId.trans (beq_iff_eq.mp heq))
  have htrail : s'.readScheduleAudit schedule.scheduleId = [record] := by
    rw [readScheduleAudit_insert haudit, hnone, if_pos hid, List.nil_append]
  refine ⟨⟨fun row hrow => ?_, fun a ha => ?_, fun row hrow => ?_⟩, fun row hrow => ?_⟩
  · rw [hrows] at hrow
    rcases List.mem_append.mp hrow with hold | hlast
    · exact (hs.audited row hold).of_ne haudit fun h => hnew row hold (h.symm.trans hid)
    · rw [List.mem_singleton.mp hlast]
      refine ⟨?_, ?_⟩
      · change schedule.revision = (s'.readScheduleAudit schedule.scheduleId).length
        rw [htrail, hone]
        rfl
      · change replayAudits (s'.readScheduleAudit schedule.scheduleId) = _
        rw [htrail]
        exact hreplay
  · rw [hrows]
    rw [hrecords] at ha
    rcases List.mem_append.mp ha with hold | hlast
    · obtain ⟨row, hrow, hrowId⟩ := hs.owned a hold
      exact ⟨row, List.mem_append_left _ hrow, hrowId⟩
    · rw [List.mem_singleton.mp hlast]
      exact ⟨_, List.mem_append_right _ List.mem_cons_self, hid.symm⟩
  · rw [hrows] at hrow
    rcases List.mem_append.mp hrow with hold | hlast
    · exact hs.fingerprint_eq row hold
    · rw [List.mem_singleton.mp hlast]
  · exact ⟨row, hrows ▸ List.mem_append_left _ hrow, rfl, Nat.le_refl _, fun _ => rfl⟩

theorem InStep.replace {row new : ScheduleRow} (hs : InStep py s)
    (haudit : s.audits.insert? record = some s'.audits)
    (hrow : row ∈ s.definitions.rows)
    (hreplace : s.definitions.replace? new = some s'.definitions)
    (hkey : new.scheduleId = row.scheduleId)
    (hrev : new.schedule.revision = row.schedule.revision + 1)
    (hid : record.scheduleId = row.scheduleId)
    (hfingerprint : new.fingerprint = new.schedule.fingerprint py)
    (hreplay : replayAudit (some (row.schedule.toScheduleFields, row.schedule.cadenceEffectiveOn))
      record = some (new.schedule.toScheduleFields, new.schedule.cadenceEffectiveOn)) :
    InStep py s' ∧ Continues s s' := by
  obtain ⟨-, -, hrecords⟩ := (Table.insert?_eq_some_iff _ _ _).mp haudit
  have hrows := Table.rows_replace? hreplace
  have hstored : ∀ r ∈ s.definitions.rows,
      Table.replaced ScheduleRow.scheduleId new r ∈ s'.definitions.rows :=
    fun r hr => hrows ▸ List.mem_map_of_mem hr
  have htrail : s'.readScheduleAudit new.scheduleId =
      s.readScheduleAudit row.scheduleId ++ [record] := by
    rw [readScheduleAudit_insert haudit, hkey, if_pos hid]
  have hold := hs.audited row hrow
  refine ⟨⟨fun r hr => ?_, fun a ha => ?_, fun r hr => ?_⟩, fun r hr => ?_⟩
  · rcases Table.mem_replace? hreplace hr with rfl | ⟨hr, hne⟩
    · refine ⟨?_, ?_⟩
      · rw [htrail, hrev, hold.revision_eq, List.length_append, List.length_singleton]
      · rw [htrail, replayAudits_append, hold.replay_eq]
        exact hreplay
    · exact (hs.audited r hr).of_ne haudit fun h => hne (h.symm.trans (hid.trans hkey.symm))
  · have howner : ∃ r ∈ s.definitions.rows, r.scheduleId = a.scheduleId := by
      rw [hrecords] at ha
      rcases List.mem_append.mp ha with ha | ha
      · exact hs.owned a ha
      · exact ⟨row, hrow, by rw [List.mem_singleton.mp ha, hid]⟩
    obtain ⟨r, hr, hrId⟩ := howner
    exact ⟨_, hstored r hr, (Table.key_replaced new r).trans hrId⟩
  · rcases Table.mem_replace? hreplace hr with rfl | ⟨hr, -⟩
    · exact hfingerprint
    · exact hs.fingerprint_eq r hr
  · by_cases hr' : r.scheduleId = new.scheduleId
    · have hrrow : r = row :=
        List.inj_on_of_nodup_map s.definitions.key_nodup hr hrow (hr'.trans hkey)
      refine ⟨_, hstored r hr, Table.key_replaced new r, ?_, ?_⟩ <;>
        rw [Table.replaced, if_pos hr', hrev, hrrow] <;> omega
    · refine ⟨r, ?_, rfl, Nat.le_refl _, fun _ => rfl⟩
      have hsame := hstored r hr
      rwa [Table.replaced, if_neg hr'] at hsame

end Writes

section Programs

variable {env : ScheduleServices} {s t : ScheduleStore}

theorem getScheduleDefinition_eq_some {id : String} {schedule : StoredBatchSchedule}
    (h : s.getScheduleDefinition id = some schedule) :
    ∃ row ∈ s.definitions.rows, row.schedule = schedule ∧ row.scheduleId = id := by
  obtain ⟨row, hrow, rfl⟩ := Option.map_eq_some_iff.mp h
  exact ⟨row, Table.mem_of_find? hrow, rfl, Table.key_of_find? hrow⟩

/-- A write that keeps the discipline where it commits is safe. -/
theorem safe_save {Q : Except SaveError StoredBatchSchedule → ScheduleStore → Prop}
    {schedule : StoredBatchSchedule} {record : BatchScheduleAuditRecord}
    (hwrite : ∀ t t', Continues s t → InStep env.py t →
      t.writeDefinitionWithAudit env.py schedule record = .ok t' →
      InStep env.py t' ∧ Continues t t')
    (hQ : ∀ r t, Q r t) :
    (trail env.py).Safe (ScheduleStore.perform env.py) Q
      (saveScheduleDefinitionWithAudit env.py schedule record) s := by
  intro t hst hInv _
  simp only [ScheduleStore.perform]
  cases hw : t.writeDefinitionWithAudit env.py schedule record with
  | ok t' =>
      obtain ⟨hInv', hLater⟩ := hwrite t t' hst hInv hw
      exact ⟨hInv', hLater, Discipline.safe_done fun _ _ _ => hQ _ _⟩
  | error error =>
      refine ⟨hInv, Continues.refl t, ?_⟩
      cases error with
      | duplicate existing =>
          change (trail env.py).Safe _ Q (if _ then _ else _) t
          split
          · exact Discipline.safe_done fun _ _ _ => hQ _ _
          · exact Discipline.safe_read (fun _ => rfl) fun _ _ _ =>
              Discipline.safe_done fun _ _ _ => hQ _ _
      | stale id => exact Discipline.safe_done fun _ _ _ => hQ _ _
      | integrity => exact Discipline.safe_done fun _ _ _ => hQ _ _

theorem create_keeps
    (hdump : ∀ options, (Json.obj options).finite = true → env.dumpOptions options = options)
    (call : CreateScheduleCall) (hfinite : (Json.obj call.request.options).finite = true)
    {t t' : ScheduleStore} (ht : InStep env.py t)
    (hw : t.writeDefinitionWithAudit env.py call.schedule (call.record env) = .ok t') :
    InStep env.py t' ∧ Continues t t' := by
  obtain ⟨haudit, ⟨hone, hinsert⟩ | ⟨hne, -⟩⟩ := writeDefinitionWithAudit_cases hw
  · refine ht.insert haudit hinsert hone rfl ?_
    simp only [replayAudit, CreateScheduleCall.record, hdump _ hfinite]
    rfl
  · exact absurd rfl hne

theorem update_keeps (call : UpdateScheduleCall) {row : ScheduleRow} {t t' : ScheduleStore}
    (ht : InStep env.py t)
    (hread : ∃ row' ∈ t.definitions.rows, row'.scheduleId = row.scheduleId ∧
      (row'.schedule.revision = row.schedule.revision → row' = row))
    (hpos : row.schedule.revision ≠ 0)
    (hw : t.writeDefinitionWithAudit env.py (call.updated env row.schedule)
      (call.record env row.schedule) = .ok t') :
    InStep env.py t' ∧ Continues t t' := by
  obtain ⟨haudit, ⟨hone, -⟩ | ⟨-, stored, hfind, hrev, hreplace⟩⟩ :=
    writeDefinitionWithAudit_cases hw
  · exact absurd (Nat.succ.inj hone) hpos
  · have hstored := Table.mem_of_find? hfind
    have hid : stored.scheduleId = row.scheduleId := Table.key_of_find? hfind
    obtain ⟨row', hrow', hid', hsame⟩ := hread
    have heq : stored = row := by
      have hrow : stored = row' :=
        List.inj_on_of_nodup_map t.definitions.key_nodup hstored hrow' (hid.trans hid'.symm)
      rw [hrow] at hrev
      rw [hrow, hsame hrev]
    subst heq
    refine ht.replace haudit hstored hreplace rfl rfl rfl rfl ?_
    simp only [replayAudit, UpdateScheduleCall.record, startsFrom_changes, if_true]
    rfl

theorem safe_createSchedule
    (hdump : ∀ options, (Json.obj options).finite = true → env.dumpOptions options = options)
    (call : CreateScheduleCall) (hfinite : (Json.obj call.request.options).finite = true) :
    (trail env.py).Safe (ScheduleStore.perform env.py) (fun _ _ => True)
      (createSchedule env call) s := by
  unfold createSchedule
  split
  · exact Discipline.safe_end
  · refine Discipline.safe_read (fun _ => rfl) fun t _ ht => ?_
    split
    · exact Discipline.safe_end
    · split
      · exact Discipline.safe_end
      · refine Discipline.Safe.bind (Q := fun _ _ => True)
          (safe_save (fun u u' _ hu hw => create_keeps hdump call hfinite hu hw) fun _ _ => trivial)
          ht fun r u _ _ _ => ?_
        split
        · exact Discipline.safe_end
        · refine Discipline.safe_read (fun _ => rfl) fun v _ _ => ?_
          split
          · split <;> exact Discipline.safe_end
          · exact Discipline.safe_end
        · exact Discipline.safe_end

theorem safe_updateSchedule (call : UpdateScheduleCall) :
    (trail env.py).Safe (ScheduleStore.perform env.py) (fun _ _ => True)
      (updateSchedule env call) s := by
  unfold updateSchedule
  split
  · exact Discipline.safe_end
  · refine Discipline.safe_read (fun _ => rfl) fun t _ ht => ?_
    split
    · exact Discipline.safe_end
    · rename_i existing hfound
      obtain ⟨row, hrow, rfl, -⟩ := getScheduleDefinition_eq_some hfound
      split
      · exact Discipline.safe_end
      · split
        · exact Discipline.safe_end
        · split
          · exact Discipline.safe_end
          · have hpos : row.schedule.revision ≠ 0 := by
              rw [(ht.audited row hrow).revision_eq]
              have hne := ne_nil_of_replayAudits (ht.audited row hrow).replay_eq
              exact fun h => hne (List.length_eq_zero_iff.mp h)
            refine Discipline.Safe.bind (Q := fun _ _ => True)
              (safe_save (fun u u' htu hu hw => ?_) fun _ _ => trivial) ht fun r u _ _ _ => ?_
            · obtain ⟨row', hrow', hid', -, hsame⟩ := htu row hrow
              exact update_keeps call hu ⟨row', hrow', hid', hsame⟩ hpos hw
            · split <;> exact Discipline.safe_end

theorem safe_request
    (hdump : ∀ options, (Json.obj options).finite = true → env.dumpOptions options = options)
    (request : ScheduleRequest)
    (hfinite : ∀ call, request = .create call → (Json.obj call.request.options).finite = true) :
    (trail env.py).Safe (ScheduleStore.perform env.py) (fun _ _ => True)
      (request.program env) s := by
  cases request with
  | create call => exact safe_createSchedule hdump call (hfinite call rfl)
  | update call => exact safe_updateSchedule call

end Programs

section Runs

variable {env : ScheduleServices}

/-- The revision of a schedule. -/
def ScheduleStore.revisionOf (s : ScheduleStore) (scheduleId : String) : Option Nat :=
  (s.getScheduleDefinition scheduleId).map (·.revision)

/-- What holds after a run of requests: every schedule is the outcome of its audit trail, enabled
schedules have distinct fingerprints, and an update that has read another revision than the stored
one is refused and changes nothing. -/
structure Accountable (env : ScheduleServices) (events : List (Event ScheduleRequest)) :
    Prop where
  audited : ∀ row ∈ (run (scheduleStep env) .empty events).store.definitions.rows,
    Audited (run (scheduleStep env) .empty events).store row
  distinct : ∀ row ∈ (run (scheduleStep env) .empty events).store.definitions.rows,
    ∀ row' ∈ (run (scheduleStep env) .empty events).store.definitions.rows,
    row.schedule.enabled = true → row'.schedule.enabled = true →
    row.schedule.fingerprint env.py = row'.schedule.fingerprint env.py → row = row'
  refused : ∀ before n between call, events = before ++ .advance n :: between →
    (run (scheduleStep env) .empty before).pool[n]? = some (updateSchedule env call) →
    (∀ e ∈ between, e ≠ .advance n) →
    (run (scheduleStep env) .empty events).store.revisionOf call.scheduleId ≠
      (run (scheduleStep env) .empty before).store.revisionOf call.scheduleId →
    let writer := (run (scheduleStep env) .empty events).pool[n]?
    let after := scheduleStep env (run (scheduleStep env) .empty events) (.advance n)
    after.store = (run (scheduleStep env) .empty events).store ∧
      ((∃ result, writer = some (.done result)) ∨
        after.pool[n]? = some (.done (.error (.refused .updateConflict))))

/-- No create request of the run states an option that is not finite. -/
def FiniteOptions (events : List (Event ScheduleRequest)) : Prop :=
  ∀ call, .start (.create call) ∈ events → (Json.obj call.request.options).finite = true

theorem FiniteOptions.append_left {before after : List (Event ScheduleRequest)}
    (h : FiniteOptions (before ++ after)) : FiniteOptions before :=
  fun call hcall => h call (List.mem_append_left after hcall)

theorem inStep_empty (py : Runtime) : InStep py ScheduleStore.empty :=
  ⟨fun _ h => absurd h List.not_mem_nil, fun _ h => absurd h List.not_mem_nil,
    fun _ h => absurd h List.not_mem_nil⟩

/-- Definitions and audit trail agree after every run. -/
theorem inStep_run
    (hdump : ∀ options, (Json.obj options).finite = true → env.dumpOptions options = options)
    (events : List (Event ScheduleRequest)) (hfinite : FiniteOptions events) :
    InStep env.py (run (scheduleStep env) .empty events).store := by
  have hallowed : Along (scheduleStep env)
      (fun c e => c.Permitted (trail env.py).Allowed e) .empty events := by
    refine along_of_forall fun e _ c => ?_
    cases e with
    | start label => trivial
    | advance n => exact fun _ _ _ => trivial
  exact ((Discipline.governs_initial (inStep_empty env.py)).run
    (fun request hrequest _ _ => safe_request hdump request fun call hcall =>
      hfinite call (hcall ▸ hrequest)) hallowed).1.inv

/-- The fingerprints of enabled schedules are distinct where the index column is right. -/
theorem InStep.distinct {s : ScheduleStore} (hs : InStep env.py s) {row row' : ScheduleRow}
    (hrow : row ∈ s.definitions.rows) (hrow' : row' ∈ s.definitions.rows)
    (he : row.schedule.enabled = true) (he' : row'.schedule.enabled = true)
    (h : row.schedule.fingerprint env.py = row'.schedule.fingerprint env.py) : row = row' := by
  refine List.inj_on_of_nodup_map s.definitions.index_nodup hrow hrow' ?_
  simp only [ScheduleRow.enabledFingerprint, he, he', if_true, hs.fingerprint_eq row hrow,
    hs.fingerprint_eq row' hrow', h]

theorem updateSchedule_after_read {call : UpdateScheduleCall} {op : ScheduleCall}
    {next : op.Result → ScheduleProgram (Except ScheduleFailure StoredBatchSchedule)}
    (h : updateSchedule env call = .call op next) (s : ScheduleStore) :
    (s.perform env.py op).1 = s ∧
      ((∃ result, next (s.perform env.py op).2 = .done result) ∨
        ∃ existing, s.getScheduleDefinition call.scheduleId = some existing ∧
          ∃ rest, next (s.perform env.py op).2 =
              .call (.writeDefinitionWithAudit (call.updated env existing)
                (call.record env existing)) rest ∧
            ∀ id, rest (.error (.stale id)) = .done (.error (.refused .updateConflict))) := by
  unfold updateSchedule at h
  split at h
  · cases h
  · cases h
    refine ⟨rfl, ?_⟩
    cases hfound : s.getScheduleDefinition call.scheduleId with
    | none =>
        simp only [ScheduleStore.perform, hfound]
        exact Or.inl ⟨_, rfl⟩
    | some existing =>
        simp only [ScheduleStore.perform, hfound]
        split
        · exact Or.inl ⟨_, rfl⟩
        · split
          · exact Or.inl ⟨_, rfl⟩
          · split
            · exact Or.inl ⟨_, rfl⟩
            · exact Or.inr ⟨existing, rfl, _, rfl, fun _ => rfl⟩

/-- An update that was read at one revision and finds another is refused. -/
theorem write_refused {call : UpdateScheduleCall} {existing : StoredBatchSchedule}
    {s t : ScheduleStore} (hs : InStep env.py s)
    (hread : s.getScheduleDefinition call.scheduleId = some existing)
    (hstale : t.revisionOf call.scheduleId ≠ s.revisionOf call.scheduleId) :
    t.writeDefinitionWithAudit env.py (call.updated env existing) (call.record env existing) =
      .error (.stale existing.scheduleId) := by
  obtain ⟨row, hrow, rfl, hid⟩ := getScheduleDefinition_eq_some hread
  have hne := ne_nil_of_replayAudits (hs.audited row hrow).replay_eq
  have hpos : row.schedule.revision ≠ 0 := by
    rw [(hs.audited row hrow).revision_eq]
    exact fun h => hne (List.length_eq_zero_iff.mp h)
  refine writeDefinitionWithAudit_stale (fun h => hpos (Nat.succ.inj h)) fun stored hstored hrev => ?_
  have hfind : t.definitions.find? call.scheduleId = some stored := by rw [← hid]; exact hstored
  refine hstale ?_
  rw [ScheduleStore.revisionOf, ScheduleStore.revisionOf, hread, ScheduleStore.getScheduleDefinition,
    hfind]
  exact congrArg some hrev

/-- An update whose schedule has moved on since its read ends without a write. -/
theorem update_refused {c : ScheduleSystem} {n : Nat} {call : UpdateScheduleCall}
    {between : List (Event ScheduleRequest)} (hread : InStep env.py c.store)
    (hwriter : c.pool[n]? = some (updateSchedule env call))
    (hbetween : ∀ e ∈ between, e ≠ .advance n) {c' : ScheduleSystem}
    (hc' : c' = run (scheduleStep env) (scheduleStep env c (.advance n)) between)
    (hstale : c'.store.revisionOf call.scheduleId ≠ c.store.revisionOf call.scheduleId) :
    (scheduleStep env c' (.advance n)).store = c'.store ∧
      ((∃ result, c'.pool[n]? = some (.done result)) ∨
        (scheduleStep env c' (.advance n)).pool[n]? =
          some (.done (.error (.refused .updateConflict)))) := by
  have hended : ∀ result, c'.pool[n]? = some (.done result) →
      (scheduleStep env c' (.advance n)).store = c'.store :=
    fun result h => congrArg System.store (System.step_advance_done h)
  have hlt : n < c.pool.length := (List.getElem?_eq_some_iff.mp hwriter).1
  cases hprogram : updateSchedule env call with
  | done result =>
      rw [hprogram] at hwriter
      have hhere : c'.pool[n]? = some (.done result) := by
        rw [hc']
        refine System.getElem?_run_of_ne ?_ hbetween
        rw [scheduleStep, System.step_advance_done hwriter, hwriter]
      exact ⟨hended result hhere, Or.inl ⟨result, hhere⟩⟩
  | call op next =>
      rw [hprogram] at hwriter
      obtain ⟨-, hafter⟩ := updateSchedule_after_read hprogram c.store
      have hhere : c'.pool[n]? = some (next (c.store.perform env.py op).2) := by
        rw [hc']
        refine System.getElem?_run_of_ne ?_ hbetween
        rw [scheduleStep, System.step_advance_call hwriter]
        exact List.getElem?_set_self hlt
      rcases hafter with ⟨result, hdone⟩ | ⟨existing, hfound, rest, hcall, hrest⟩
      · rw [hdone] at hhere
        exact ⟨hended result hhere, Or.inl ⟨result, hhere⟩⟩
      · rw [hcall] at hhere
        have hwrite : c'.store.writeDefinitionWithAudit env.py (call.updated env existing)
            (call.record env existing) = .error (.stale existing.scheduleId) :=
          write_refused hread hfound hstale
        have hstep : scheduleStep env c' (.advance n) =
            ⟨c'.store, c'.pool.set n (.done (.error (.refused .updateConflict)))⟩ := by
          rw [scheduleStep, System.step_advance_call hhere]
          simp only [ScheduleStore.perform, hwrite, hrest]
        rw [hstep]
        exact ⟨rfl, Or.inr (List.getElem?_set_self (List.getElem?_eq_some_iff.mp hhere).1)⟩

/-- Services whose option dictionaries are compared and dumped as they are. -/
def plainServices : ScheduleServices where
  py := .verbatim
  sameOptions a b := a == b
  validateOrdering _ _ := none
  dumpOptions options := options

/-- The caller of the samples. -/
def advisor : ReportCallerContext :=
  { triggeredBy := "advisor", callerApplication := "gateway", tenantId := "T", region := "EMEA",
    correlationId := "c", traceId := "t" }

/-- A create, and two updates that both read revision one; the second write is refused. -/
def racingUpdates : List (Event ScheduleRequest) :=
  [ .start (.create ⟨{ cadence := .quarterEnd, portfolioIds := ["P1"] }, advisor, 0, "S", "A1"⟩),
    .advance 0, .advance 0,
    .start (.update ⟨"S", { cadence := some .monthlyEnd }, advisor, 86400000000, "A2"⟩),
    .start (.update ⟨"S", { enabled := some false }, advisor, 86400000001, "A3"⟩),
    .advance 1, .advance 2, .advance 1, .advance 2 ]

theorem finiteOptions_racingUpdates : FiniteOptions racingUpdates := by
  intro call hcall
  simp only [racingUpdates, List.mem_cons, Event.start.injEq, ScheduleRequest.create.injEq,
    List.not_mem_nil, reduceCtorEq, or_false] at hcall
  rw [hcall]
  decide

/-- Services that dump an option as null where it is not finite. -/
def nullingServices : ScheduleServices where
  py := .verbatim
  sameOptions a b := a == b
  validateOrdering _ _ := none
  dumpOptions options := options.map fun f => (f.1, if f.2.finite then f.2 else .null)

theorem dumpOptions_nullingServices {options : Fields}
    (h : (Json.obj options).finite = true) : nullingServices.dumpOptions options = options := by
  have hkept : ∀ f ∈ options, (f.1, if f.2.finite then f.2 else .null) = f := by
    intro f hf
    rw [if_pos (Json.finite_obj.mp h f hf)]
  exact (List.map_congr_left hkept).trans (List.map_id' options)

/-- A create with an option that is no number. -/
def createNan : List (Event ScheduleRequest) :=
  let request : BatchScheduleDefinitionCreateRequest :=
    { cadence := .quarterEnd, portfolioIds := ["P1"], options := [("threshold", .float "NaN")] }
  [.start (.create ⟨request, advisor, 0, "S", "A1"⟩), .advance 0, .advance 0]

end Runs

end LotusReport.Schedules
