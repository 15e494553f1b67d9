import LotusReport.Jobs.FileStep

/-!
# The ledger as a store of job files

A transaction reads the rows of a job from the tables, changes them, and
writes them back. A changed file keeps the identifiers of its rows and only
appends to its events, so writing it back is what the next reader of that job
finds, and no reader of another job notices.
-/

namespace LotusReport.Jobs

open Encoding Relational

namespace Ledger

/-- The status events of a job, in the order of their insertion. -/
def eventsOf (s : Ledger) (jobId : String) : List EventRow :=
  s.events.filter fun e => e.reportJobId == jobId

/-- The rows of a job. -/
def file? (s : Ledger) (jobId : String) : Option JobFile :=
  match s.jobs.find? jobId with
  | none => none
  | some job =>
      match s.requests.find? job.reportRequestId with
      | none => none
      | some request => some ⟨request, job, s.workItems.lookup? jobId, s.eventsOf jobId⟩

/-- The work-item table with the work item of a job written: updated when the job has one,
inserted when it has none. -/
def storeWork (workItems : Table WorkRow.workItemId WorkRow.reportJobId) :
    Option WorkRow → Table WorkRow.workItemId WorkRow.reportJobId
  | none => workItems
  | some w =>
      match workItems.lookup? w.reportJobId with
      | some _ => workItems.put w
      | none => (workItems.insert? w).getD workItems

/-- The ledger with the changed rows of a job. -/
def store (s : Ledger) (f : JobFile) : Ledger :=
  { s with
    jobs := s.jobs.put f.job
    workItems := storeWork s.workItems f.work
    events := s.events ++ f.events.drop (s.eventsOf f.job.reportJobId).length }

/-- The foreign keys of the schema. -/
structure Linked (s : Ledger) : Prop where
  request : ∀ job ∈ s.jobs.rows, ∃ r, s.requests.find? job.reportRequestId = some r
  work : ∀ w ∈ s.workItems.rows, ∃ job, s.jobs.find? w.reportJobId = some job
  source : ∀ e ∈ s.relationships.rows, ∃ job, s.jobs.find? e.sourceReportJobId = some job
  derived : ∀ e ∈ s.relationships.rows, ∃ job, s.jobs.find? e.derivedReportJobId = some job
  event : ∀ e ∈ s.events, ∃ job, s.jobs.find? e.reportJobId = some job

theorem linked_empty : Linked Ledger.empty := by
  constructor <;> intro x hx <;> cases hx

section File

variable {s : Ledger} {jobId : String} {f : JobFile}

theorem file?_eq_some_iff : s.file? jobId = some f ↔
    s.jobs.find? jobId = some f.job ∧ s.requests.find? f.job.reportRequestId = some f.request ∧
      f.work = s.workItems.lookup? jobId ∧ f.events = s.eventsOf jobId := by
  unfold file?
  constructor
  · intro h
    split at h
    · cases h
    · rename_i job hjob
      split at h
      · cases h
      · rename_i request hrequest
        cases h
        exact ⟨hjob, hrequest, rfl, rfl⟩
  · rintro ⟨hjob, hrequest, hwork, hevents⟩
    obtain ⟨request, job, work, events⟩ := f
    simp only at hjob hrequest hwork hevents
    subst hwork hevents
    simp [hjob, hrequest]

theorem exists_file {j : String} {p : JobFile → Bool} (h : (s.file? j).any p = true) :
    ∃ f, s.file? j = some f ∧ p f = true := by
  cases hf : s.file? j with
  | none =>
      rw [hf] at h
      cases h
  | some f =>
      rw [hf] at h
      exact ⟨f, rfl, h⟩

theorem jobId_of_file? (h : s.file? jobId = some f) : f.job.reportJobId = jobId :=
  Table.key_of_find? (file?_eq_some_iff.mp h).1

theorem workJobId_of_file? (h : s.file? jobId = some f) {w : WorkRow} (hw : f.work = some w) :
    w.reportJobId = jobId := by
  rw [(file?_eq_some_iff.mp h).2.2.1] at hw
  exact Table.index_of_lookup? hw

/-- Under the foreign keys every job has its rows. -/
theorem Linked.file?_isSome_iff (hs : Linked s) :
    (∃ f, s.file? jobId = some f) ↔ ∃ job, s.jobs.find? jobId = some job := by
  constructor
  · rintro ⟨f, hf⟩
    exact ⟨f.job, (file?_eq_some_iff.mp hf).1⟩
  · rintro ⟨job, hjob⟩
    obtain ⟨r, hr⟩ := hs.request job (Table.mem_of_find? hjob)
    exact ⟨⟨r, job, _, _⟩, file?_eq_some_iff.mpr ⟨hjob, hr, rfl, rfl⟩⟩

theorem Linked.file?_of_find? (hs : Linked s) {job : JobRow} (h : s.jobs.find? jobId = some job) :
    ∃ f, s.file? jobId = some f ∧ f.job = job := by
  obtain ⟨f, hf⟩ := hs.file?_isSome_iff.mpr ⟨job, h⟩
  have hjob := (file?_eq_some_iff.mp hf).1
  rw [h] at hjob
  exact ⟨f, hf, (Option.some.inj hjob).symm⟩

theorem Linked.file?_of_work (hs : Linked s) {w : WorkRow} (hw : w ∈ s.workItems.rows) :
    ∃ f, s.file? w.reportJobId = some f ∧ f.work = some w := by
  obtain ⟨job, hjob⟩ := hs.work w hw
  obtain ⟨f, hf, -⟩ := hs.file?_of_find? hjob
  refine ⟨f, hf, ?_⟩
  rw [(file?_eq_some_iff.mp hf).2.2.1]
  exact Table.lookup?_index hw

theorem eventsOf_eq_nil (hs : Linked s) (hnone : s.jobs.find? jobId = none) :
    s.eventsOf jobId = [] := by
  refine List.filter_eq_nil_iff.mpr fun e he hjob => ?_
  obtain ⟨job, hfound⟩ := hs.event e he
  rw [beq_iff_eq.mp hjob, hnone] at hfound
  cases hfound

theorem work_eq_none (hs : Linked s) (hnone : s.jobs.find? jobId = none) :
    s.workItems.lookup? jobId = none := by
  refine (Table.lookup?_eq_none_iff _ _).mpr fun w hw hjob => ?_
  obtain ⟨job, hfound⟩ := hs.work w hw
  rw [hjob, hnone] at hfound
  cases hfound

end File

end Ledger

/-- The events that a change appended, all of them the job's own. -/
def JobFile.Appended (f f' : JobFile) : Prop :=
  ∃ es, f'.events = f.events ++ es ∧ ∀ e ∈ es, e.reportJobId = f.job.reportJobId

/-- A file that differs from an earlier one by later writes to the same rows. -/
structure JobFile.Continues (f f' : JobFile) : Prop where
  request : f'.request = f.request
  job : f'.job.reportJobId = f.job.reportJobId
  requestId : f'.job.reportRequestId = f.job.reportRequestId
  work : ∀ w, f.work = some w → ∃ w', f'.work = some w' ∧ w'.workItemId = w.workItemId ∧
    w'.reportJobId = w.reportJobId
  newWork : f.work = none → ∀ w', f'.work = some w' → w'.reportJobId = f.job.reportJobId
  events : f.Appended f'

section Continues

variable {f f' : JobFile}

theorem JobFile.appended_nil (h : f'.events = f.events) : f.Appended f' :=
  ⟨[], by simp [h], by simp⟩

theorem JobFile.appended_one {e : EventRow} (h : f'.events = f.events ++ [e])
    (he : e.reportJobId = f.job.reportJobId) : f.Appended f' :=
  ⟨[e], h, fun x hx => by rw [List.mem_singleton.mp hx, he]⟩

theorem JobFile.Continues.refl (f : JobFile) : f.Continues f :=
  ⟨rfl, rfl, rfl, fun w hw => ⟨w, hw, rfl, rfl⟩,
    fun hnone w' hw' => absurd (hnone.symm.trans hw') (by simp), JobFile.appended_nil rfl⟩

/-- A write that touches neither the work item nor an identifier. -/
theorem JobFile.continues_of_job (hrequest : f'.request = f.request)
    (hjob : f'.job.reportJobId = f.job.reportJobId)
    (hid : f'.job.reportRequestId = f.job.reportRequestId) (hwork : f'.work = f.work)
    (hevents : f.Appended f') : f.Continues f' :=
  ⟨hrequest, hjob, hid, fun w hw => ⟨w, hwork.trans hw, rfl, rfl⟩,
    fun hnone w' hw' => absurd (hnone.symm.trans (hwork.symm.trans hw')) (by simp), hevents⟩

theorem JobFile.continues_of_work {w w' : WorkRow} (hw : f.work = some w)
    (hw' : f'.work = some w') (hid : w'.workItemId = w.workItemId)
    (howner : w'.reportJobId = w.reportJobId) (hrequest : f'.request = f.request)
    (hjob : f'.job.reportJobId = f.job.reportJobId)
    (hreq : f'.job.reportRequestId = f.job.reportRequestId) (hevents : f.Appended f') :
    f.Continues f' := by
  refine ⟨hrequest, hjob, hreq, fun w₀ hw₀ => ⟨w', hw', ?_⟩, fun hnone => ?_, hevents⟩
  · rw [hw] at hw₀
    cases hw₀
    exact ⟨hid, howner⟩
  · rw [hw] at hnone
    cases hnone

theorem FileStep.continues {e : Effect} (h : FileStep e f f') : f.Continues f' := by
  cases h with
  | record he | move _ _ _ _ he | cancel _ _ _ he | offer _ _ _ _ _ _ he | confirm _ _ _ he =>
      exact JobFile.continues_of_job rfl rfl rfl rfl (JobFile.appended_one rfl he.job)
  | reserve | archiveRequest | wait | schedule =>
      exact JobFile.continues_of_job rfl rfl rfl rfl (JobFile.appended_nil rfl)
  | park _ _ hw _ he | exhaustParked _ _ hw _ _ he | refuse _ _ hw he
  | exhaustFailed hw _ _ _ _ _ _ he =>
      exact JobFile.continues_of_work hw rfl rfl rfl rfl rfl rfl (JobFile.appended_one rfl he.job)
  | claim _ hw | claimRequired _ hw | complete hw | settle _ _ hw | defer hw | retry hw
  | exhaustTerminal hw | exhaustSettled _ _ hw | resume _ hw =>
      exact JobFile.continues_of_work hw rfl rfl rfl rfl rfl rfl (JobFile.appended_nil rfl)
  | enqueue hw _ hjob =>
      refine ⟨rfl, rfl, rfl, fun w₀ hw₀ => ?_, fun _ w' hw' => ?_, JobFile.appended_nil rfl⟩
      · rw [hw] at hw₀
        cases hw₀
      · cases hw'
        exact hjob

end Continues

namespace Ledger

section Store

variable {s : Ledger} {jobId : String} {f f' : JobFile}

/-- Writing back what was read changes nothing. -/
theorem store_self (hf : s.file? jobId = some f) : s.store f = s := by
  obtain ⟨hjob, -, hwork, hevents⟩ := file?_eq_some_iff.mp hf
  have hw : storeWork s.workItems f.work = s.workItems := by
    rw [hwork]
    cases hlookup : s.workItems.lookup? jobId with
    | none => rfl
    | some w =>
        have hrow := Table.mem_of_lookup? hlookup
        simp only [storeWork, Table.lookup?_index hrow]
        exact Table.put_self hrow
  simp [store, Table.put_self (Table.mem_of_find? hjob), hw, jobId_of_file? hf, hevents]

/-- A new work item has a new identifier. -/
def FreshWork (s : Ledger) (f f' : JobFile) : Prop :=
  f.work = none → ∀ w', f'.work = some w' → s.workItems.find? w'.workItemId = none

theorem lookup?_storeWork (hf : s.file? jobId = some f) (hc : f.Continues f')
    (hfresh : FreshWork s f f') (k : String) :
    (storeWork s.workItems f'.work).lookup? k =
      if jobId = k then f'.work else s.workItems.lookup? k := by
  have hwork := (file?_eq_some_iff.mp hf).2.2.1
  cases hw' : f'.work with
  | none =>
      have hnone : f.work = none := by
        cases hw : f.work with
        | none => rfl
        | some w =>
            obtain ⟨w', hsome, -⟩ := hc.work w hw
            rw [hw'] at hsome
            cases hsome
      rw [hwork] at hnone
      simp only [storeWork]
      split
      · rename_i hk
        rw [← hk, hnone]
      · rfl
  | some w' =>
      cases hw : f.work with
      | none =>
          have howner := hc.newWork hw w' hw'
          rw [jobId_of_file? hf] at howner
          have hlookup : s.workItems.lookup? w'.reportJobId = none := by
            rw [howner, ← hwork, hw]
          cases hins : s.workItems.insert? w' with
          | none =>
              have := (Table.insert?_eq_none_iff s.workItems w').mp hins
              simp [hfresh hw w' hw', hlookup] at this
          | some t =>
              simp only [storeWork, hlookup, hins, Option.getD_some]
              rw [Table.lookup?_insert? hins, howner]
      | some w =>
          obtain ⟨w₁, hsome, hid, howner⟩ := hc.work w hw
          rw [hw'] at hsome
          cases hsome
          have hlookup : s.workItems.lookup? jobId = some w := hwork.symm.trans hw
          have hrow := Table.mem_of_lookup? hlookup
          have hjob := Table.index_of_lookup? hlookup
          simp only [storeWork, howner, hjob, hlookup]
          rw [Table.lookup?_put hrow hid howner, hjob]

theorem eventsOf_store (hf : s.file? jobId = some f) (hc : f.Continues f') (k : String) :
    (s.store f').eventsOf k = if jobId = k then f'.events else s.eventsOf k := by
  obtain ⟨es, hes, hown⟩ := hc.events
  have hid := jobId_of_file? hf
  have hold := (file?_eq_some_iff.mp hf).2.2.2
  have hdrop : f'.events.drop (s.eventsOf f'.job.reportJobId).length = es := by
    rw [hc.job, hid, ← hold, hes, List.drop_left]
  have hnew : (s.store f').eventsOf k =
      s.eventsOf k ++ es.filter (fun e => e.reportJobId == k) := by
    have hevents : (s.store f').events = s.events ++ es := congrArg (s.events ++ ·) hdrop
    simp only [eventsOf, hevents, List.filter_append]
  rw [hnew]
  split
  · rename_i hk
    have hall : es.filter (fun e => e.reportJobId == k) = es :=
      List.filter_eq_self.mpr fun e he => by simp [hown e he, hid, hk]
    rw [hall, ← hk, ← hold, hes]
  · rename_i hk
    have hnone : es.filter (fun e => e.reportJobId == k) = [] :=
      List.filter_eq_nil_iff.mpr fun e he => by simp [hown e he, hid, hk]
    rw [hnone, List.append_nil]

/-- Writing a file back changes the row of that job, and of no other. -/
theorem find?_store (hf : s.file? jobId = some f) (hid : f'.job.reportJobId = f.job.reportJobId)
    (k : String) :
    (s.store f').jobs.find? k = if jobId = k then some f'.job else s.jobs.find? k := by
  simp only [store]
  rw [Table.find?_put (Table.mem_of_find? (file?_eq_some_iff.mp hf).1) hid hid, jobId_of_file? hf]

/-- Writing a changed file back changes what is read of that job, and of no other. -/
theorem file?_store (hf : s.file? jobId = some f) (hc : f.Continues f')
    (hfresh : FreshWork s f f') (k : String) :
    (s.store f').file? k = if jobId = k then some f' else s.file? k := by
  obtain ⟨hjob, hrequest, hwork, hevents⟩ := file?_eq_some_iff.mp hf
  have hjobs := find?_store hf hc.job
  split
  · rename_i hk
    subst hk
    refine file?_eq_some_iff.mpr ⟨by simp [hjobs], ?_, ?_, ?_⟩
    · rw [hc.requestId, hc.request]
      exact hrequest
    · have := lookup?_storeWork hf hc hfresh jobId
      simpa [store] using this.symm
    · have := eventsOf_store hf hc jobId
      simpa using this.symm
  · rename_i hk
    have hl := lookup?_storeWork hf hc hfresh k
    have he := eventsOf_store hf hc k
    have hj := hjobs k
    rw [if_neg hk] at hl he hj
    have hw : (s.store f').workItems.lookup? k = s.workItems.lookup? k := hl
    unfold file?
    rw [hj, hw, he]
    rfl

@[simp] theorem store_requests (s : Ledger) (f : JobFile) : (s.store f).requests = s.requests := rfl

@[simp] theorem store_relationships (s : Ledger) (f : JobFile) :
    (s.store f).relationships = s.relationships := rfl

theorem mem_storeWork {workItems : Table WorkRow.workItemId WorkRow.reportJobId}
    {work : Option WorkRow} {w : WorkRow} (h : w ∈ (storeWork workItems work).rows) :
    w ∈ workItems.rows ∨ work = some w := by
  cases work with
  | none => exact Or.inl h
  | some w' =>
      simp only [storeWork] at h
      split at h
      · simp only [Table.rows_put, List.mem_map, Table.written] at h
        obtain ⟨r, hr, heq⟩ := h
        split at heq
        · exact Or.inr (congrArg some heq)
        · exact Or.inl (heq ▸ hr)
      · cases hins : workItems.insert? w' with
        | none =>
            rw [hins] at h
            exact Or.inl h
        | some t =>
            rw [hins, Option.getD_some] at h
            rw [((Table.insert?_eq_some_iff _ _ _).mp hins).2.2, List.mem_append,
              List.mem_singleton] at h
            exact h.imp_right fun heq => congrArg some heq.symm

theorem linked_store (hs : Linked s) (hf : s.file? jobId = some f) (hc : f.Continues f') :
    Linked (s.store f') := by
  obtain ⟨hjob, hrequest, hwork, hevents⟩ := file?_eq_some_iff.mp hf
  have hid := jobId_of_file? hf
  have hfind := find?_store hf hc.job
  have hkept : ∀ {k}, (∃ job, s.jobs.find? k = some job) →
      ∃ job, (s.store f').jobs.find? k = some job := by
    rintro k ⟨job, hk⟩
    rw [hfind]
    split
    · exact ⟨_, rfl⟩
    · exact ⟨job, hk⟩
  constructor
  · intro job hmem
    simp only [store, Table.rows_put, List.mem_map, Table.written] at hmem
    obtain ⟨r, hr, heq⟩ := hmem
    split at heq
    · subst heq
      exact ⟨f.request, by rw [store_requests, hc.requestId, hrequest]⟩
    · subst heq
      exact hs.request r hr
  · intro w hmem
    rcases mem_storeWork hmem with hold | hnew
    · exact hkept (hs.work w hold)
    · refine hkept ?_
      cases hw : f.work with
      | none => exact ⟨f.job, by rw [hc.newWork hw w hnew, hid, hjob]⟩
      | some w₀ =>
          obtain ⟨w₁, hsome, -, howner⟩ := hc.work w₀ hw
          rw [hnew] at hsome
          cases hsome
          exact ⟨f.job, by rw [howner, workJobId_of_file? hf hw, hjob]⟩
  · exact fun e he => hkept (hs.source e he)
  · exact fun e he => hkept (hs.derived e he)
  · intro e he
    obtain ⟨es, hes, hown⟩ := hc.events
    simp only [store, List.mem_append] at he
    rcases he with he | he
    · exact hkept (hs.event e he)
    · rw [hc.job, hid, ← hevents, hes, List.drop_left] at he
      exact hkept ⟨f.job, by rw [hown e he, hid, hjob]⟩

end Store

end Ledger

end LotusReport.Jobs
