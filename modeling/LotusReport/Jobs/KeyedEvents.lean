import LotusReport.Jobs.Refinement

/-!
# Keyed job events

`append_job_event` looks for an event under the key as the caller wrote it, and
stores the event under the stripped key. A key with white space around it is
therefore found only once it has lost the space on its way.
-/

namespace LotusReport.Jobs

open Encoding Fallible Relational StateMachine JobFile

section Statement

/-- The arguments of `append_job_event` with `skip_if_idempotency_key_exists`. -/
structure KeyedAppend where
  eventType : String
  message : String
  eventPayload : Fields
  eventIdempotencyKey : Option String
  context : CallContext

/-- The call on a job. -/
def KeyedAppend.call (jobId : String) (c : KeyedAppend) : Call :=
  .ledger (.appendJobEvent jobId c.eventType c.message c.eventPayload c.eventIdempotencyKey true
    c.context)

/-- What the call returns, with the ledger it leaves. -/
def Ledger.appendKeyed (s : Ledger) (jobId : String) (c : KeyedAppend) :
    Except LedgerError (Bool × Ledger) :=
  s.onJob jobId .jobNotFound fun f =>
    f.appendJobEvent c.eventType c.message c.eventPayload c.eventIdempotencyKey true c.context

/-- The ledger after the call. -/
def Ledger.stepKeyed (d : Deployment) (jobId : String) (s : Ledger) (c : KeyedAppend) : Ledger :=
  s.step d (c.call jobId)

/-- The job has an event under the key. -/
def Ledger.HasKey (s : Ledger) (jobId key : String) : Prop :=
  ∃ e ∈ s.eventsOf jobId, e.eventIdempotencyKey = some key

/-- The number of events of the job under a key. -/
def Ledger.keyCount (s : Ledger) (jobId key : String) : Nat :=
  (s.eventsOf jobId).countP fun e => e.eventIdempotencyKey == some key

/-- Each normalized key gets one event, and the answer of a call says whether there was one. -/
structure AppendedOnce (d : Deployment) (s : Ledger) (jobId : String)
    (appends : List KeyedAppend) : Prop where
  once : ∀ key, (run (Ledger.stepKeyed d jobId) s appends).keyCount jobId key ≤
    max 1 (s.keyCount jobId key)
  answered : ∀ before c after, appends = before ++ c :: after → ∀ appended t,
    (run (Ledger.stepKeyed d jobId) s before).appendKeyed jobId c = .ok (appended, t) →
      (appended = false ↔ ∃ key, normalizedEventIdempotencyKey c.eventIdempotencyKey = some key ∧
        (run (Ledger.stepKeyed d jobId) s before).HasKey jobId key) ∧
      (appended = false → t.events = (run (Ledger.stepKeyed d jobId) s before).events)

/-- A key that the contract accepts for the job is stripped, or the job has no event under its
stripped form. -/
def StrippedOrNew (jobId : String) (s : Ledger) (c : KeyedAppend) : Prop :=
  ∀ f, s.file? jobId = some f →
    (buildReportStatusEventContract c.eventType (some f.job.status) f.job.status c.eventPayload
      c.eventIdempotencyKey).isOk = true →
    ∀ key, c.eventIdempotencyKey = some key → strip key = key ∨ ¬ s.HasKey jobId (strip key)

end Statement

section Normal

variable {d : Deployment} {s : Ledger} {jobId : String} {f f' : JobFile} {e : Effect}

/-- The rows are linked, and events are stored under normalized keys. -/
structure KeysNormal (s : Ledger) : Prop where
  linked : s.Linked
  keys : ∀ jobId f, s.file? jobId = some f → ∀ e ∈ f.events, KeyNormal e

theorem FileStep.keyNormal (h : FileStep e f f') (hf : ∀ x ∈ f.events, KeyNormal x) :
    ∀ x ∈ f'.events, KeyNormal x := by
  have hone : ∀ {y : EventRow}, KeyNormal y → ∀ x ∈ f.events ++ [y], KeyNormal x := by
    intro y hy x hx
    rcases List.mem_append.mp hx with hold | hnew
    · exact hf x hold
    · rw [List.mem_singleton.mp hnew]
      exact hy
  cases h with
  | record he | move _ _ _ _ he | cancel _ _ _ he | park _ _ _ _ he | exhaustParked _ _ _ _ _ he
  | exhaustFailed _ _ _ _ _ _ _ he | offer _ _ _ _ _ _ he | refuse _ _ _ he | confirm _ _ _ he =>
      exact hone he.key
  | _ => exact hf

theorem KeysNormal.step (hs : KeysNormal s) (c : Call) : KeysNormal (s.step d c) := by
  refine ⟨Ledger.linked_step d s c hs.linked, ?_⟩
  intro jobId f' hf'
  rcases Ledger.file_of_step hs.linked c hf' with ⟨f, hf, hrun⟩ | ⟨-, hopened⟩
  · exact hrun.invariant (fun e g g' _ hstep => hstep.keyNormal) (hs.keys jobId f hf)
  · exact hopened.keys

theorem keysNormal_empty : KeysNormal .empty := by
  refine ⟨Ledger.linked_empty, ?_⟩
  intro jobId f hf
  cases hf

theorem KeysNormal.run (hs : KeysNormal s) (appends : List KeyedAppend) :
    KeysNormal (run (Ledger.stepKeyed d jobId) s appends) :=
  run_induction (fun _ c hs => hs.step (c.call jobId)) hs appends

end Normal

section Append

variable {d : Deployment} {s t : Ledger} {jobId : String} {f : JobFile} {c : KeyedAppend}
  {appended : Bool}

theorem stepKeyed_eq (d : Deployment) (s : Ledger) (jobId : String) (c : KeyedAppend) :
    s.stepKeyed d jobId c = match s.appendKeyed jobId c with
      | .ok (_, t) => t
      | .error _ => s := by
  simp only [Ledger.stepKeyed, KeyedAppend.call, Ledger.step, Call.perform, LedgerCall.perform,
    Ledger.appendKeyed, bind, Except.bind, pure, Except.pure]
  split <;> rename_i h <;> split at h <;> simp_all

theorem isOk_of_appendStatusEvent {f f' : JobFile} {fromStatus : Option ReportJobStatus}
    {toStatus : ReportJobStatus} {eventType : String} {message : Option String}
    {eventPayload : Fields} {key : Option String}
    {actor correlationId traceId : String} {createdAt : Instant}
    (h : f.appendStatusEvent fromStatus toStatus eventType message eventPayload key actor
      correlationId traceId createdAt = .ok f') :
    (buildReportStatusEventContract eventType fromStatus toStatus eventPayload key).isOk = true := by
  unfold JobFile.appendStatusEvent at h
  split at h
  · cases h
  · rename_i hcontract
    rw [hcontract]
    rfl

/-- What a call that returns has done: it found the key as it was written, or it stored an event
under the normalized key. -/
theorem appendKeyed_eq_ok (h : s.appendKeyed jobId c = .ok (appended, t)) :
    ∃ f, s.file? jobId = some f ∧
      ((∃ key, c.eventIdempotencyKey = some key ∧ key ≠ "" ∧ s.HasKey jobId key ∧
          appended = false ∧ t = s) ∨
        (buildReportStatusEventContract c.eventType (some f.job.status) f.job.status c.eventPayload
          c.eventIdempotencyKey).isOk = true ∧
        (∀ key, c.eventIdempotencyKey = some key → key ≠ "" → ¬ s.HasKey jobId key) ∧
          appended = true ∧ ∃ e : EventRow, t.eventsOf jobId = s.eventsOf jobId ++ [e] ∧
            e.eventIdempotencyKey = normalizedEventIdempotencyKey c.eventIdempotencyKey) := by
  obtain ⟨f, f', hf, hop, rfl⟩ := Ledger.onJob_eq_ok h
  have hevents := (Ledger.file?_eq_some_iff.mp hf).2.2.2
  refine ⟨f, hf, ?_⟩
  unfold JobFile.appendJobEvent at hop
  split at hop
  · rename_i hskip
    cases hop
    simp only [Bool.true_and, Bool.and_eq_true, List.any_eq_true, beq_iff_eq] at hskip
    obtain ⟨hpresent, x, hx, hkey⟩ := hskip
    cases hsome : c.eventIdempotencyKey with
    | none =>
        rw [hsome] at hpresent
        cases hpresent
    | some key =>
        have hne : key ≠ "" := by simpa [hsome, present] using hpresent
        refine Or.inl ⟨key, rfl, hne, ⟨x, hevents ▸ hx, hkey.trans hsome⟩, rfl, ?_⟩
        exact Ledger.store_self hf
  · rename_i hnew
    obtain ⟨f₁, happend, hlast⟩ := bind_eq_ok.mp hop
    cases hlast
    obtain ⟨e, rfl, hjob, hsource, htarget, hkey⟩ := appendStatusEvent_eq_ok happend
    refine Or.inr ⟨isOk_of_appendStatusEvent happend, ?_, rfl, e, ?_, hkey⟩
    · rintro key hsome hne ⟨x, hx, hxkey⟩
      apply hnew
      simp only [Bool.true_and, Bool.and_eq_true, List.any_eq_true, beq_iff_eq]
      refine ⟨by simp [hsome, present, hne], x, hevents ▸ hx, ?_⟩
      rw [hxkey, hsome]
    · have hstep : FileStep .recorded f { f with events := f.events ++ [e] } :=
        .record ⟨hjob, hsource, htarget, keyNormal_of_eq hkey⟩
      rw [Ledger.eventsOf_store hf hstep.continues, if_pos rfl, ← hevents]

theorem appendKeyed_of_free (hf : s.file? jobId = some f)
    (haccepted : (buildReportStatusEventContract c.eventType (some f.job.status) f.job.status
      c.eventPayload c.eventIdempotencyKey).isOk = true)
    (hfree : ∀ key, c.eventIdempotencyKey = some key → key ≠ "" → ¬ s.HasKey jobId key) :
    ∃ t, s.appendKeyed jobId c = .ok (true, t) := by
  obtain ⟨contract, hcontract⟩ := isOk_eq_true.mp haccepted
  have hevents := (Ledger.file?_eq_some_iff.mp hf).2.2.2
  have hnew : (true && present c.eventIdempotencyKey && f.events.any fun e =>
      e.eventIdempotencyKey == c.eventIdempotencyKey) = false := by
    rw [← Bool.not_eq_true, Bool.true_and, Bool.and_eq_true, List.any_eq_true]
    rintro ⟨hpresent, x, hx, hkey⟩
    cases hsome : c.eventIdempotencyKey with
    | none =>
        rw [hsome] at hpresent
        cases hpresent
    | some key =>
        have hne : key ≠ "" := by simpa [hsome, present] using hpresent
        exact hfree key hsome hne ⟨x, hevents ▸ hx, (beq_iff_eq.mp hkey).trans hsome⟩
  simp only [Ledger.appendKeyed, Ledger.onJob, hf, JobFile.appendJobEvent, hnew,
    JobFile.appendStatusEvent, hcontract, bind, Except.bind, pure, Except.pure, Bool.false_eq_true,
    if_false]
  exact ⟨_, rfl⟩

/-- Under a stripped key, or under a key that is new to the job, a call finds the event it looks
for. -/
theorem answered_iff (hs : KeysNormal s) (hc : StrippedOrNew jobId s c)
    (h : s.appendKeyed jobId c = .ok (appended, t)) :
    (appended = false ↔ ∃ key, normalizedEventIdempotencyKey c.eventIdempotencyKey = some key ∧
      s.HasKey jobId key) ∧ (appended = false → t.events = s.events) := by
  obtain ⟨f, hf, ⟨key, hsome, -, hheld, rfl, rfl⟩ | ⟨haccepted, hfree, rfl, -⟩⟩ := appendKeyed_eq_ok h
  · refine ⟨⟨fun _ => ⟨key, ?_, hheld⟩, fun _ => rfl⟩, fun _ => rfl⟩
    obtain ⟨x, hx, hkey⟩ := hheld
    rw [← (Ledger.file?_eq_some_iff.mp hf).2.2.2] at hx
    have hnormal := hs.keys jobId f hf x hx
    rw [KeyNormal, hkey] at hnormal
    rw [hsome, hnormal]
  · refine ⟨⟨by simp, ?_⟩, by simp⟩
    rintro ⟨key, hkey, hheld⟩
    cases hsome : c.eventIdempotencyKey with
    | none =>
        rw [hsome] at hkey
        cases hkey
    | some raw =>
        have hstrip : strip raw = key ∧ raw ≠ "" := by
          rw [hsome, normalizedEventIdempotencyKey] at hkey
          split at hkey
          · cases hkey
          · rename_i hblank
            cases hkey
            refine ⟨rfl, ?_⟩
            rintro rfl
            exact hblank rfl
        rcases hc f hf haccepted raw hsome with hstripped | hnew
        · rw [hstripped] at hstrip
          exact (hfree raw hsome hstrip.2 (hstrip.1 ▸ hheld)).elim
        · exact (hnew (hstrip.1 ▸ hheld)).elim

/-- A call that finds the event it looks for stores no second one under a key. -/
theorem keyCount_stepKeyed (hs : KeysNormal s) (hc : StrippedOrNew jobId s c) (key : String) :
    (s.stepKeyed d jobId c).keyCount jobId key ≤ max 1 (s.keyCount jobId key) := by
  rw [stepKeyed_eq]
  cases happend : s.appendKeyed jobId c with
  | error => exact le_max_right _ _
  | ok result =>
      obtain ⟨appended, t⟩ := result
      have hanswer := (answered_iff hs hc happend).1
      obtain ⟨f, -, ⟨-, -, -, -, -, rfl⟩ | ⟨-, -, rfl, e, hevents, hkey⟩⟩ := appendKeyed_eq_ok happend
      · exact le_max_right _ _
      · simp only [Ledger.keyCount, hevents, List.countP_append, List.countP_singleton]
        by_cases hsame : e.eventIdempotencyKey = some key
        · have hzero : (s.eventsOf jobId).countP (fun e => e.eventIdempotencyKey == some key) = 0 := by
            rw [List.countP_eq_zero]
            intro x hx hheld
            have hfalse := hanswer.mpr ⟨key, hkey ▸ hsame, x, hx, beq_iff_eq.mp hheld⟩
            cases hfalse
          simp [hzero, hsame]
        · simp [hsame]

theorem strippedOrNew_of_answered (hs : KeysNormal s)
    (hanswered : ∀ appended t, s.appendKeyed jobId c = .ok (appended, t) →
      (appended = false ↔ ∃ key, normalizedEventIdempotencyKey c.eventIdempotencyKey = some key ∧
        s.HasKey jobId key)) : StrippedOrNew jobId s c := by
  intro f hf haccepted key hsome
  by_contra hnot
  push Not at hnot
  obtain ⟨hstrip, hheld⟩ := hnot
  -- the key as it is written is under no event, so the call appends
  have hfree : ¬ s.HasKey jobId key := by
    rintro ⟨x, hx, hkey⟩
    rw [← (Ledger.file?_eq_some_iff.mp hf).2.2.2] at hx
    have hnormal := hs.keys jobId f hf x hx
    rw [KeyNormal, hkey, normalizedEventIdempotencyKey] at hnormal
    split at hnormal
    · cases hnormal
    · exact hstrip (Option.some.inj hnormal)
  obtain ⟨t, happend⟩ := appendKeyed_of_free hf haccepted fun other hother _ => by
    rw [hsome, Option.some.injEq] at hother
    exact hother ▸ hfree
  have hne : strip key ≠ "" := by
    intro hblank
    obtain ⟨x, hx, hkey⟩ := hheld
    rw [← (Ledger.file?_eq_some_iff.mp hf).2.2.2] at hx
    have hnormal := hs.keys jobId f hf x hx
    rw [KeyNormal, hkey, hblank] at hnormal
    cases hnormal
  have hfalse := (hanswered true t happend).mpr
    ⟨strip key, by rw [hsome, normalizedEventIdempotencyKey, if_neg hne], hheld⟩
  cases hfalse

end Append

/-- Keyed appends keep to one event per normalized key exactly if every key is stripped, or new to
the job when it comes. -/
theorem appendedOnce_iff (d : Deployment) (history : List Call) (jobId : String)
    (appends : List KeyedAppend) :
    AppendedOnce d (run (Ledger.step d) .empty history) jobId appends ↔
      Along (Ledger.stepKeyed d jobId) (StrippedOrNew jobId) (run (Ledger.step d) .empty history)
        appends := by
  have hs : KeysNormal (run (Ledger.step d) .empty history) :=
    run_induction (fun _ c hs => hs.step c) keysNormal_empty history
  constructor
  · intro honce
    apply along_iff.mpr
    intro before c after hsplit
    apply strippedOrNew_of_answered (hs.run before)
    exact fun appended t happend => (honce.answered before c after hsplit appended t happend).1
  · intro halong
    constructor
    · intro key
      induction appends using List.reverseRecOn with
      | nil => exact le_max_right _ _
      | append_singleton appends c ih =>
          obtain ⟨hbefore, hlast⟩ := along_append.mp halong
          have hcount := keyCount_stepKeyed (d := d) (hs.run appends) hlast.1 key
          have hold := ih hbefore
          rw [run_append]
          exact hcount.trans (max_le (le_max_left _ _) hold)
    · intro before c after hsplit appended t happend
      exact answered_iff (hs.run before) (along_iff.mp halong before c after hsplit) happend

/-- An event that is recorded under a document id. -/
def sampleAppend (key : String) : KeyedAppend where
  eventType := "job_archive_note"
  message := "Archive note recorded."
  eventPayload := []
  eventIdempotencyKey := some key
  context := ⟨"advisor", "corr-1", "trace-1", none, 0⟩

theorem not_appendedOnce_spaced_key : ¬ ∀ (d : Deployment) (history : List Call) (jobId : String)
    (appends : List KeyedAppend),
      AppendedOnce d (run (Ledger.step d) .empty history) jobId appends := by
  intro h
  have honce := (h sampleDeployment [sampleSubmit none] "rjob_1"
    [sampleAppend " note-1", sampleAppend " note-1"]).once "note-1"
  have htwo : (run (Ledger.stepKeyed sampleDeployment "rjob_1")
      (run (Ledger.step sampleDeployment) .empty [sampleSubmit none])
      [sampleAppend " note-1", sampleAppend " note-1"]).keyCount "rjob_1" "note-1" = 2 := by
    decide +kernel
  have hnone : (run (Ledger.step sampleDeployment) .empty [sampleSubmit none]).keyCount "rjob_1"
      "note-1" = 0 := by decide +kernel
  rw [htwo, hnone] at honce
  exact absurd honce (by decide)

end LotusReport.Jobs
