import LotusReport.Jobs.CustodyProtection

/-!
# The status events as the history of a job

The events of a job form a chain from its acceptance to its current status.
Every operation that writes the status appends the event of the change, except
the disposition that records an archive request.
-/

namespace LotusReport.Jobs

open Encoding Fallible StateMachine JobFile

section Chain

/-- The status after the events, starting from a status or from nothing. -/
def statusAfter (previous : Option ReportJobStatus) (events : List EventRow) :
    Option ReportJobStatus :=
  events.foldl (fun _ e => some e.toStatus) previous

/-- Every event starts from the status in which the one before it ends. -/
def ChainedFrom : Option ReportJobStatus → List EventRow → Prop
  | _, [] => True
  | previous, e :: events => e.fromStatus = previous ∧ ChainedFrom (some e.toStatus) events

instance instDecidableChainedFrom : ∀ previous events, Decidable (ChainedFrom previous events)
  | _, [] => .isTrue trivial
  | _, e :: events =>
      have := instDecidableChainedFrom (some e.toStatus) events
      inferInstanceAs (Decidable (_ ∧ _))

theorem statusAfter_append (previous : Option ReportJobStatus) (events : List EventRow)
    (e : EventRow) : statusAfter previous (events ++ [e]) = some e.toStatus := by
  simp [statusAfter]

theorem chainedFrom_append {previous : Option ReportJobStatus} {events : List EventRow}
    {e : EventRow} : ChainedFrom previous (events ++ [e]) ↔
      ChainedFrom previous events ∧ e.fromStatus = statusAfter previous events := by
  induction events generalizing previous with
  | nil => simp [ChainedFrom, statusAfter]
  | cons e' events ih =>
      simp only [List.cons_append, ChainedFrom, ih, statusAfter, List.foldl_cons, and_assoc]

end Chain

/-- The events of the job are its history: a chain from acceptance to the current status. -/
structure History (f : JobFile) : Prop where
  chain : ChainedFrom none f.events
  last : statusAfter none f.events = some f.job.status

section Step

variable {e : Effect} {f f' : JobFile}

theorem history_of_opened (h : Opened f) : History f := by
  obtain ⟨ev, hevents, hfrom, hto⟩ := h.history
  refine ⟨?_, ?_⟩
  · rw [hevents]
    exact ⟨hfrom, trivial⟩
  · rw [hevents, h.status, ← hto]
    rfl

/-- A change that neither appends an event nor writes the status. -/
theorem History.of_eq (h : History f) (hevents : f'.events = f.events)
    (hstatus : f'.job.status = f.job.status) : History f' :=
  ⟨hevents ▸ h.chain, by rw [hevents, hstatus, h.last]⟩

theorem History.append (h : History f) {ev : EventRow} {target : ReportJobStatus}
    (he : Records f f.job.status target ev) (hevents : f'.events = f.events ++ [ev])
    (hstatus : f'.job.status = target) : History f' := by
  refine ⟨?_, ?_⟩
  · rw [hevents, chainedFrom_append]
    exact ⟨h.chain, by rw [he.source, h.last]⟩
  · rw [hevents, statusAfter_append, he.target, hstatus]

/-- Every change keeps the history, except an archive request that moves the status on. -/
theorem FileStep.history (h : FileStep e f f') (hlogged : e ≠ .archiveRequested)
    (hf : History f) : History f' := by
  cases h with
  | record he | park _ _ _ _ he | exhaustParked _ _ _ _ _ he | refuse _ _ _ he =>
      exact hf.append he rfl rfl
  | move _ _ _ _ he => exact hf.append he rfl rfl
  | cancel _ _ _ he => exact hf.append he rfl rfl
  | exhaustFailed _ _ _ hfailed _ _ _ he => exact hf.append he rfl hfailed
  | offer _ _ hready _ _ _ he => exact hf.append (hready ▸ he) rfl rfl
  | confirm _ _ _ he => exact hf.append he rfl rfl
  | archiveRequest => exact absurd rfl hlogged
  | _ => exact hf.of_eq rfl rfl

theorem history_requestedFile_iff (hf : History f) (requestId : String) :
    History (f.requestedFile requestId) ↔ f.job.status = .archiving := by
  constructor
  · intro h
    have hlast := h.last
    rw [show (f.requestedFile requestId).events = f.events from rfl, hf.last] at hlast
    exact Option.some.inj hlast
  · intro hstatus
    exact hf.of_eq rfl hstatus.symm

end Step

section Run

/-- The call is a disposition that moves a job to `archiving` without a status event. -/
def Unlogged (s : Ledger) : Call → Prop
  | .custody scope (.disposition fence response httpStatus now) =>
      scope.authority = .ok () ∧ ∃ f requestId, s.file? scope.jobId = some f ∧
        RecordsRequest f scope.tenantId scope.region fence response httpStatus now requestId ∧
        f.job.status ≠ .archiving
  | _ => False

/-- The events of every job are its history. -/
def Faithful (s : Ledger) : Prop := ∀ jobId f, s.file? jobId = some f → History f

variable {d : Deployment} {s : Ledger}

theorem faithful_of_changes {t : Ledger} {allowed : String → Effect → Prop}
    (hs : Faithful s) (h : s.Changes allowed t) (hlogged : ∀ j, ¬ allowed j .archiveRequested) :
    Faithful t := by
  intro jobId f' hf'
  rcases h.file jobId with ⟨-, hnone⟩ | ⟨f, f₁, hf, hf₁, hrun⟩
  · rw [hf'] at hnone
    cases hnone
  · rw [hf'] at hf₁
    cases hf₁
    exact hrun.invariant (fun e g g' he hstep hg =>
      hstep.history (fun heq => hlogged jobId (heq ▸ he)) hg) (hs jobId f hf)

theorem perform_disposition {scope : CustodyScope} {fence : CustodyLease}
    {response : Fields} {httpStatus : Int} {now : Instant} {f f' : JobFile}
    (hauthority : scope.authority = .ok ()) (hf : s.file? scope.jobId = some f)
    (h : f.disposition scope.tenantId scope.region fence response httpStatus now = .ok f') :
    s.step d (.custody scope (.disposition fence response httpStatus now)) = s.store f' := by
  have hperform : Call.perform d s (.custody scope (.disposition fence response httpStatus now)) =
      .ok (s.store f') := by
    refine bind_eq_ok.mpr ⟨(), hauthority, bind_eq_ok.mpr ⟨((), s.store f'), ?_, rfl⟩⟩
    unfold Ledger.onJob
    rw [hf]
    exact bind_eq_ok.mpr ⟨((), f'), unvalued_eq_ok.mpr h, rfl⟩
  unfold Ledger.step
  rw [hperform]

theorem faithful_store {jobId : String} {f f' : JobFile} {e : Effect} (hs : Faithful s)
    (hf : s.file? jobId = some f) (hstep : FileStep e f f') (hne : e ≠ .enqueued)
    (hhistory : History f') : Faithful (s.store f') := by
  intro k g hg
  rw [Ledger.file?_store hf hstep.continues (Ledger.freshWork_of_ne hstep hne s)] at hg
  split at hg
  · cases hg
    exact hhistory
  · exact hs k g hg

theorem faithful_disposition (hs : Faithful s) {scope : CustodyScope} {fence : CustodyLease}
    {response : Fields} {httpStatus : Int} {now : Instant}
    (hlogged : ¬ Unlogged s (.custody scope (.disposition fence response httpStatus now))) :
    Faithful (s.step d (.custody scope (.disposition fence response httpStatus now))) := by
  unfold Ledger.step
  split
  · rename_i t hperform
    obtain ⟨⟨⟩, hauthority, hauthorized⟩ := bind_eq_ok.mp hperform
    obtain ⟨⟨a, t'⟩, hjob, hlast⟩ := bind_eq_ok.mp hauthorized
    cases hlast
    unfold Ledger.onJob at hjob
    split at hjob
    · cases hjob
    · rename_i f hf
      obtain ⟨⟨b, f'⟩, hop, hlast⟩ := bind_eq_ok.mp hjob
      cases hlast
      have hold := hs _ f hf
      rcases (disposition_eq_ok (unvalued_eq_ok.mp hop)).2 with
        rfl | hstep | hstep | hstep | ⟨requestId, hrecords, rfl⟩
      · rwa [Ledger.store_self hf]
      · exact faithful_store hs hf hstep (by simp) (hstep.history (by simp) hold)
      · exact faithful_store hs hf hstep (by simp) (hstep.history (by simp) hold)
      · exact faithful_store hs hf hstep (by simp) (hstep.history (by simp) hold)
      · refine faithful_store hs hf hrecords.fileStep (by simp) ?_
        rw [history_requestedFile_iff hold]
        by_contra hstatus
        exact hlogged ⟨hauthority, f, requestId, hf, hrecords, hstatus⟩
  · exact hs

theorem not_faithful_of_unlogged (hs : Faithful s) {c : Call} (h : Unlogged s c) :
    ¬ Faithful (s.step d c) := by
  cases c with
  | ledger c => exact h.elim
  | custody scope c =>
      cases c with
      | disposition fence response httpStatus now =>
          obtain ⟨hauthority, f, requestId, hf, hrecords, hstatus⟩ := h
          rw [perform_disposition hauthority hf hrecords.disposition_eq]
          intro hfaithful
          have hfile := Ledger.file?_store hf hrecords.fileStep.continues
            (Ledger.freshWork_of_ne hrecords.fileStep (by simp) s) scope.jobId
          rw [if_pos rfl] at hfile
          exact hstatus ((history_requestedFile_iff (hs _ f hf) requestId).mp
            (hfaithful _ _ hfile))
      | _ => exact h.elim

theorem Call.not_allows_archiveRequested {c : Call}
    (hc : ∀ scope fence response httpStatus now,
      c ≠ .custody scope (.disposition fence response httpStatus now)) (jobId : String) :
    ¬ c.Allows jobId .archiveRequested := by
  cases c with
  | ledger c => cases c <;> simp [Call.Allows, LedgerCall.Allows]
  | custody scope c =>
      cases c with
      | disposition fence response httpStatus now =>
          exact absurd rfl (hc scope fence response httpStatus now)
      | _ => simp [Call.Allows, CustodyCall.Allows]

/-- A call keeps the histories exactly when it is not an unlogged disposition. -/
theorem faithful_step_iff (hlinked : s.Linked) (hs : Faithful s) (c : Call) :
    Faithful (s.step d c) ↔ ¬ Unlogged s c := by
  constructor
  · exact fun h hunlogged => not_faithful_of_unlogged hs hunlogged h
  · intro hlogged
    by_cases hc : ∃ scope fence response httpStatus now,
        c = .custody scope (.disposition fence response httpStatus now)
    · obtain ⟨scope, fence, response, httpStatus, now, rfl⟩ := hc
      exact faithful_disposition hs hlogged
    · simp only [not_exists] at hc
      rcases Ledger.step_cases d s c hlinked with hsame | hperformed
      · rwa [hsame]
      · generalize s.step d c = t at hperformed
        cases hperformed with
        | changed h => exact faithful_of_changes hs h (Call.not_allows_archiveRequested hc)
        | accepted h =>
            intro k g hg
            rw [h.files] at hg
            split at hg
            · cases hg
              exact history_of_opened h.opened
            · exact hs k g hg
        | related => exact hs

/-- In every state of a run the status events of every job are its history, exactly when no call
of the run is a disposition that records an archive request on a job that is not archiving. -/
theorem faithful_run_iff (d : Deployment) (calls : List Call) :
    (∀ n, Faithful (run (Ledger.step d) Ledger.empty (calls.take n))) ↔
      Along (Ledger.step d) (fun s c => ¬ Unlogged s c) Ledger.empty calls := by
  rw [← run_invariant_iff (I := fun s : Ledger => s.Linked ∧ Faithful s)
    (fun s c hs => ?_) ⟨Ledger.linked_empty, fun _ _ h => by cases h⟩]
  · exact forall_congr' fun n =>
      (and_iff_right (Ledger.linked_run d (calls.take n) Ledger.linked_empty)).symm
  · rw [and_iff_right (Ledger.linked_step d s c hs.1)]
    exact faithful_step_iff hs.1 hs.2 c

/-- A worker retains an offer, dispatches it, and records the archive request of the answer. -/
def dispatchedRun : List Call :=
  offeredRun ++
    [ .custody sampleScope (.reserve ⟨"rwork_1", "a", 1⟩ .initial 0 0),
      .custody sampleScope (.disposition ⟨"rwork_1", "a", 1⟩
        [("render_job_id", .str "rdr_rjob_1_pdf"), ("archive_request_id", .str "arch_1")] 202 0) ]

theorem not_faithful_dispatchedRun :
    ¬ Faithful (run (Ledger.step sampleDeployment) Ledger.empty dispatchedRun) := by
  intro hfaithful
  obtain ⟨f, hf, hp⟩ := Ledger.exists_file
    (s := run (Ledger.step sampleDeployment) Ledger.empty dispatchedRun) (j := "rjob_1")
    (p := fun f => decide (statusAfter none f.events ≠ some f.job.status)) (by decide +kernel)
  exact of_decide_eq_true hp (hfaithful "rjob_1" f hf).last

end Run

end LotusReport.Jobs
