import LotusReport.Jobs.ReplayLineage

/-!
# Open archive outcomes

A job that failed while its document was handed to the archive may have been
archived all the same. Until the outcome is resolved, or the job is replayed
itself, the guard refuses the replay of every other member of its lineage. The
guard reads the outcome off the status of the job, so a cancellation, which the
lifecycle policy admits for failed jobs, erases it.
-/

namespace LotusReport.Jobs

open Encoding Fallible StateMachine Relational JobFile

section Step

variable {e : Effect} {f f' : JobFile} {job : JobRow}

/-- The job failed in a way that leaves the outcome of its archive delivery open. -/
def outcomeOpen (job : JobRow) : Bool :=
  job.status == .failed &&
    job.failureCategory.any (· ∈ ReportFailureCategory.archiveAmbiguousCategories)

/-- Custody keeps a cancellation from the job. -/
def custodyRefusesCancel (job : JobRow) : Bool :=
  job.custody.policy == requiredPolicy &&
    (job.custody.state == some .verified || custodyProtected job)

theorem Unguarded.not_custodyRefusesCancel (h : Unguarded job .cancelled) :
    custodyRefusesCancel job = false := by
  by_contra hrefuses
  simp only [custodyRefusesCancel, Bool.not_eq_false, Bool.and_eq_true, Bool.or_eq_true,
    beq_iff_eq] at hrefuses
  obtain ⟨hverified, hopen⟩ := h hrefuses.1
  by_cases hv : job.custody.state = some .verified
  · cases hverified hv
  · exact (hopen hv).2 (hrefuses.2.resolve_left hv) (by simp)

/-- The outcome is still open, or was resolved to archived. -/
def OpenOrArchived (f : JobFile) : Prop := outcomeOpen f.job = true ∨ f.job.status = .archived

/-- The ledger's own effects keep an open outcome open or archive the job, cancellations apart. -/
theorem FileStep.openOrArchived (h : FileStep e f f') (he : e.OfLedger)
    (hcancel : e = .cancelled → outcomeOpen f.job = false) (hf : OpenOrArchived f) :
    OpenOrArchived f' := by
  have hsettled : f.job.status = .failed ∨ f.job.status = .archived := by
    refine hf.imp_left fun hopen => ?_
    simp only [outcomeOpen, Bool.and_eq_true, beq_iff_eq] at hopen
    exact hopen.1
  cases h with
  | record | park | claim | claimRequired | complete | settle | defer | retry | exhaustTerminal
  | exhaustSettled | exhaustParked | enqueue => exact hf
  | @move _ t _ _ _ _ hallowed =>
      refine Or.inr ?_
      change t.toStatus = .archived
      rcases hsettled with hstatus | hstatus <;> rw [hstatus] at hallowed <;>
        cases htarget : t.toStatus <;> rw [htarget] at hallowed <;> first | rfl | cases hallowed
  | cancel _ hcancellable =>
      rcases hf with hopen | harchived
      · rw [hcancel rfl] at hopen
        cases hopen
      · rw [harchived] at hcancellable
        cases hcancellable
  | exhaustFailed _ _ _ _ _ hallowed =>
      rcases hsettled with hstatus | hstatus <;> rw [hstatus] at hallowed <;> cases hallowed
  | offer | reserve | refuse | archiveRequest | wait | schedule | confirm | resume => exact he.elim

end Step

section Run

variable {d : Deployment} {s : Ledger} {member : String}

/-- The call cancels a job whose archive outcome is open, and custody does not refuse it. -/
def CancelsOpenOutcome (s : Ledger) : LedgerCall → Prop
  | .cancelJob jobId _ => ∃ job, s.jobs.find? jobId = some job ∧ outcomeOpen job = true ∧
      custodyRefusesCancel job = false
  | _ => False

/-- The outcome of the member was resolved to archived, or the member was replayed itself. -/
def Ledger.resolved (s : Ledger) (member : String) : Bool :=
  (s.jobs.find? member).any (fun job => job.status == .archived) ||
    s.replayEdges.any fun e => e.1 == member

theorem LedgerCall.cancelled_of_allows {c : LedgerCall} {jobId : String}
    (h : c.Allows jobId .cancelled) : ∃ context, c = .cancelJob jobId context := by
  cases c with
  | cancelJob target context => exact ⟨context, by rw [h.1]⟩
  | _ => simp [LedgerCall.Allows] at h

/-- A call that cancels no open outcome keeps the outcome of the member open, or archives it. -/
theorem openOrArchived_step (hs : s.Linked) {f : JobFile} (hf : s.file? member = some f)
    (hopen : OpenOrArchived f) {c : LedgerCall} (hc : ¬ CancelsOpenOutcome s c) :
    ∃ f', (ledgerStep d s c).file? member = some f' ∧ OpenOrArchived f' := by
  by_cases hcancel : ∃ context, c = .cancelJob member context
  · obtain ⟨context, rfl⟩ := hcancel
    cases hperform : (Call.ledger (.cancelJob member context)).perform d s with
    | error error =>
        rw [ledgerStep, Ledger.step_of_error hperform]
        exact ⟨f, hf, hopen⟩
    | ok t =>
        rw [ledgerStep, Ledger.step_of_ok hperform]
        obtain ⟨⟨⟨⟩, t'⟩, hjob, hlast⟩ := bind_eq_ok.mp hperform
        cases hlast
        obtain ⟨g, g', hg, hdone, rfl⟩ := Ledger.onJob_eq_ok hjob
        rw [hf] at hg
        cases hg
        have hkept : ∀ {e}, FileStep e f g' → e.OfLedger → e ≠ .enqueued →
            (e = .cancelled → outcomeOpen f.job = false) →
            ∃ f', (s.store g').file? member = some f' ∧ OpenOrArchived f' := by
          intro e hstep he hne hcond
          rw [Ledger.file?_store hf hstep.continues (Ledger.freshWork_of_ne hstep hne s), if_pos rfl]
          exact ⟨g', rfl, hstep.openOrArchived he hcond hopen⟩
        rcases cancelJob_fileStep (unvalued_eq_ok.mp hdone) with rfl | hstep | hstep
        · rw [Ledger.store_self hf]
          exact ⟨g', hf, hopen⟩
        · exact hkept hstep trivial (by simp) (by simp)
        · refine hkept hstep trivial (by simp) fun _ => ?_
          by_contra hnot
          refine hc ⟨f.job, (Ledger.file?_eq_some_iff.mp hf).1, by simpa using hnot, ?_⟩
          cases hstep with
          | cancel hguard => exact hguard.not_custodyRefusesCancel
  · obtain ⟨f', hf', hrun⟩ := Ledger.step_file (d := d) hs (.ledger c) hf
    refine ⟨f', hf', hrun.invariant (fun e g g' he hstep hg => ?_) hopen⟩
    refine hstep.openOrArchived (LedgerCall.ofLedger he) ?_ hg
    rintro rfl
    exact absurd (LedgerCall.cancelled_of_allows he) hcancel

/-- An open outcome stays open or is archived in a run without a cancellation of open outcomes. -/
theorem openOrArchived_run {calls : List LedgerCall} (hs : s.Linked) {f : JobFile}
    (hf : s.file? member = some f) (hopen : OpenOrArchived f)
    (hcalls : Along (ledgerStep d) (fun s c => ¬ CancelsOpenOutcome s c) s calls) :
    ∃ f', (run (ledgerStep d) s calls).file? member = some f' ∧ OpenOrArchived f' := by
  induction calls generalizing s f with
  | nil => exact ⟨f, hf, hopen⟩
  | cons c calls ih =>
      obtain ⟨f₁, hf₁, hopen₁⟩ := openOrArchived_step (d := d) hs hf hopen hcalls.1
      exact ih (Ledger.linked_step d s (.ledger c) hs) hf₁ hopen₁ hcalls.2

/-- A member that has failed with an open outcome, and has not been resolved since, refuses every
replay of another member of its lineage under a new key. -/
def OpenOutcomesBlock (d : Deployment) (calls : List LedgerCall) : Prop :=
  ∀ before after member job, calls = before ++ after →
    (run (ledgerStep d) Ledger.empty before).jobs.find? member = some job →
    outcomeOpen job = true →
    (∀ n, (run (ledgerStep d) Ledger.empty (before ++ after.take n)).resolved member = false) →
    ∀ c sub sourceJobId reason, c.replay = some (sourceJobId, reason) → sourceJobId ≠ member →
      SameLineage (run (ledgerStep d) Ledger.empty calls).Replays sourceJobId member →
      submission d c = .ok sub →
      (run (ledgerStep d) Ledger.empty calls).requests.lookup?
        (c.callerContext.tenantId, sub.key) = none →
      ∃ error, (run (ledgerStep d) Ledger.empty calls).createReportJob d c = .error error

/-- An open outcome that is not resolved blocks the guard of every relative. -/
theorem Ledger.liveMember_of_outcomeOpen (hs : Lineages s) {sourceJobId : String} {job : JobRow}
    (hlineage : SameLineage s.Replays sourceJobId member) (hne : sourceJobId ≠ member)
    (hjob : s.jobs.find? member = some job) (hopen : outcomeOpen job = true)
    (hresolved : s.resolved member = false) :
    s.liveMember (s.lineageRoot sourceJobId) sourceJobId = true := by
  simp only [outcomeOpen, Bool.and_eq_true, beq_iff_eq, Option.any_eq_true_iff_get,
    decide_eq_true_eq] at hopen
  obtain ⟨hfailed, hsome, hambiguous⟩ := hopen
  simp only [Ledger.resolved, Bool.or_eq_false_iff, List.any_eq_false, beq_iff_eq] at hresolved
  refine Ledger.liveMember_of_lineage hs.forest hlineage hne.symm hjob
    (Ledger.blocksReplay_of_ambiguous hfailed (Option.some_get hsome).symm hambiguous fun b hb => ?_)
  have hid : job.reportJobId = member := Table.key_of_find? hjob
  exact hresolved.2 _ hb hid

/-- In every run without a cancellation of an open outcome, an unresolved archive outcome keeps
blocking a second document. -/
theorem open_outcomes_block (d : Deployment) (calls : List LedgerCall)
    (hreplays : ReplaysByCreation d calls)
    (hcancels : Along (ledgerStep d) (fun s c => ¬ CancelsOpenOutcome s c) Ledger.empty calls) :
    OpenOutcomesBlock d calls := by
  rintro before after member job rfl hjob hopen hresolved c sub sourceJobId reason hreplay hne
    hlineage hsub hnovel
  have hlineages := lineages_run d hreplays
  have hbefore := lineages_run d (along_append.mp hreplays).1
  obtain ⟨f, hf, rfl⟩ := hbefore.linked.file?_of_find? hjob
  obtain ⟨f', hf', hstill⟩ := openOrArchived_run hbefore.linked hf (Or.inl hopen)
    (along_append.mp hcancels).2
  rw [← run_append] at hf'
  have hnow := hresolved after.length
  rw [List.take_length] at hnow
  have hjob' := (Ledger.file?_eq_some_iff.mp hf').1
  have hopen' : outcomeOpen f'.job = true := by
    refine hstill.resolve_right fun harchived => ?_
    simp [Ledger.resolved, hjob', harchived] at hnow
  have hlive := Ledger.liveMember_of_outcomeOpen hlineages hlineage hne hjob' hopen' hnow
  cases hcreate : (run (ledgerStep d) Ledger.empty (before ++ after)).createReportJob d c with
  | error error => exact ⟨error, rfl⟩
  | ok result =>
      obtain ⟨source, hguard⟩ :=
        replayGuard_of_create hlineages.linked hreplay hsub hnovel hcreate
      rw [(Ledger.replayGuard_eq_ok hguard).2.2.2.2] at hlive
      cases hlive

/-- A run without a cancellation: the replacement of a failed job fails at the archive. -/
def openOutcomeRun : List LedgerCall :=
  thenReplay failedRun "rjob_1" "2" ++
    [ .mark "rjob_2" .collectingData sampleOperator,
      .mark "rjob_2" .dataReady sampleOperator,
      .mark "rjob_2" (.rendering "rdr_rjob_2_pdf" "pdf" "portfolio-review" "v2") sampleOperator,
      .mark "rjob_2" (.completed "rdr_rjob_2_pdf" "pdf" "portfolio-review" "v2" none none none none
        none none) sampleOperator,
      .mark "rjob_2" (.archiving "arch_1") sampleOperator,
      .mark "rjob_2" (.failed .archiveOutcomeUnknown "archive timed out" true) sampleOperator ]

instance (s : Ledger) (c : LedgerCall) : Decidable (CancelsOpenOutcome s c) :=
  match c with
  | .cancelJob jobId _ =>
      decidable_of_iff ((s.jobs.find? jobId).any
        fun job => outcomeOpen job && !custodyRefusesCancel job) (by
          simp [CancelsOpenOutcome, Option.any_eq_true])
  | .create _ | .mark _ _ _ | .appendJobEvent _ _ _ _ _ _ _ | .upsertJobRelationship _
  | .claimWorkItems _ | .completeWorkItem _ _ _ | .deferWorkItem _ _ _ _ _
  | .failWorkItem _ _ _ _ _ _ _ => isFalse id

theorem open_outcomes_block_replayed : OpenOutcomesBlock sampleDeployment openOutcomeRun :=
  open_outcomes_block sampleDeployment openOutcomeRun (by decide +kernel) (by decide +kernel)

/-- The same run, and then the replacement is cancelled. -/
def cancelledOutcomeRun : List LedgerCall :=
  openOutcomeRun ++ [.cancelJob "rjob_2" sampleOperator]

/-- The call carries a new key and succeeds. -/
def succeedsUnderNewKey (d : Deployment) (s : Ledger) (c : CreateCall) : Bool :=
  match submission d c with
  | .error _ => false
  | .ok sub => (s.requests.lookup? (c.callerContext.tenantId, sub.key)).isNone &&
      (s.createReportJob d c).isOk

/-- The cancellation erases the open outcome, and the failed job is replayed a second time. -/
theorem cancelled_outcome_not_blocking :
    ¬ OpenOutcomesBlock sampleDeployment cancelledOutcomeRun := by
  intro h
  obtain ⟨job, hjob, hopen⟩ := (Option.any_eq_true _ _).mp
    (by decide +kernel : ((run (ledgerStep sampleDeployment) Ledger.empty openOutcomeRun).jobs.find?
      "rjob_2").any outcomeOpen = true)
  obtain ⟨c, -, hreplay⟩ := (Option.any_eq_true _ _).mp
    (by decide +kernel : (sampleReplay cancelledOutcomeRun "rjob_1" "3").any
      (fun c => c.replay == some ("rjob_1", "operator retry") &&
        succeedsUnderNewKey sampleDeployment
          (run (ledgerStep sampleDeployment) Ledger.empty cancelledOutcomeRun) c) = true)
  simp only [Bool.and_eq_true, beq_iff_eq, succeedsUnderNewKey] at hreplay
  obtain ⟨hsource, hsucceeds⟩ := hreplay
  have hedge : ("rjob_1", "rjob_2") ∈
      (run (ledgerStep sampleDeployment) Ledger.empty cancelledOutcomeRun).replayEdges := by
    decide +kernel
  have hresolved : ∀ n, (run (ledgerStep sampleDeployment) Ledger.empty (openOutcomeRun ++
      [LedgerCall.cancelJob "rjob_2" sampleOperator].take n)).resolved "rjob_2" = false := by
    intro n
    cases n with
    | zero => decide +kernel
    | succ n =>
        rw [List.take_of_length_le (by simp)]
        decide +kernel
  split at hsucceeds
  · cases hsucceeds
  · rename_i sub hsub
    simp only [Bool.and_eq_true, Option.isNone_iff_eq_none] at hsucceeds
    obtain ⟨error, herror⟩ := h openOutcomeRun _ "rjob_2" job rfl hjob hopen hresolved c sub "rjob_1"
      "operator retry" hsource (by decide) (Relation.EqvGen.rel _ _ hedge) hsub hsucceeds.1
    rw [herror] at hsucceeds
    cases hsucceeds.2

end Run

end LotusReport.Jobs
