import LotusReport.Jobs.Refinement

/-!
# What a job has produced by a status event

An event that records a completed, archiving or archived job is followed by no
render, so the render columns stay as they were when it was written; and an
event that records an archived job is followed by no other document.
-/

namespace LotusReport.Jobs

open Encoding Fallible JobFile

/-- The statuses of events that present the rendered artifact. -/
def artifactStatuses : List ReportJobStatus := [.completed, .archiving, .archived]

/-- The statuses from which no job is rendered any more. -/
def lateStatuses : List ReportJobStatus := [.completed, .archiving, .archived, .failed, .cancelled]

/-- The job is archived, or its archive request was recorded once more; an unverified required job
is so without a retained offer. -/
def Sealed (job : JobRow) : Prop :=
  (job.custody.policy = requiredPolicy → job.custody.state = some .verified ∨
      job.custody.offerSha256 = none) ∧
    (job.status = .archived ∨ job.status = .archiving ∧ job.custody.policy = requiredPolicy ∧
      job.custody.state ≠ some .verified)

section Step

variable {e : Effect} {f f' : JobFile}

/-- A new event records the status that the job has after the change. -/
theorem FileStep.event_status (h : FileStep e f f') {x : EventRow} (hx : x ∈ f'.events) :
    x ∈ f.events ∨ x.toStatus = f'.job.status := by
  have hone : ∀ {y : EventRow} {status : ReportJobStatus}, y.toStatus = status →
      x ∈ f.events ++ [y] → x ∈ f.events ∨ x.toStatus = status := by
    intro y status hy hmem
    rcases List.mem_append.mp hmem with hold | hnew
    · exact Or.inl hold
    · rw [List.mem_singleton.mp hnew]
      exact Or.inr hy
  cases h with
  | record he => exact hone he.target hx
  | move _ _ _ _ he => exact hone he.target hx
  | cancel _ _ _ he => exact hone he.target hx
  | park _ _ _ _ he => exact hone he.target hx
  | exhaustParked _ _ _ _ _ he => exact hone he.target hx
  | exhaustFailed _ _ _ hfailed _ _ _ he => exact hone (he.target.trans hfailed.symm) hx
  | offer _ _ _ _ _ _ he => exact hone he.target hx
  | refuse _ _ _ he => exact hone he.target hx
  | confirm _ _ _ he => exact hone he.target hx
  | _ => exact Or.inl hx

theorem late_of_transitionAllowed {current target : ReportJobStatus}
    (h : isReportJobTransitionAllowed current target = true) (hlate : current ∈ lateStatuses) :
    target ∈ lateStatuses ∧ target ≠ .rendering ∧ target ≠ .completed := by
  cases target <;> cases current <;> simp_all [isReportJobTransitionAllowed,
    ReportJobStatus.transitionAllowedFrom, lateStatuses]

/-- From a late status on the render columns stay as they are. -/
theorem FileStep.late (h : FileStep e f f') (hlate : f.job.status ∈ lateStatuses) :
    f'.job.status ∈ lateStatuses ∧ f'.job.render = f.job.render := by
  cases h with
  | @move _ t _ _ ht _ hallowed =>
      obtain ⟨htarget, hrendering, hcompleted⟩ := late_of_transitionAllowed hallowed hlate
      refine ⟨htarget, ?_⟩
      simp only [movedFile, transitionedJob, ht.render hrendering hcompleted,
        RenderColumns.coalesce_empty]
  | @exhaustFailed _ _ _ _ t _ _ _ _ _ _ _ ht hfailed =>
      constructor
      · simp only [movedFile, setWork, transitionedJob, hfailed]
        decide
      · simp only [movedFile, setWork, transitionedJob,
          ht.render (by simp [hfailed]) (by simp [hfailed]), RenderColumns.coalesce_empty]
  | cancel => exact ⟨by simp [cancelledJob, lateStatuses], rfl⟩
  | offer _ _ hready =>
      rw [hready] at hlate
      simp [lateStatuses] at hlate
  | archiveRequest => exact ⟨by simp [requestedFile, requestedJob, lateStatuses], rfl⟩
  | confirm => exact ⟨by simp [verifiedJob, lateStatuses], rfl⟩
  | reserve => exact ⟨by simpa [withCustody] using hlate, by simp [withCustody]⟩
  | _ => exact ⟨hlate, rfl⟩

end Step

section Seal

variable {e : Effect} {f f' : JobFile} {old new : JobRow}

/-- The triggers let an unverified required job be archived without a retained offer only. -/
theorem Admitted.offer_none (h : Admitted old new) (hpolicy : new.custody.policy = requiredPolicy)
    (hstate : new.custody.state ≠ some .verified) (hstatus : new.status = .archived) :
    old.custody.offerSha256 = none := by
  have hshape := h.shape
  simp only [custodyShape, shapeProtected, hpolicy, hstatus, Bool.or_eq_false_iff,
    beq_self_eq_true, Bool.true_and] at hshape
  have hprotected := hshape.1.1.2
  simp only [hstate, ne_eq, not_false_eq_true, decide_true, Bool.true_and, List.mem_cons,
    reduceCtorEq, true_or, or_true, Bool.and_true, Bool.or_eq_false_iff] at hprotected
  exact Option.isNone_iff_eq_none.mp (Option.isSome_eq_false_iff.mp hprotected.1.1.1)

/-- The triggers let a job be verified with a retained offer only. -/
theorem Admitted.offer_some (h : Admitted old new) (hstate : new.custody.state = some .verified) :
    old.custody.offerSha256 ≠ none := by
  have hshape := h.shape
  simp only [custodyShape, hstate, Bool.or_eq_false_iff, beq_self_eq_true, Bool.true_and] at hshape
  intro hnone
  simp [hnone] at hshape

/-- The triggers keep the document of a verified job. -/
theorem Admitted.document_kept (h : Admitted old new) (hstate : old.custody.state = some .verified) :
    new.archiveDocumentId = old.archiveDocumentId := by
  have hkept := h.immutable
  simp only [custodyImmutable, hstate, Bool.or_eq_false_iff, beq_self_eq_true, Bool.true_and,
    decide_eq_false_iff_not, ne_eq, Decidable.not_not] at hkept
  exact hkept.2.1.2

theorem FileStep.sealed_of_archived (h : FileStep e f f')
    (hf : f.job.status = .archived → Sealed f.job) (hstatus : f'.job.status = .archived) :
    Sealed f'.job := by
  cases h with
  | @move _ t now _ _ _ _ hadmitted =>
      refine ⟨fun hpolicy => ?_, Or.inl hstatus⟩
      by_cases hstate : f.job.custody.state = some .verified
      · exact Or.inl hstate
      · exact Or.inr (hadmitted.offer_none hpolicy hstate hstatus)
  | exhaustFailed _ _ _ hfailed =>
      simp [movedFile, setWork, transitionedJob, hfailed] at hstatus
  | cancel => simp [cancelledJob] at hstatus
  | offer => simp [offeredJob] at hstatus
  | archiveRequest => simp [requestedFile, requestedJob] at hstatus
  | confirm => exact ⟨fun _ => Or.inl rfl, Or.inl rfl⟩
  | reserve =>
      have hsealed := hf (by simpa [withCustody] using hstatus)
      simpa [Sealed, withCustody] using hsealed
  | park _ hnot _ | exhaustParked _ hnot _ | refuse _ hnot _ =>
      obtain ⟨hoffer, -⟩ := hf hstatus
      refine ⟨fun hpolicy => Or.inr ?_, Or.inl hstatus⟩
      exact (hoffer hpolicy).resolve_left hnot
  | wait hpolicy _ hnot =>
      obtain ⟨hoffer, -⟩ := hf hstatus
      exact ⟨fun _ => Or.inr ((hoffer hpolicy).resolve_left hnot), Or.inl hstatus⟩
  | resume hpolicy _ _ hblocked =>
      obtain ⟨hoffer, -⟩ := hf hstatus
      have hnot : f.job.custody.state ≠ some .verified := by rw [hblocked]; decide
      exact ⟨fun _ => Or.inr ((hoffer hpolicy).resolve_left hnot), Or.inl hstatus⟩
  | _ => exact hf hstatus

theorem FileStep.seal_kept (h : FileStep e f f') (hf : Sealed f.job) :
    Sealed f'.job ∧ f'.job.archiveDocumentId = f.job.archiveDocumentId := by
  obtain ⟨hoffer, hstatus⟩ := hf
  -- custody refuses to settle an archiving job that is required and unverified
  have hprotected : f.job.status = .archiving → f.job.custody.policy = requiredPolicy →
      f.job.custody.state ≠ some .verified → custodyProtected f.job = true := by
    intro harchiving hpolicy hstate
    simp [custodyProtected, harchiving, hpolicy, hstate]
  have hrefused : ∀ {target : ReportJobStatus}, Unguarded f.job target →
      isReportJobTransitionAllowed f.job.status target = true → False := by
    intro target hguard hallowed
    rcases hstatus with harchived | ⟨harchiving, hpolicy, hstate⟩
    · rw [harchived, not_transitionAllowed_of_final (Or.inl rfl)] at hallowed
      cases hallowed
    · have hblocked := ((hguard hpolicy).2 hstate).2 (hprotected harchiving hpolicy hstate)
      rw [harchiving] at hallowed
      cases target <;> simp_all [isReportJobTransitionAllowed,
        ReportJobStatus.transitionAllowedFrom]
  have hunverified : f.job.custody.policy = requiredPolicy →
      f.job.custody.state ≠ some .verified → f.job.custody.offerSha256 = none :=
    fun hpolicy hnot => (hoffer hpolicy).resolve_left hnot
  cases h with
  | move _ hguard hallowed => exact (hrefused hguard hallowed).elim
  | exhaustFailed _ _ _ _ hguard hallowed => exact (hrefused hguard hallowed).elim
  | cancel _ hcancellable =>
      rcases hstatus with harchived | ⟨harchiving, -, -⟩
      · simp [isReportJobCancellable, ReportJobStatus.cancelBlockedStatuses, harchived]
          at hcancellable
      · simp [isReportJobCancellable, ReportJobStatus.cancelBlockedStatuses, harchiving]
          at hcancellable
  | offer _ _ hready =>
      rcases hstatus with harchived | ⟨harchiving, -, -⟩
      · rw [hready] at harchived
        cases harchived
      · rw [hready] at harchiving
        cases harchiving
  | archiveRequest hpolicy _ hnot =>
      refine ⟨⟨fun _ => Or.inr (hunverified hpolicy hnot), Or.inr ⟨rfl, hpolicy, ?_⟩⟩, rfl⟩
      simp [requestedFile]
  | confirm hpolicy _ hadmitted =>
      refine ⟨⟨fun _ => Or.inl rfl, Or.inl rfl⟩, ?_⟩
      by_cases hverified : f.job.custody.state = some .verified
      · exact hadmitted.document_kept hverified
      · exact absurd (hunverified hpolicy hverified) (hadmitted.offer_some rfl)
  | reserve =>
      refine ⟨?_, by simp [withCustody]⟩
      simpa [Sealed, withCustody] using And.intro hoffer hstatus
  | park hpolicy hnot | exhaustParked hpolicy hnot | refuse hpolicy hnot =>
      refine ⟨⟨fun _ => Or.inr (hunverified hpolicy hnot), ?_⟩, rfl⟩
      exact hstatus.imp_right fun harchiving => ⟨harchiving.1, hpolicy, by
        simp [parkedFile, parkedCustody, withCustody]⟩
  | wait hpolicy _ hnot =>
      refine ⟨⟨fun _ => Or.inr (hunverified hpolicy hnot), ?_⟩, rfl⟩
      exact hstatus.imp_right fun harchiving => ⟨harchiving.1, hpolicy, by simp [withCustody]⟩
  | resume hpolicy _ _ hblocked =>
      have hnot : f.job.custody.state ≠ some .verified := by rw [hblocked]; decide
      refine ⟨⟨fun _ => Or.inr (hunverified hpolicy hnot), ?_⟩, rfl⟩
      exact hstatus.imp_right fun harchiving => ⟨harchiving.1, hpolicy, by simp [resumedJob]⟩
  | _ => exact ⟨⟨hoffer, hstatus⟩, rfl⟩

end Seal

section Produced

variable {e : Effect} {f f' f'' : JobFile}

/-- A job with an event that presents the artifact is late, and a job that was archived is
sealed. -/
structure Presented (f : JobFile) : Prop where
  late : ∀ x ∈ f.events, x.toStatus ∈ artifactStatuses → f.job.status ∈ lateStatuses
  archived : f.job.status = .archived → Sealed f.job
  sealed : ∀ x ∈ f.events, x.toStatus = .archived → Sealed f.job

/-- What the events of a job present is the same in its later rows. -/
structure SameProduced (f f' : JobFile) : Prop where
  request : f'.request = f.request
  job : f'.job.reportJobId = f.job.reportJobId
  reportType : f'.job.reportType = f.job.reportType
  portfolioScope : f'.job.portfolioScope = f.job.portfolioScope
  events : f.events <+: f'.events
  render : (∃ x ∈ f.events, x.toStatus ∈ artifactStatuses) → f'.job.render = f.job.render
  document : (∃ x ∈ f.events, x.toStatus = .archived) →
    f'.job.archiveDocumentId = f.job.archiveDocumentId

theorem SameProduced.refl (f : JobFile) : SameProduced f f :=
  ⟨rfl, rfl, rfl, rfl, List.prefix_refl _, fun _ => rfl, fun _ => rfl⟩

theorem SameProduced.trans (h : SameProduced f f') (h' : SameProduced f' f'') :
    SameProduced f f'' := by
  refine ⟨h'.request.trans h.request, h'.job.trans h.job, h'.reportType.trans h.reportType,
    h'.portfolioScope.trans h.portfolioScope, h.events.trans h'.events, fun hx => ?_, fun hx => ?_⟩
  · obtain ⟨x, hmem, hstatus⟩ := hx
    rw [h'.render ⟨x, h.events.subset hmem, hstatus⟩, h.render ⟨x, hmem, hstatus⟩]
  · obtain ⟨x, hmem, hstatus⟩ := hx
    rw [h'.document ⟨x, h.events.subset hmem, hstatus⟩, h.document ⟨x, hmem, hstatus⟩]

theorem FileStep.reportType_eq (h : FileStep e f f') : f'.job.reportType = f.job.reportType := by
  cases h with
  | reserve => simp [withCustody]
  | _ => rfl

theorem FileStep.portfolioScope_eq (h : FileStep e f f') :
    f'.job.portfolioScope = f.job.portfolioScope := by
  cases h with
  | reserve => simp [withCustody]
  | _ => rfl

theorem artifactStatuses_late {status : ReportJobStatus} (h : status ∈ artifactStatuses) :
    status ∈ lateStatuses := by
  revert h
  cases status <;> decide

theorem Presented.step (hf : Presented f) (h : FileStep e f f') : Presented f' := by
  constructor
  · intro x hx hstatus
    rcases h.event_status hx with hold | hnew
    · exact (h.late (hf.late x hold hstatus)).1
    · rw [← hnew]
      exact artifactStatuses_late hstatus
  · exact fun hstatus => h.sealed_of_archived hf.archived hstatus
  · intro x hx hstatus
    rcases h.event_status hx with hold | hnew
    · exact (h.seal_kept (hf.sealed x hold hstatus)).1
    · exact h.sealed_of_archived hf.archived (hnew.symm.trans hstatus)

theorem Presented.sameProduced (hf : Presented f) (h : FileStep e f f') : SameProduced f f' := by
  have hcontinues := h.continues
  obtain ⟨es, hevents, -⟩ := hcontinues.events
  refine ⟨hcontinues.request, hcontinues.job, h.reportType_eq, h.portfolioScope_eq,
    ⟨es, hevents.symm⟩, ?_, ?_⟩
  · rintro ⟨x, hx, hstatus⟩
    exact (h.late (hf.late x hx hstatus)).2
  · rintro ⟨x, hx, hstatus⟩
    exact (h.seal_kept (hf.sealed x hx hstatus)).2

theorem presented_of_opened (h : Opened f) : Presented f := by
  obtain ⟨event, hevents, -, htarget⟩ := h.history
  have hnot : ∀ x ∈ f.events, x.toStatus = .accepted := by
    intro x hx
    rw [hevents, List.mem_singleton] at hx
    rw [hx, htarget]
  constructor
  · intro x hx hstatus
    rw [hnot x hx] at hstatus
    simp [artifactStatuses] at hstatus
  · intro hstatus
    rw [h.status] at hstatus
    cases hstatus
  · intro x hx hstatus
    rw [hnot x hx] at hstatus
    cases hstatus

/-- Along a run of changes a job stays presented, and its events go on presenting the same. -/
theorem FileRun.sameProduced {allowed : Effect → Prop} (h : FileRun allowed f f')
    (hf : Presented f) : Presented f' ∧ SameProduced f f' := by
  induction h with
  | refl => exact ⟨hf, .refl f⟩
  | tail _ hchange ih =>
      obtain ⟨e, -, hstep⟩ := hchange
      exact ⟨ih.1.step hstep, ih.2.trans (ih.1.sameProduced hstep)⟩

end Produced

end LotusReport.Jobs
