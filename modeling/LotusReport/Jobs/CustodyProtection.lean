import LotusReport.Jobs.Refinement

/-!
# Protection of retained offers

Once a required job has left traces outside the ledger, no call settles it
except through a verified delivery. The traces never disappear, so protection
lasts until the delivery is verified, and the triggers keep the offer.
-/

namespace LotusReport.Jobs

open Encoding StateMachine JobFile

/-- The statuses that settle a job. -/
def settlingStatuses : List ReportJobStatus := [.failed, .cancelled, .completed, .archived]

/-- Custody of the job is verified. -/
def Verified (f : JobFile) : Prop := f.job.custody.state = some .verified

/-- The traces that a required job leaves outside the ledger. -/
def Traced (job : JobRow) : Prop :=
  present job.custody.offerSha256 = true ∨ present job.render.jobId = true ∨
    present job.archiveRequestId = true ∨ job.custody.initialCount ≠ 0 ∨
    job.status ∈ [ReportJobStatus.rendering, .completed, .archiving]

theorem custodyProtected_iff (job : JobRow) : custodyProtected job = true ↔
    job.custody.policy = requiredPolicy ∧ job.custody.state ≠ some .verified ∧ Traced job := by
  simp only [custodyProtected, Traced, Bool.and_eq_true, Bool.or_eq_true, beq_iff_eq,
    decide_eq_true_eq, and_assoc, or_assoc]

section Step

variable {e : Effect} {f f' : JobFile}

theorem FileStep.policy_eq (h : FileStep e f f') :
    f'.job.custody.policy = f.job.custody.policy := by
  cases h with
  | reserve => simp [withCustody]
  | _ => rfl

theorem FileStep.verified (h : FileStep e f f') (hv : Verified f) : Verified f' := by
  unfold Verified at hv ⊢
  cases h with
  | park _ hstate | exhaustParked _ hstate | refuse _ hstate | archiveRequest _ _ hstate
  | wait _ _ hstate => exact absurd hv hstate
  | offer _ _ _ _ _ hadmitted => exact absurd hv (hadmitted.not_verified (by simp [offeredJob]))
  | resume _ _ _ hstate =>
      rw [hv] at hstate
      cases hstate
  | reserve => simpa [withCustody] using hv
  | confirm => rfl
  | _ => exact hv

/-- Custody is verified by the confirmation of the delivery and by nothing else. -/
theorem FileStep.confirmed_of_verified (h : FileStep e f f') (hv : ¬ Verified f)
    (hv' : Verified f') : e = .confirmed := by
  unfold Verified at hv hv'
  cases h with
  | confirm => rfl
  | park | exhaustParked | refuse | archiveRequest | wait | offer | resume => cases hv'
  | reserve => exact absurd (by simpa [withCustody] using hv') hv
  | _ => exact absurd hv' hv

/-- The columns of the retained offer, with the render job it names. -/
def offerColumns (job : JobRow) : Option String × Option String × Option Nat × Option String :=
  (job.custody.offerBody, job.custody.offerSha256, job.custody.offerSize, job.render.jobId)

theorem Admitted.offer_kept {old new : JobRow} (h : Admitted old new)
    (hsome : old.custody.offerBody.isSome) : offerColumns new = offerColumns old := by
  have hkept := h.immutable
  simp only [custodyImmutable, hsome, Bool.or_eq_false_iff, Bool.true_and,
    decide_eq_false_iff_not, ne_eq, Decidable.not_not] at hkept
  simp only [offerColumns, Prod.mk.injEq]
  tauto

/-- A retained offer stays as it was retained. -/
theorem FileStep.offer_kept (h : FileStep e f f') (hsome : f.job.custody.offerBody.isSome) :
    offerColumns f'.job = offerColumns f.job := by
  cases h with
  | move _ _ _ hadmitted | cancel _ _ hadmitted | exhaustFailed _ _ _ _ _ _ hadmitted
  | confirm _ _ hadmitted => exact hadmitted.offer_kept hsome
  | offer _ _ _ hbody =>
      rw [hbody] at hsome
      cases hsome
  | reserve => simp [offerColumns, withCustody]
  | _ => rfl

/-- A transition that custody lets pass on a protected job only records progress of the capture,
and leaves the traces alone. -/
theorem Traced.transitionedJob {job : JobRow} {t : Transition} {now : Instant}
    (hp : custodyProtected job = true) (ht : t.Plain) (hguard : Unguarded job t.toStatus)
    (hallowed : isReportJobTransitionAllowed job.status t.toStatus = true) :
    Traced (transitionedJob job t now) ∧ t.toStatus ∉ settlingStatuses := by
  obtain ⟨hpolicy, hstate, htraced⟩ := (custodyProtected_iff job).mp hp
  obtain ⟨hfenced, hsettling⟩ := (hguard hpolicy).2 hstate
  have hblocked := hsettling hp
  have htarget : t.toStatus = .collectingData ∨ t.toStatus = .dataReady := by
    cases hto : t.toStatus <;> simp_all [isReportJobTransitionAllowed,
      ReportJobStatus.transitionAllowedFrom]
  have hrender : t.render = {} := ht.render (by rcases htarget with h | h <;> simp [h])
    (by rcases htarget with h | h <;> simp [h])
  have hrequest : t.archiveRequestId = none :=
    ht.archiveRequest (by rcases htarget with h | h <;> simp [h])
      (by rcases htarget with h | h <;> simp [h])
  refine ⟨?_, by rcases htarget with h | h <;> simp [h, settlingStatuses]⟩
  simp only [Traced, Jobs.transitionedJob, hrender, hrequest, RenderColumns.coalesce_empty,
    Option.orElse_none] at htraced ⊢
  rcases htraced with h | h | h | h | hstatus
  · exact Or.inl h
  · exact Or.inr (Or.inl h)
  · exact Or.inr (Or.inr (Or.inl h))
  · exact Or.inr (Or.inr (Or.inr (Or.inl h)))
  · have hearly : job.status = .accepted ∨ job.status = .collectingData := by
      rcases htarget with h | h <;> rw [h] at hallowed <;>
        simp [isReportJobTransitionAllowed, ReportJobStatus.transitionAllowedFrom] at hallowed
      · exact Or.inl hallowed
      · exact hallowed
    rcases hearly with h | h <;> simp [h] at hstatus

theorem FileStep.protected_step (h : FileStep e f f') (hp : custodyProtected f.job = true) :
    (custodyProtected f'.job = true ∨ Verified f') ∧
      (f'.job.status ∈ settlingStatuses → f'.job.status = f.job.status ∨ Verified f') := by
  obtain ⟨hpolicy, hstate, htraced⟩ := (custodyProtected_iff f.job).mp hp
  have hkeep : ∀ {job : JobRow}, job.custody.policy = requiredPolicy →
      job.custody.state ≠ some .verified → Traced job → custodyProtected job = true :=
    fun h₁ h₂ h₃ => (custodyProtected_iff _).mpr ⟨h₁, h₂, h₃⟩
  cases h with
  | record | claim | complete | settle | defer | retry | exhaustTerminal | exhaustSettled
  | enqueue => exact ⟨Or.inl hp, fun _ => Or.inl rfl⟩
  | move ht hguard hallowed =>
      obtain ⟨htraced', hnot⟩ := Traced.transitionedJob hp ht hguard hallowed
      exact ⟨Or.inl (hkeep hpolicy hstate htraced'), fun hin => absurd hin hnot⟩
  | exhaustFailed _ _ _ _ hguard =>
      exact absurd (by simp) (((hguard hpolicy).2 hstate).2 hp)
  | cancel hguard => exact absurd (by simp) (((hguard hpolicy).2 hstate).2 hp)
  | claimRequired | schedule =>
      exact ⟨Or.inl (hkeep hpolicy hstate htraced), fun _ => Or.inl rfl⟩
  | park | exhaustParked | refuse | wait | resume =>
      exact ⟨Or.inl (hkeep hpolicy (by simp [withCustody, parkedCustody, resumedJob, parkedFile])
        htraced), fun _ => Or.inl rfl⟩
  | @reserve _ operation window next =>
      refine ⟨Or.inl (hkeep (by simpa [withCustody] using hpolicy)
        (by simpa [withCustody] using hstate) ?_), fun _ => Or.inl rfl⟩
      simp only [Traced, withCustody, reservedCustody_offerSha256] at htraced ⊢
      rcases htraced with h | h | h | h | h
      · exact Or.inl h
      · exact Or.inr (Or.inl h)
      · exact Or.inr (Or.inr (Or.inl h))
      · refine Or.inr (Or.inr (Or.inr (Or.inl ?_)))
        have hcount := reservedCustody_initialCount f.job.custody operation window next
        omega
      · exact Or.inr (Or.inr (Or.inr (Or.inr h)))
  | offer =>
      refine ⟨Or.inl (hkeep hpolicy (by simp [offeredJob]) ?_), fun hin => ?_⟩
      · exact Or.inr (Or.inr (Or.inr (Or.inr (by simp [offeredJob]))))
      · simp [offeredJob, settlingStatuses] at hin
  | archiveRequest =>
      refine ⟨Or.inl (hkeep hpolicy (by simp [requestedFile]) ?_), fun hin => ?_⟩
      · exact Or.inr (Or.inr (Or.inr (Or.inr (by simp [requestedFile, requestedJob]))))
      · simp [requestedFile, requestedJob, settlingStatuses] at hin
  | confirm => exact ⟨Or.inr rfl, fun _ => Or.inr rfl⟩

end Step

section Run

variable {f f' : JobFile} {allowed : Effect → Prop}

theorem FileRun.offer_kept (h : FileRun allowed f f') (hsome : f.job.custody.offerBody.isSome) :
    offerColumns f'.job = offerColumns f.job := by
  refine h.invariant (I := fun g => offerColumns g.job = offerColumns f.job)
    (fun e g g' _ hstep hg => ?_) rfl
  have hbody : g.job.custody.offerBody = f.job.custody.offerBody := congrArg Prod.fst hg
  exact (hstep.offer_kept (hbody ▸ hsome)).trans hg

/-- Along changes a job stays protected until it is verified, and reaches no settling status
before. -/
theorem FileRun.protected_run (h : FileRun allowed f f') (hp : custodyProtected f.job = true ∨ Verified f) :
    (custodyProtected f'.job = true ∨ Verified f') ∧
      (f'.job.status ∈ settlingStatuses → f'.job.status = f.job.status ∨ Verified f') := by
  refine h.invariant
    (I := fun g => (custodyProtected g.job = true ∨ Verified g) ∧
      (g.job.status ∈ settlingStatuses → g.job.status = f.job.status ∨ Verified g))
    (fun e g g' _ hstep hg => ?_) ⟨hp, fun _ => Or.inl rfl⟩
  obtain ⟨hpg | hvg, hsettling⟩ := hg
  · obtain ⟨hp', hsettle'⟩ := hstep.protected_step hpg
    refine ⟨hp', fun hin => ?_⟩
    rcases hsettle' hin with hsame | hv'
    · rcases hsettling (hsame ▸ hin) with hold | hv
      · exact Or.inl (hsame.trans hold)
      · exact Or.inr (hstep.verified hv)
    · exact Or.inr hv'
  · exact ⟨Or.inr (hstep.verified hvg), fun _ => Or.inr (hstep.verified hvg)⟩

theorem FileRun.confirmed_of_verified (h : FileRun allowed f f') (hv : ¬ Verified f)
    (hv' : Verified f') : allowed .confirmed := by
  induction h with
  | refl => exact absurd hv' hv
  | @tail g g' _ hchange ih =>
      obtain ⟨e, he, hstep⟩ := hchange
      by_cases hg : Verified g
      · exact ih hg
      · exact hstep.confirmed_of_verified hg hv' ▸ he

/-- The call is `confirm_final` on the job. -/
def Call.Confirms (jobId : String) : Call → Prop
  | .custody scope (.confirmFinal _ _ _ _) => scope.jobId = jobId
  | _ => False

theorem Call.confirms_of_allows {c : Call} {jobId : String} (h : c.Allows jobId .confirmed) :
    c.Confirms jobId := by
  cases c with
  | ledger c => cases c <;> simp [Call.Allows, LedgerCall.Allows] at h
  | custody scope c =>
      obtain ⟨hjob, hallows⟩ := h
      cases c <;> simp [CustodyCall.Allows] at hallows
      exact hjob.symm

/-- What the call between `g` and `g'` leaves to a job that had the rows `f` before. -/
structure KeepsCustody (jobId : String) (c : Call) (f g g' : JobFile) : Prop where
  settles : custodyProtected f.job = true → g'.job.status ∈ settlingStatuses →
    g'.job.status = g.job.status ∨ Verified g'
  verifies : ¬ Verified g → Verified g' → c.Confirms jobId
  offer : f.job.custody.offerBody.isSome → offerColumns g'.job = offerColumns f.job

/-- Let a job have the rows `f` after some run. In every continuation of the run, if custody
protected `f`, then a call changes the status of the job to failed, cancelled, completed or
archived only if custody is verified by then; only `confirm_final` verifies it; and an offer that
`f` retained keeps its body, digest, size and render job. -/
theorem custody_protection (d : Deployment) (calls calls' : List Call) (c : Call) (jobId : String)
    (f : JobFile) (hf : (run (Ledger.step d) Ledger.empty calls).file? jobId = some f) :
    ∃ g g', (run (Ledger.step d) Ledger.empty (calls ++ calls')).file? jobId = some g ∧
      (run (Ledger.step d) Ledger.empty (calls ++ calls' ++ [c])).file? jobId = some g' ∧
      KeepsCustody jobId c f g g' := by
  have hs := Ledger.linked_run d calls Ledger.linked_empty
  obtain ⟨g, hg, hrun⟩ := Ledger.run_file (d := d) hs calls' hf
  rw [← run_append] at hg
  have hs' := Ledger.linked_run d (calls ++ calls') Ledger.linked_empty
  obtain ⟨g', hg', hrun'⟩ := Ledger.step_file (d := d) hs' c hg
  refine ⟨g, g', hg, ?_, fun hp => ?_, fun hv hv' => ?_, fun hsome => ?_⟩
  · rw [run_append]
    exact hg'
  · exact (hrun'.protected_run (hrun.protected_run (Or.inl hp)).1).2
  · exact Call.confirms_of_allows (hrun'.confirmed_of_verified hv hv')
  · have hkept := hrun.offer_kept hsome
    have hbody : g.job.custody.offerBody = f.job.custody.offerBody := congrArg Prod.fst hkept
    exact (hrun'.offer_kept (hbody ▸ hsome)).trans hkept

/-- The worker of an offered job reports a failure, which parks the job. -/
theorem custody_protection_offered : ∃ f g g',
    (run (Ledger.step sampleDeployment) Ledger.empty offeredRun).file? "rjob_1" = some f ∧
      custodyProtected f.job = true ∧ f.job.custody.offerBody.isSome = true ∧
      KeepsCustody "rjob_1"
        (.ledger (.mark "rjob_1" (.failed .timeout "render timed out" true) (sampleContext "a")))
        f g g' := by
  obtain ⟨f, hf, hp⟩ := Ledger.exists_file
    (s := run (Ledger.step sampleDeployment) Ledger.empty offeredRun) (j := "rjob_1")
    (p := fun f => custodyProtected f.job && f.job.custody.offerBody.isSome) (by decide +kernel)
  rw [Bool.and_eq_true] at hp
  obtain ⟨g, g', -, -, hkeeps⟩ := custody_protection sampleDeployment offeredRun []
    (.ledger (.mark "rjob_1" (.failed .timeout "render timed out" true) (sampleContext "a")))
    "rjob_1" f hf
  exact ⟨f, g, g', hf, hp.1, hp.2, hkeeps⟩

end Run

end LotusReport.Jobs
