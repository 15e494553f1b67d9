import LotusReport.Jobs.Budget

/-!
# When a settlement returns

A settlement raises when the lease of its work item is gone, and when it has to
write a job row that the triggers refuse whatever is written. In a ledger that
calls have built nothing else makes it raise, because the rows of such a ledger
are regular.
-/

namespace LotusReport.Jobs

open Encoding Fallible StateMachine Relational JobFile

section Rows

/-- The offer columns do not fit together, in the words of `report_custody_shape`. -/
def offerMisshapen (job : JobRow) : Bool :=
  job.custody.offerBody.any fun body =>
    job.custody.policy ≠ requiredPolicy ||
    job.custody.offerSize ≠ some body.utf8ByteSize ||
    job.custody.offerSize.any (fun size => 8388608 < size || size < 1) ||
    !job.custody.offerSha256.any (fun sha => sha.length = 64 && isLowerHex sha) ||
    job.custody.offerVersion ≠ some "json-utf8-compact.v1" ||
    job.custody.offerGeneration ≠ 1 || job.render.jobId.isNone

/-- The statuses that `report_custody_shape` keeps from a job with traces outside the ledger. -/
def shapeSettled : List ReportJobStatus :=
  [.failed, .cancelled, .archived, .completed, .completedWithWarnings]

/-- The triggers refuse every update of the job row: the job left traces outside the ledger after
it had been settled. -/
def Stuck (job : JobRow) : Prop :=
  job.custody.policy = requiredPolicy ∧ job.custody.state ≠ some .verified ∧
    shapeProtected job = true ∧ job.status ∈ shapeSettled

instance (job : JobRow) : Decidable (Stuck job) := by
  unfold Stuck
  infer_instance

/-- The columns of a verified delivery. -/
structure Delivered (job : JobRow) : Prop where
  status : job.status = .archived
  verification : job.custody.verification.isSome = true
  archiveRequest : job.archiveRequestId.isSome = true
  archiveDocument : job.archiveDocumentId.isSome = true
  offer : job.custody.offerSha256.isSome = true

/-- What holds of the rows of every job that calls have built. -/
structure Regular (f : JobFile) : Prop where
  offer : offerMisshapen f.job = false
  counts : custodyChecks f.job.custody = true
  status : f.job.status ≠ .queued
  required : VerifiedIsRequired f
  delivered : Verified f → Delivered f.job
  offered : f.job.custody.policy = requiredPolicy → f.job.custody.offerSha256 ≠ some ""
  rendered : f.job.custody.policy = requiredPolicy → f.job.render.jobId ≠ some ""

theorem custodyShape_eq_false_iff {old new : JobRow} : custodyShape old new = false ↔
    offerMisshapen new = false ∧
      ¬ (new.custody.policy = requiredPolicy ∧ new.custody.state ≠ some .verified ∧
        shapeProtected old = true ∧ new.status ∈ shapeSettled) ∧
      old.custody.initialCount ≤ new.custody.initialCount ∧
      (new.custody.state = some .verified → new.custody.verification.isSome = true ∧
        new.archiveRequestId.isSome = true ∧ new.archiveDocumentId.isSome = true ∧
          old.custody.offerSha256.isSome = true) := by
  have hunfold : custodyShape old new = (offerMisshapen new ||
      (new.custody.policy == requiredPolicy && new.custody.state ≠ some .verified &&
        shapeProtected old && new.status ∈ shapeSettled) ||
      new.custody.initialCount < old.custody.initialCount ||
      (new.custody.state == some .verified &&
        (new.custody.verification.isNone || new.archiveRequestId.isNone ||
          new.archiveDocumentId.isNone || old.custody.offerSha256.isNone))) := rfl
  rw [hunfold]
  simp only [Bool.or_eq_false_iff, Bool.and_eq_false_iff, beq_eq_false_iff_ne,
    decide_eq_false_iff_not, not_and, Nat.not_lt, and_assoc, Option.isNone_eq_false_iff]
  refine and_congr Iff.rfl (and_congr ?_ (and_congr Iff.rfl (by tauto)))
  cases shapeProtected old <;> simp
  all_goals tauto

section Admitted

variable {old new : JobRow}

theorem Admitted.archived (h : Admitted old new) (hold : old.custody.state = some .verified) :
    new.status = .archived := by
  have hkept := h.immutable
  simp only [custodyImmutable, hold, Bool.or_eq_false_iff, beq_self_eq_true, Bool.true_and,
    decide_eq_false_iff_not, ne_eq, Decidable.not_not] at hkept
  exact hkept.2.1.1

end Admitted

end Rows

section Step

variable {e : Effect} {f f' : JobFile}

theorem Regular.of_job (h : Regular f) (hjob : f'.job = f.job) : Regular f' := by
  obtain ⟨hoffer, hcounts, hstatus, hrequired, hdelivered, hoffered, hrendered⟩ := h
  refine ⟨hjob ▸ hoffer, hjob ▸ hcounts, hjob ▸ hstatus, ?_, ?_, hjob ▸ hoffered, hjob ▸ hrendered⟩
  · unfold VerifiedIsRequired
    rw [hjob]
    exact hrequired
  · unfold Verified
    rw [hjob]
    exact hdelivered

theorem regular_of_opened (h : Opened f) : Regular f := by
  have hbody : f.job.custody.offerBody = none := by rw [h.custody]
  have hsha : f.job.custody.offerSha256 = none := by rw [h.custody]
  constructor
  · simp [offerMisshapen, hbody]
  · rw [h.custody]
    rfl
  · rw [h.status]
    decide
  · exact verifiedIsRequired_of_opened h
  · intro hv
    rw [Verified, h.custody] at hv
    cases hv
  · simp [hsha]
  · simp [h.render]

/-- An update that the triggers admit keeps the rows regular when it leaves the digest of the offer
alone and verifies no job. -/
theorem Regular.admitted (hf : Regular f) (hadmitted : Admitted f.job f'.job)
    (hpolicy : f'.job.custody.policy = f.job.custody.policy)
    (hsha : f'.job.custody.offerSha256 = f.job.custody.offerSha256)
    (hcounts : custodyChecks f'.job.custody = true) (hstatus : f'.job.status ≠ .queued)
    (hverified : Verified f' → Verified f ∨ f'.job.status = .archived)
    (hrequired : VerifiedIsRequired f')
    (hrendered : f.job.custody.policy = requiredPolicy → f'.job.render.jobId ≠ some "") :
    Regular f' := by
  obtain ⟨hoffer, -, -, hdelivered⟩ := custodyShape_eq_false_iff.mp hadmitted.shape
  refine ⟨hoffer, hcounts, hstatus, hrequired, fun hv => ?_, ?_, ?_⟩
  · obtain ⟨hverification, hrequest, hdocument, hretained⟩ := hdelivered hv
    refine ⟨?_, hverification, hrequest, hdocument, hsha ▸ hretained⟩
    rcases hverified hv with hold | harchived
    · exact hadmitted.archived hold
    · exact harchived
  · rw [hpolicy, hsha]
    exact hf.offered
  · rw [hpolicy]
    exact hrendered

/-- Custody lets a required job through the generic path only into statuses that write no render
column. -/
theorem Unguarded.render {job : JobRow} {t : Transition} (hguard : Unguarded job t.toStatus)
    (ht : t.Plain) (hpolicy : job.custody.policy = requiredPolicy) : t.render = {} := by
  obtain ⟨hverified, hopen⟩ := hguard hpolicy
  by_cases hstate : job.custody.state = some .verified
  · have harchived := hverified hstate
    apply ht.render
    · simp [harchived]
    · simp [harchived]
  · have hfree := (hopen hstate).1
    apply ht.render
    · intro htarget
      simp [htarget] at hfree
    · intro htarget
      simp [htarget] at hfree

/-- No transition leads into the status `queued`. -/
theorem ne_queued_of_transitionAllowed {current target : ReportJobStatus}
    (h : isReportJobTransitionAllowed current target = true) : target ≠ .queued := by
  rintro rfl
  cases h

theorem custodyChecks_counted {c : CustodyColumns} {operation : CustodyOperation}
    {window next : Instant} (hc : custodyChecks c = true)
    (hbudget : (budget c operation).1 < (budget c operation).2) :
    custodyChecks (reservedCustody c operation window next) = true := by
  simp only [custodyChecks, Bool.and_eq_true, decide_eq_true_eq] at hc ⊢
  cases operation <;> simp only [budget, reservedCustody, counted] at hbudget ⊢ <;> omega

theorem FileStep.regular (h : FileStep e f f') (hf : Regular f) : Regular f' := by
  have hrequired := h.verifiedIsRequired hf.required
  have hpolicy := h.policy_eq
  cases h with
  | record | claim | complete | settle | defer | retry | exhaustTerminal | exhaustSettled
  | enqueue => exact hf.of_job rfl
  | @move _ t _ _ ht hguard hallowed hadmitted he =>
      refine hf.admitted hadmitted rfl rfl hf.counts (ne_queued_of_transitionAllowed hallowed)
        Or.inl hrequired fun hreq => ?_
      simpa [movedFile, transitionedJob, hguard.render ht hreq] using hf.rendered hreq
  | cancel hguard hcancellable hadmitted =>
      exact hf.admitted hadmitted rfl rfl hf.counts (by simp [cancelledJob]) Or.inl hrequired
        hf.rendered
  | park _ hstate _ hadmitted | exhaustParked _ hstate _ _ hadmitted =>
      refine hf.admitted hadmitted rfl rfl hf.counts hf.status (fun hv => ?_) hrequired hf.rendered
      cases hv
  | claimRequired _ _ _ hadmitted =>
      exact hf.admitted hadmitted rfl rfl hf.counts hf.status Or.inl hrequired hf.rendered
  | @exhaustFailed _ _ _ _ t _ _ _ _ _ _ _ ht hfailed hguard _ hadmitted =>
      rw [← hfailed] at hguard
      refine hf.admitted hadmitted rfl rfl hf.counts ?_ Or.inl hrequired fun hreq => ?_
      · simp [movedFile, transitionedJob, setWork, hfailed]
      · simpa [movedFile, transitionedJob, setWork, hguard.render ht hreq] using hf.rendered hreq
  | offer _ _ _ _ hrender hadmitted =>
      obtain ⟨hshape, -⟩ := custodyShape_eq_false_iff.mp hadmitted.shape
      refine ⟨hshape, hf.counts, by simp [offeredJob], hrequired, fun hv => ?_, fun _ => ?_,
        fun _ => by simpa [offeredJob] using hrender⟩
      · cases hv
      · rintro hempty
        simp only [offeredJob, Option.some.injEq] at hempty
        simp [offerMisshapen, offeredJob, hempty] at hshape
  | reserve _ _ _ hbudget hadmitted =>
      exact hf.admitted hadmitted (by simp [withCustody]) (by simp [withCustody])
        (custodyChecks_counted hf.counts hbudget) hf.status
        (fun hv => Or.inl (by simpa [Verified, withCustody] using hv)) hrequired hf.rendered
  | refuse =>
      refine ⟨hf.offer, hf.counts, hf.status, hrequired, fun hv => ?_, hf.offered, hf.rendered⟩
      cases hv
  | archiveRequest =>
      refine ⟨hf.offer, hf.counts, by simp [requestedFile, requestedJob], hrequired, fun hv => ?_,
        hf.offered, hf.rendered⟩
      cases hv
  | wait _ _ _ hadmitted =>
      refine hf.admitted hadmitted rfl rfl hf.counts hf.status (fun hv => ?_) hrequired hf.rendered
      cases hv
  | schedule _ _ hadmitted =>
      exact hf.admitted hadmitted rfl rfl hf.counts hf.status Or.inl hrequired hf.rendered
  | confirm _ _ hadmitted =>
      exact hf.admitted hadmitted rfl rfl hf.counts (by simp [verifiedJob]) (fun _ => Or.inr rfl)
        hrequired hf.rendered
  | resume _ _ _ _ hadmitted =>
      refine hf.admitted hadmitted rfl rfl ?_ hf.status (fun hv => ?_) hrequired hf.rendered
      · have hcounts := hf.counts
        simp only [custodyChecks, Bool.and_eq_true, decide_eq_true_eq] at hcounts
        simp [custodyChecks, resumedJob, hcounts.1.1]
      · cases hv

theorem regular_run (d : Deployment) (calls : List Call) (jobId : String) (f : JobFile)
    (hf : (run (Ledger.step d) Ledger.empty calls).file? jobId = some f) : Regular f :=
  Ledger.file_invariant (fun _ => regular_of_opened) (fun _ _ _ hstep => hstep.regular) d calls hf

end Step

section Returns

variable {f : JobFile} {w : WorkRow} {workItemId token : String} {now : Instant}

theorem appendStatusEvent_returns {fromStatus : Option ReportJobStatus}
    {toStatus : ReportJobStatus} {eventType : String} {payload : Fields}
    {key : Option String} {contract : ReportStatusEventContract}
    (h : buildReportStatusEventContract eventType fromStatus toStatus payload key = .ok contract)
    (message : Option String) (actor correlationId traceId : String) (createdAt : Instant) :
    ∃ f', f.appendStatusEvent fromStatus toStatus eventType message payload key actor
      correlationId traceId createdAt = .ok f' := by
  unfold appendStatusEvent
  rw [h]
  exact ⟨_, rfl⟩

theorem parkedContract (status : ReportJobStatus) (reason : String) :
    ∃ contract, buildReportStatusEventContract "job_custody_parked" (some status) status
      [("reason_code", .str reason)] none = .ok contract :=
  ⟨_, rfl⟩

theorem failedContract (status : ReportJobStatus) {category message : String}
    (hcategory : category ≠ "") (hmessage : message ≠ "") :
    ∃ contract, buildReportStatusEventContract "job_failed" (some status) .failed
      [("current_step", .str "failed"), ("failure_category", .str category),
        ("failure_message", .str message)] none = .ok contract := by
  have hmissing : missingPayloadFields "job_failed" (completedPayload "job_failed" (some status)
      .failed [("current_step", .str "failed"), ("failure_category", .str category),
        ("failure_message", .str message)]) = [] := by
    have hfields : ((requiredPayloadFieldsByEventType.find? fun e => e.1 == "job_failed").map
        Prod.snd).getD [] = ["failure_category", "failure_message"] := by decide
    unfold missingPayloadFields
    rw [hfields]
    simp [completedPayload, setDefault, Json.lookup, Json.truthy, hcategory, hmessage]
  simp only [buildReportStatusEventContract, hmissing]
  exact ⟨_, rfl⟩

theorem exhaustedTransition_payload (category : ReportFailureCategory) (summary : String) :
    ∃ message, message ≠ "" ∧ transitionEventPayload (exhaustedTransition category summary) =
      [("current_step", .str "failed"), ("failure_category", .str category.text),
        ("failure_message", .str message)] := by
  refine ⟨clip 500 ("Durable report processing exhausted its permitted attempts. " ++
    clip 240 (collapse summary)), fun hempty => ?_, ?_⟩
  · have hlist := congrArg String.toList hempty
    simp [clip] at hlist
  · simp [transitionEventPayload, exhaustedTransition, optionalField]

theorem category_text_ne (category : ReportFailureCategory) : category.text ≠ "" := by
  cases category <;> decide

/-- The triggers see a required job as protected only when custody does. -/
theorem Regular.protected_of_shape (hf : Regular f) (hpolicy : f.job.custody.policy = requiredPolicy)
    (hstate : f.job.custody.state ≠ some .verified) (h : shapeProtected f.job = true) :
    custodyProtected f.job = true := by
  rw [custodyProtected_iff]
  refine ⟨hpolicy, hstate, ?_⟩
  have hpresent : ∀ {column : Option String}, column ≠ some "" → column.isSome = true →
      present column = true := by
    intro column hne hsome
    obtain ⟨text, rfl⟩ := Option.isSome_iff_exists.mp hsome
    simpa [present] using hne
  simp only [shapeProtected, Bool.or_eq_true, decide_eq_true_eq] at h
  rcases h with ((hsha | hrender) | hcount) | hstatus
  · exact Or.inl (hpresent (hf.offered hpolicy) hsha)
  · exact Or.inr (Or.inl (hpresent (hf.rendered hpolicy) hrender))
  · exact Or.inr (Or.inr (Or.inr (Or.inl (by omega))))
  · exact Or.inr (Or.inr (Or.inr (Or.inr hstatus)))

theorem Regular.protected_of_stuck (hf : Regular f) (h : Stuck f.job) :
    custodyProtected f.job = true := hf.protected_of_shape h.1 h.2.1 h.2.2.1

theorem admitUpdate_eq_ok_iff {old new : JobRow} : admitUpdate old new = .ok () ↔
    custodyImmutable old new = false ∧ custodyShape old new = false ∧
      custodyChecks new.custody = true := by
  unfold admitUpdate
  cases custodyImmutable old new <;> cases custodyShape old new <;>
    cases custodyChecks new.custody <;> simp

/-- The update that a park or a claim makes in the row of a required job is refused exactly when
the job is stuck. -/
theorem Regular.admits_iff (hf : Regular f) (hpolicy : f.job.custody.policy = requiredPolicy)
    (state : Option CustodyState) (reason : Option String) (epoch : Nat)
    (hstate : state = some .verified ↔ f.job.custody.state = some .verified) :
    admitUpdate f.job (withCustody f.job { f.job.custody with
      state := state, reason := reason, epoch := epoch }) = .ok () ↔ ¬ Stuck f.job := by
  rw [admitUpdate_eq_ok_iff, custodyShape_eq_false_iff]
  constructor
  · rintro ⟨-, ⟨-, hopen, -⟩, -⟩ ⟨-, hnot, hprotected, hsettled⟩
    exact hopen ⟨hpolicy, fun hv => hnot (hstate.mp hv), hprotected, hsettled⟩
  · intro hfree
    refine ⟨?_, ⟨hf.offer, ?_, le_rfl, fun hv => ?_⟩, hf.counts⟩
    · by_cases hv : f.job.custody.state = some .verified
      · simp [custodyImmutable, withCustody, hv, hstate.mpr hv, (hf.delivered hv).status]
      · simp [custodyImmutable, withCustody, hv]
    · rintro ⟨-, hnot, hprotected, hsettled⟩
      exact hfree ⟨hpolicy, fun hv => hnot (hstate.mpr hv), hprotected, hsettled⟩
    · have hdelivered := hf.delivered (hstate.mp hv)
      exact ⟨hdelivered.verification, hdelivered.archiveRequest, hdelivered.archiveDocument,
        hdelivered.offer⟩

theorem Regular.park_returns (hf : Regular f) (hw : f.work = some w)
    (hpolicy : f.job.custody.policy = requiredPolicy)
    (hstate : f.job.custody.state ≠ some .verified) (reason : String) (now : Instant) :
    (∃ f', f.park reason now = .ok f') ↔ ¬ Stuck f.job := by
  rw [← hf.admits_iff hpolicy (some .blocked) (some (clip 80 reason))
    (f.job.custody.epoch + 1) (by simp [hstate])]
  constructor
  · rintro ⟨f', h⟩
    unfold park at h
    rw [if_neg hstate, hw] at h
    obtain ⟨f₁, hupdate, -⟩ := bind_eq_ok.mp h
    exact (updateJob_eq_ok_iff.mp hupdate).1
  · intro hadmits
    unfold park
    rw [if_neg hstate, hw]
    obtain ⟨contract, hcontract⟩ := parkedContract f.job.status (clip 80 reason)
    obtain ⟨f', hevent⟩ := appendStatusEvent_returns
      hcontract (some (clip 240 reason)) "report-job-worker"
      f.request.correlationId f.request.traceId now
    exact ⟨f', bind_eq_ok.mpr ⟨_, updateJob_eq_ok_iff.mpr ⟨hadmits, rfl⟩, hevent⟩⟩

/-- Custody deals with the work of every job but a stuck one. -/
theorem Regular.protectWork_returns (hf : Regular f) (hw : f.work = some w) (completing : Bool)
    (now : Instant) : (∃ r, f.protectWork completing now = .ok r) ↔ ¬ Stuck f.job := by
  unfold protectWork
  simp only [hw]
  split
  · rename_i hverified
    have hfree : ¬ Stuck f.job := fun hstuck => hstuck.2.1 hverified.2
    simp [hfree]
  · split
    · rename_i hprotected
      obtain ⟨hpolicy, hstate⟩ := custodyProtected_policy hprotected
      rw [← hf.park_returns hw hpolicy hstate
        (if completing then "custody_completion_blocked" else "custody_retry_exhausted") now]
      constructor
      · rintro ⟨r, h⟩
        obtain ⟨f₁, hpark, -⟩ := bind_eq_ok.mp h
        exact ⟨f₁, hpark⟩
      · rintro ⟨f₁, hpark⟩
        exact ⟨(true, f₁), bind_eq_ok.mpr ⟨f₁, hpark, rfl⟩⟩
    · rename_i hopen
      have hfree : ¬ Stuck f.job := fun hstuck => hopen (hf.protected_of_stuck hstuck)
      simp [hfree]

/-- The work item is leased under the token, and the lease of a required job has not run out. -/
def HeldUnder (f : JobFile) (w : WorkRow) (token : String) (now : Instant) : Prop :=
  leasedUnder w token = true ∧ (f.job.custody.policy = requiredPolicy →
    ∃ expiry, w.leaseExpiresAt = some expiry ∧ now < expiry.instant)

theorem lockPair_of_work (hw : f.work = some w) : f.lockPair = .ok () := by
  simp [lockPair, hw]

/-- A settlement of required work passes its check exactly under the lease. -/
theorem validateWork_returns (hw : f.work = some w) (hid : w.workItemId = workItemId) :
    f.validateWork workItemId token now = .ok () ↔
      (f.job.custody.policy = requiredPolicy → HeldUnder f w token now) := by
  unfold validateWork
  rw [lockPair_of_work hw]
  by_cases hpolicy : f.job.custody.policy = requiredPolicy
  · have hlease : f.holdsFence ⟨workItemId, token, f.job.custody.epoch⟩ now = true ↔
        HeldUnder f w token now := by
      unfold holdsFence HeldUnder leasedUnder
      simp only [hw, hid, beq_self_eq_true, Bool.true_and, Bool.and_true, Bool.and_eq_true,
        beq_iff_eq, decide_eq_true_eq, hpolicy, forall_const]
      cases w.leaseExpiresAt with
      | none => simp
      | some expiry => simp
    simp only [hpolicy, if_true, forall_const, bind, Except.bind, lease]
    rw [← hlease]
    split <;> simp_all
  · simp [hpolicy, bind, Except.bind]

theorem Regular.completeWork_returns (hf : Regular f) (hw : f.work = some w)
    (hid : w.workItemId = workItemId) :
    (∃ f', f.completeWork workItemId token now = .ok f') ↔
      HeldUnder f w token now ∧ ¬ Stuck f.job := by
  constructor
  · rintro ⟨f', h⟩
    obtain ⟨⟨⟩, hvalid, hwork⟩ := bind_eq_ok.mp h
    obtain ⟨⟨handled, f₁⟩, hprotect, hrest⟩ := bind_eq_ok.mp hwork
    refine ⟨?_, (hf.protectWork_returns hw true now).mp ⟨_, hprotect⟩⟩
    by_cases hpolicy : f.job.custody.policy = requiredPolicy
    · exact (validateWork_returns hw hid).mp hvalid hpolicy
    · refine ⟨?_, fun hreq => absurd hreq hpolicy⟩
      rcases protectWork_eq_ok hprotect with ⟨-, hstep⟩ | ⟨-, reason, hparked⟩ | ⟨rfl, rfl, -, -⟩
      · cases hstep with
        | settle hrequired => exact absurd hrequired hpolicy
      · exact absurd hparked.policy hpolicy
      · simp only [Bool.false_eq_true, if_false, hw] at hrest
        split at hrest
        · assumption
        · cases hrest
  · rintro ⟨hheld, hfree⟩
    obtain ⟨⟨handled, f₁⟩, hprotect⟩ := (hf.protectWork_returns hw true now).mpr hfree
    have hvalid := (validateWork_returns hw hid).mpr fun _ => hheld
    cases handled with
    | true => exact ⟨f₁, bind_eq_ok.mpr ⟨(), hvalid, bind_eq_ok.mpr ⟨_, hprotect, rfl⟩⟩⟩
    | false =>
        have hsame : f₁ = f := by
          rcases protectWork_eq_ok hprotect with ⟨hfalse, -⟩ | ⟨hfalse, -⟩ | ⟨-, hsame, -⟩
          · cases hfalse
          · cases hfalse
          · exact hsame
        subst hsame
        refine ⟨f₁.setWork (completedWork w now),
          bind_eq_ok.mpr ⟨(), hvalid, bind_eq_ok.mpr ⟨_, hprotect, ?_⟩⟩⟩
        simp only [Bool.false_eq_true, if_false, hw, hheld.1, if_true]
        rfl

theorem Regular.settleVerifiedWork_returns (hf : Regular f) (hw : f.work = some w) (now : Instant) :
    Verified f ∧ (∃ f', f.settleVerifiedWork now = .ok (some f')) ∨
      ¬ Verified f ∧ f.settleVerifiedWork now = .ok none := by
  unfold settleVerifiedWork
  by_cases hv : f.job.custody.state = some .verified
  · refine Or.inl ⟨hv, ?_⟩
    obtain ⟨⟨handled, f₁⟩, hprotect⟩ := (hf.protectWork_returns hw false now).mpr
      fun hstuck => hstuck.2.1 hv
    rw [if_pos hv]
    exact ⟨f₁, bind_eq_ok.mpr ⟨_, hprotect, rfl⟩⟩
  · exact Or.inr ⟨hv, if_neg hv⟩

/-- A deferral returns exactly when its lease is held. -/
theorem Regular.deferWork_returns (hf : Regular f) (hw : f.work = some w)
    (hid : w.workItemId = workItemId) {waitReason : String} {delaySeconds : Int} :
    (∃ f', f.deferWork workItemId token waitReason delaySeconds now = .ok f') ↔
      HeldUnder f w token now := by
  rcases hf.settleVerifiedWork_returns hw now with ⟨hv, f₁, hsettle⟩ | ⟨hv, hsettle⟩
  · have hpolicy := hf.required hv
    constructor
    · rintro ⟨f', h⟩
      obtain ⟨⟨⟩, hvalid, -⟩ := bind_eq_ok.mp h
      exact (validateWork_returns hw hid).mp hvalid hpolicy
    · intro hheld
      have hvalid := (validateWork_returns hw hid).mpr fun _ => hheld
      exact ⟨f₁, bind_eq_ok.mpr ⟨(), hvalid, bind_eq_ok.mpr ⟨_, hsettle, rfl⟩⟩⟩
  · constructor
    · rintro ⟨f', h⟩
      obtain ⟨⟨⟩, hvalid, hwork⟩ := bind_eq_ok.mp h
      obtain ⟨settled, hsettled, hrest⟩ := bind_eq_ok.mp hwork
      rw [hsettle] at hsettled
      cases hsettled
      simp only [hw] at hrest
      split at hrest
      · rename_i hlease
        exact ⟨hlease, fun hpolicy => ((validateWork_returns hw hid).mp hvalid hpolicy).2 hpolicy⟩
      · cases hrest
    · intro hheld
      have hvalid := (validateWork_returns hw hid).mpr fun _ => hheld
      unfold deferWork
      simp only [hvalid, hsettle, hw, hheld.1, if_true, bind, Except.bind]
      exact ⟨_, rfl⟩

theorem transitionAllowed_failed {status : ReportJobStatus} (hopen : status.terminal = false)
    (hqueued : status ≠ .queued) : isReportJobTransitionAllowed status .failed = true := by
  cases status <;> simp_all [ReportJobStatus.terminal, isReportJobTransitionAllowed,
    ReportJobStatus.transitionAllowedFrom]

/-- The failure of a job that custody does not protect is recorded without an exception. -/
theorem Regular.transition_failed_returns (hf : Regular f) (hw : f.work = some w)
    (hopen : f.job.status.terminal = false) (hunprotected : custodyProtected f.job = false)
    (hunverified : ¬ Verified f) (category : ReportFailureCategory)
    (summary actor correlationId traceId : String) (now : Instant) :
    ∃ f', f.transitionJob (exhaustedTransition category summary)
      ⟨actor, correlationId, traceId, none, now⟩ = .ok f' := by
  have hguard : f.guardTransition .failed none now = .ok (false, f) := by
    unfold guardTransition
    split
    · rfl
    · simp only [lockPair_of_work hw, requireWorkerLease, bind, Except.bind]
      have hstate : f.job.custody.state ≠ some .verified := hunverified
      simp [hstate, hunprotected, pure, Except.pure]
  have hnot : f.job.status ≠ .failed := by
    intro hfailed
    rw [hfailed] at hopen
    cases hopen
  have hadmits : admitUpdate f.job
      (transitionedJob f.job (exhaustedTransition category summary) now) = .ok () := by
    rw [admitUpdate_eq_ok_iff, custodyShape_eq_false_iff]
    have hstate : f.job.custody.state ≠ some .verified := hunverified
    refine ⟨?_, ⟨hf.offer, ?_, le_rfl, fun hv => absurd hv hstate⟩, hf.counts⟩
    · simp [custodyImmutable, transitionedJob, exhaustedTransition, hstate]
    · rintro ⟨hpolicy, -, hshape, -⟩
      rw [hf.protected_of_shape hpolicy hstate hshape] at hunprotected
      cases hunprotected
  obtain ⟨message, hmessage, hpayload⟩ := exhaustedTransition_payload category summary
  obtain ⟨contract, hcontract⟩ := failedContract f.job.status (category_text_ne category) hmessage
  rw [← hpayload] at hcontract
  obtain ⟨f', hevent⟩ := appendStatusEvent_returns (f := { f with
    job := transitionedJob f.job (exhaustedTransition category summary) now }) hcontract
    (some (clip 240 (collapse summary))) actor correlationId traceId now
  refine ⟨f', bind_eq_ok.mpr ⟨(false, f), hguard, ?_⟩⟩
  have htarget : (exhaustedTransition category summary).toStatus = .failed := rfl
  simp only [Bool.false_eq_true, if_false, htarget, hnot,
    transitionAllowed_failed hopen hf.status, Bool.not_true]
  exact bind_eq_ok.mpr ⟨_, updateJob_eq_ok_iff.mpr ⟨hadmits, rfl⟩, hevent⟩

/-- The last attempt of a work item ends without an exception unless the job is stuck. -/
theorem Regular.terminalizeFromWork_returns (hf : Regular f) (hw : f.work = some w) (actor : String)
    (category : ReportFailureCategory) (summary : String) (now : Instant) :
    (∃ f', f.terminalizeFromWork actor category summary none now = .ok f') ↔ ¬ Stuck f.job := by
  rw [← hf.protectWork_returns hw false now]
  constructor
  · rintro ⟨f', h⟩
    obtain ⟨r, hprotect, -⟩ := bind_eq_ok.mp h
    exact ⟨r, hprotect⟩
  · rintro ⟨⟨handled, f₁⟩, hprotect⟩
    unfold terminalizeFromWork
    rw [hprotect]
    rcases protectWork_eq_ok hprotect with ⟨rfl, -⟩ | ⟨rfl, -⟩ | ⟨rfl, rfl, hunprotected, hnot⟩
    · exact ⟨f₁, rfl⟩
    · exact ⟨f₁, rfl⟩
    · have hunverified : ¬ Verified f₁ := fun hv => hnot ⟨hf.required hv, hv⟩
      simp only [bind, Except.bind, Bool.false_eq_true, if_false]
      split
      · exact ⟨f₁, rfl⟩
      · rename_i hopen
        exact hf.transition_failed_returns hw (by simpa using hopen) hunprotected hunverified
          category summary _ _ _ now

/-- A failed or expired attempt is written without an exception, unless it is the last one that the
policy permits and the job is stuck. -/
theorem Regular.attempt_returns (hf : Regular f) (w' : WorkRow) (terminal : Bool) (actor : String)
    (category : ReportFailureCategory) (summary : String) (now : Instant) :
    (∃ f', (if terminal = true then
        (f.setWork w').terminalizeFromWork actor category summary none now
      else .ok (f.setWork w')) = .ok f') ↔ (terminal = true → ¬ Stuck f.job) := by
  cases terminal with
  | true =>
      have hwritten : Regular (f.setWork w') := hf.of_job rfl
      simp only [if_true, forall_const]
      exact hwritten.terminalizeFromWork_returns rfl actor category summary now
  | false => simp

/-- A failure returns exactly when its lease is held and, on the last permitted attempt, the job is
not stuck. -/
theorem Regular.failWork_returns (hf : Regular f) (hw : f.work = some w)
    (hid : w.workItemId = workItemId) {errorCategory errorSummary : String}
    {policy : ReportJobWorkRetryPolicy} :
    (∃ f', f.failWork workItemId token errorCategory errorSummary policy none now = .ok f') ↔
      HeldUnder f w token now ∧ (policy.maxAttempts ≤ w.attemptCount → ¬ Stuck f.job) := by
  rcases hf.settleVerifiedWork_returns hw now with ⟨hv, f₁, hsettle⟩ | ⟨hv, hsettle⟩
  · have hpolicy := hf.required hv
    have hfree : ¬ Stuck f.job := fun hstuck => hstuck.2.1 hv
    simp only [hfree, not_false_eq_true, implies_true, and_true]
    constructor
    · rintro ⟨f', h⟩
      obtain ⟨⟨⟩, hvalid, -⟩ := bind_eq_ok.mp h
      exact (validateWork_returns hw hid).mp hvalid hpolicy
    · intro hheld
      have hvalid := (validateWork_returns hw hid).mpr fun _ => hheld
      exact ⟨f₁, bind_eq_ok.mpr ⟨(), hvalid, bind_eq_ok.mpr ⟨_, hsettle, rfl⟩⟩⟩
  · have hattempt := hf.attempt_returns
      (failedWork w (decideReportJobWorkFailure w.attemptCount now policy).status
        (clip 80 errorCategory) (clip 240 (collapse errorSummary))
        (f.scheduledAt (decideReportJobWorkFailure w.attemptCount now policy).availableAt) now)
      (decideReportJobWorkFailure w.attemptCount now policy).terminal
      (if present w.leaseOwner then w.leaseOwner.getD "" else "report-job-worker")
      .operatorInterventionRequired errorSummary now
    have hterminal : (decideReportJobWorkFailure w.attemptCount now policy).terminal = true ↔
        policy.maxAttempts ≤ w.attemptCount := by simp [decideReportJobWorkFailure]
    rw [← hterminal, ← hattempt]
    constructor
    · rintro ⟨f', h⟩
      obtain ⟨⟨⟩, hvalid, hwork⟩ := bind_eq_ok.mp h
      obtain ⟨settled, hsettled, hrest⟩ := bind_eq_ok.mp hwork
      rw [hsettle] at hsettled
      cases hsettled
      simp only [hw] at hrest
      split at hrest
      · rename_i hlease
        refine ⟨⟨hlease, fun hpolicy => ?_⟩, f', hrest⟩
        exact ((validateWork_returns hw hid).mp hvalid hpolicy).2 hpolicy
      · cases hrest
    · rintro ⟨hheld, f', hdone⟩
      have hvalid := (validateWork_returns hw hid).mpr fun _ => hheld
      unfold failWork
      simp only [hvalid, hsettle, hw, hheld.1, if_true, bind, Except.bind]
      exact ⟨f', hdone⟩

/-- The recovery of an expired lease returns, unless the attempt was the last one and the job is
stuck. -/
theorem Regular.expireWork_returns (hf : Regular f) (hw : f.work = some w)
    {policy : ReportJobWorkRetryPolicy} {recoveredAt : Instant}
    (hexpired : workLeaseExpired (dtToText recoveredAt) w = true) :
    (∃ f', f.expireWork policy none recoveredAt now = .ok f') ↔
      (policy.maxAttempts ≤ w.attemptCount → ¬ Stuck f.job) := by
  have hattempt := hf.attempt_returns
    (failedWork w (decideReportJobWorkFailure w.attemptCount
        ((w.leaseExpiresAt.map (·.instant)).getD recoveredAt) policy).status "expired_work_lease"
      "Report job work lease expired before completion."
      (decideReportJobWorkFailure w.attemptCount
        ((w.leaseExpiresAt.map (·.instant)).getD recoveredAt) policy).availableAt recoveredAt)
    (decideReportJobWorkFailure w.attemptCount
      ((w.leaseExpiresAt.map (·.instant)).getD recoveredAt) policy).terminal
    (if present w.leaseOwner then w.leaseOwner.getD "" else "report-job-worker")
    .timeout "Report job work lease expired after the final permitted attempt." now
  have hterminal : (decideReportJobWorkFailure w.attemptCount
      ((w.leaseExpiresAt.map (·.instant)).getD recoveredAt) policy).terminal = true ↔
        policy.maxAttempts ≤ w.attemptCount := by simp [decideReportJobWorkFailure]
  rw [← hterminal, ← hattempt]
  unfold expireWork
  simp only [hw, hexpired, if_true]

/-- A claim of runnable work returns, unless the job is required and the lease is too short or the
job is stuck. -/
theorem Regular.claimWork_returns (hf : Regular f) (hw : f.work = some w)
    (hstatus : w.status ∈ [ReportJobWorkStatus.pending, .retryPending]) {workerId token : String}
    {leaseSeconds : Int} {claimedAt : Instant} :
    (∃ r, f.claimWork workerId token leaseSeconds claimedAt now = .ok r) ↔
      (f.job.custody.policy = requiredPolicy → 120 ≤ leaseSeconds ∧
        now < claimedAt + seconds leaseSeconds ∧ ¬ Stuck f.job) := by
  have hclaim : (∃ r, f.claimWork workerId token leaseSeconds claimedAt now = .ok r) ↔
      ∃ f', (f.setWork (leasedWork w workerId token leaseSeconds claimedAt)).claimed
        leaseSeconds now = .ok f' := by
    unfold claimWork
    simp only [hw, hstatus, if_true]
    constructor
    · rintro ⟨r, h⟩
      obtain ⟨f', hclaimed, -⟩ := bind_eq_ok.mp h
      exact ⟨f', hclaimed⟩
    · rintro ⟨f', hclaimed⟩
      exact ⟨_, bind_eq_ok.mpr ⟨f', hclaimed, rfl⟩⟩
  rw [hclaim]
  by_cases hpolicy : f.job.custody.policy = requiredPolicy
  · have hadmits := hf.admits_iff hpolicy f.job.custody.state f.job.custody.reason
      (f.job.custody.epoch + 1) Iff.rfl
    have hlease : (f.setWork (leasedWork w workerId token leaseSeconds claimedAt)).holdsFence
        ⟨w.workItemId, token, f.job.custody.epoch⟩ now = true ↔
          now < claimedAt + seconds leaseSeconds := by
      simp [holdsFence, setWork, leasedWork, dtToText]
    simp only [hpolicy, forall_const]
    rw [← hadmits, ← hlease]
    unfold claimed
    simp only [setWork, hpolicy, if_true]
    by_cases hshort : leaseSeconds < 120
    · simp [hshort]
    · simp only [hshort, if_false]
      constructor
      · rintro ⟨f', h⟩
        obtain ⟨⟨⟩, hheld, hupdate⟩ := bind_eq_ok.mp h
        exact ⟨by omega, lease_eq_ok hheld, (updateJob_eq_ok_iff.mp hupdate).1⟩
      · rintro ⟨-, hheld, hupdate⟩
        refine ⟨_, bind_eq_ok.mpr ⟨(), ?_, updateJob_eq_ok_iff.mpr ⟨hupdate, rfl⟩⟩⟩
        exact if_pos hheld
  · simp only [hpolicy, false_implies, iff_true]
    refine ⟨f.setWork (leasedWork w workerId token leaseSeconds claimedAt), ?_⟩
    unfold claimed
    simp [setWork, hpolicy]

end Returns

namespace Ledger

/-- A ledger that calls have built: the foreign keys hold and the rows of every job are regular. -/
structure Sound (s : Ledger) : Prop where
  linked : s.Linked
  regular : ∀ jobId f, s.file? jobId = some f → Regular f

/-- The rows of the job that owns the work item, and the work item, have the property. -/
def AtWorkItem (s : Ledger) (workItemId : String) (P : JobFile → WorkRow → Prop) : Prop :=
  ∃ f w, s.file? w.reportJobId = some f ∧ f.work = some w ∧ w.workItemId = workItemId ∧ P f w

section Sound

variable {d : Deployment} {s t : Ledger} {workItemId jobId : String} {f f' : JobFile}
  {P Q : JobFile → WorkRow → Prop}

theorem sound_run (d : Deployment) (calls : List Call) :
    Sound (run (Ledger.step d) Ledger.empty calls) :=
  ⟨linked_run d calls linked_empty, regular_run d calls⟩

theorem Sound.run (h : Sound s) (calls : List Call) : Sound (run (Ledger.step d) s calls) :=
  ⟨linked_run d calls h.linked, fun _ _ hf => file_invariant_of_allows (P := fun _ => True)
    (fun _ => regular_of_opened) (fun _ _ _ _ hstep => hstep.regular) d calls
    (fun _ _ _ _ _ => trivial) h.linked h.regular hf⟩

theorem Sound.step (h : Sound s) (c : Call) : Sound (s.step d c) := h.run [c]

theorem Sound.changes {A : String → Effect → Prop} (h : Sound s)
    (hchanges : s.Changes A t) : Sound t := by
  refine ⟨hchanges.linked h.linked, fun jobId f hf => ?_⟩
  rcases hchanges.file jobId with ⟨-, hnone⟩ | ⟨f₀, f₁, hf₀, hf₁, hrun⟩
  · rw [hf] at hnone
    cases hnone
  · rw [hf] at hf₁
    cases hf₁
    exact hrun.invariant (fun _ _ _ _ hstep => hstep.regular) (h.regular jobId f₀ hf₀)

theorem atWorkItem_congr (h : ∀ jobId f w, s.file? jobId = some f → f.work = some w →
    w.workItemId = workItemId → (P f w ↔ Q f w)) :
    s.AtWorkItem workItemId P ↔ s.AtWorkItem workItemId Q := by
  constructor
  · rintro ⟨f, w, hf, hw, hid, hP⟩
    exact ⟨f, w, hf, hw, hid, (h _ f w hf hw hid).mp hP⟩
  · rintro ⟨f, w, hf, hw, hid, hQ⟩
    exact ⟨f, w, hf, hw, hid, (h _ f w hf hw hid).mpr hQ⟩

theorem onWorkItem_returns {α : Type} (missing : LedgerError)
    {op : JobFile → Except LedgerError (α × JobFile)} :
    (∃ r, s.onWorkItem workItemId missing op = .ok r) ↔
      s.AtWorkItem workItemId fun f _ => ∃ r, op f = .ok r := by
  constructor
  · rintro ⟨⟨a, t⟩, h⟩
    obtain ⟨w, f, f', hw, hf, hwork, hop, -⟩ := onWorkItem_eq_ok h
    exact ⟨f, w, hf, hwork, Table.key_of_find? hw, ⟨(a, f'), hop⟩⟩
  · rintro ⟨f, w, hf, hw, rfl, ⟨a, f'⟩, hop⟩
    unfold onWorkItem onJob
    rw [find?_of_work hf hw]
    simp only [hf, hop]
    exact ⟨_, rfl⟩

/-- A transaction on one job leaves the work items of the others alone. -/
theorem atWorkItem_store (hf : s.file? jobId = some f) (hstep : f.Continues f')
    (hfresh : FreshWork s f f') {w : WorkRow} (hw : f.work = some w)
    (hne : w.workItemId ≠ workItemId) :
    (s.store f').AtWorkItem workItemId P ↔ s.AtWorkItem workItemId P := by
  have hfile := file?_store hf hstep hfresh
  obtain ⟨w', hw', hid', howner⟩ := hstep.work w hw
  constructor
  · rintro ⟨g, v, hg, hv, hid, hP⟩
    rw [hfile] at hg
    split at hg
    · cases hg
      rw [hw'] at hv
      cases hv
      exact absurd (hid'.symm.trans hid) hne
    · exact ⟨g, v, hg, hv, hid, hP⟩
  · rintro ⟨g, v, hg, hv, hid, hP⟩
    refine ⟨g, v, ?_, hv, hid, hP⟩
    rw [hfile, if_neg]
    · exact hg
    · rintro rfl
      rw [hf] at hg
      cases hg
      rw [hw] at hv
      cases hv
      exact hne hid

/-- The transactions on a list of work items return exactly when each one would return at the
start. -/
theorem forEachWorkItem_returns {op : JobFile → Except LedgerError (Option WorkRow × JobFile)}
    (hop : ∀ f f' b, op f = .ok (b, f') → f' = f ∨ ∃ e, e ≠ .enqueued ∧ FileStep e f f')
    (hs : s.Linked) {n : Nat} {ids : List String} (hnodup : ids.Nodup) :
    (∃ r, forEachWorkItem (fun _ => op) s n ids = .ok r) ↔
      ∀ id ∈ ids, s.AtWorkItem id fun f _ => ∃ r, op f = .ok r := by
  induction ids generalizing s n with
  | nil => simp [forEachWorkItem]
  | cons id ids ih =>
      obtain ⟨hnotin, hnodup⟩ := List.nodup_cons.mp hnodup
      have hlater : ∀ {row : Option WorkRow} {t : Ledger},
          s.onWorkItem id leaseNotOwned op = .ok (row, t) → t.Linked ∧ ∀ id' ∈ ids,
            (t.AtWorkItem id' (fun f _ => ∃ r, op f = .ok r) ↔
              s.AtWorkItem id' fun f _ => ∃ r, op f = .ok r) := by
        intro row t h
        obtain ⟨w, f, f', hfound, hf, hw, hdone, rfl⟩ := onWorkItem_eq_ok h
        have hid : w.workItemId = id := Table.key_of_find? hfound
        rcases hop f f' row hdone with rfl | ⟨e, hne, hstep⟩
        · rw [store_self hf]
          exact ⟨hs, fun _ _ => Iff.rfl⟩
        · refine ⟨linked_store hs hf hstep.continues, fun id' hin => ?_⟩
          refine atWorkItem_store hf hstep.continues (freshWork_of_ne hstep hne s) hw ?_
          rintro rfl
          exact hnotin (hid ▸ hin)
      rw [List.forall_mem_cons, ← onWorkItem_returns leaseNotOwned]
      constructor
      · rintro ⟨r, h⟩
        obtain ⟨⟨row, t⟩, hfirst, hrest⟩ := bind_eq_ok.mp h
        obtain ⟨r', hnext, -⟩ := bind_eq_ok.mp hrest
        obtain ⟨ht, hsame⟩ := hlater hfirst
        refine ⟨⟨_, hfirst⟩, fun id' hin => ?_⟩
        exact (hsame id' hin).mp ((ih ht hnodup).mp ⟨r', hnext⟩ id' hin)
      · rintro ⟨⟨⟨row, t⟩, hfirst⟩, hall⟩
        obtain ⟨ht, hsame⟩ := hlater hfirst
        obtain ⟨⟨rows, u⟩, hnext⟩ := (ih ht hnodup).mpr fun id' hin =>
          (hsame id' hin).mpr (hall id' hin)
        exact ⟨_, bind_eq_ok.mpr ⟨_, hfirst, bind_eq_ok.mpr ⟨_, hnext, rfl⟩⟩⟩

end Sound

end Ledger

/-- The call settles a work item, by a worker that is bound to no lease. -/
def LedgerCall.SettlesUnbound : LedgerCall → Prop
  | .completeWorkItem _ _ _ | .deferWorkItem _ _ _ _ _ => True
  | .failWorkItem _ _ _ _ _ currentWorkLease _ => currentWorkLease = none
  | _ => False

namespace Ledger

section Calls

variable {s : Ledger}

/-- A settlement is made under its lease; one that has to write the job row, on a job that is not
stuck. -/
def Settleable (s : Ledger) : LedgerCall → Prop
  | .completeWorkItem workItemId leaseToken now =>
      s.AtWorkItem workItemId fun f w => HeldUnder f w leaseToken now ∧ ¬ Stuck f.job
  | .deferWorkItem workItemId leaseToken _ _ now =>
      s.AtWorkItem workItemId fun f w => HeldUnder f w leaseToken now
  | .failWorkItem workItemId leaseToken _ _ retryPolicy _ now =>
      s.AtWorkItem workItemId fun f w => HeldUnder f w leaseToken now ∧
        (retryPolicy.maxAttempts ≤ w.attemptCount → ¬ Stuck f.job)
  | _ => False

variable {d : Deployment} {t : Ledger} {c : LedgerCall}

theorem unvalued_returns {op : Except LedgerError JobFile} :
    (∃ r, unvalued op = .ok r) ↔ ∃ f', op = .ok f' := by
  cases op <;> simp [unvalued, bind, Except.bind, pure, Except.pure]

/-- A settlement by a worker that is bound to no lease returns exactly when it is settleable. -/
theorem settlement_returns (hs : Sound s) (hc : c.SettlesUnbound) :
    (∃ t, (Call.ledger c).perform d s = .ok t) ↔ s.Settleable c := by
  have hperform : ∀ {workItemId : String} {missing : LedgerError}
      {op : JobFile → Except LedgerError JobFile},
      (∃ t, (do return (← s.onWorkItem workItemId missing fun f => unvalued (op f)).2 :
        Except LedgerError Ledger) = .ok t) ↔
        s.AtWorkItem workItemId fun f _ => ∃ f', op f = .ok f' := by
    intro workItemId missing op
    simp only [← unvalued_returns, ← onWorkItem_returns missing]
    constructor
    · rintro ⟨t, h⟩
      obtain ⟨r, hitem, -⟩ := bind_eq_ok.mp h
      exact ⟨r, hitem⟩
    · rintro ⟨r, hitem⟩
      exact ⟨r.2, bind_eq_ok.mpr ⟨r, hitem, rfl⟩⟩
  cases c with
  | completeWorkItem workItemId token now =>
      apply hperform.trans
      apply atWorkItem_congr
      intro jobId f w hf hw hid
      exact (hs.regular jobId f hf).completeWork_returns hw hid
  | deferWorkItem workItemId token waitReason delaySeconds now =>
      apply hperform.trans
      apply atWorkItem_congr
      intro jobId f w hf hw hid
      exact (hs.regular jobId f hf).deferWork_returns hw hid
  | failWorkItem workItemId token category summary policy lease now =>
      cases hc
      apply hperform.trans
      apply atWorkItem_congr
      intro jobId f w hf hw hid
      exact (hs.regular jobId f hf).failWork_returns hw hid
  | _ => exact hc.elim

/-- The jobs of expired last attempts are not stuck. -/
def Sweepable (s : Ledger) (c : ClaimCall) : Prop :=
  ∀ id ∈ s.expiredWorkItems c.claimedAt, s.AtWorkItem id fun f w =>
    c.retryPolicy.maxAttempts ≤ w.attemptCount → ¬ Stuck f.job

/-- A required job that is claimed gets a lease that is long enough, and is not stuck. -/
def Leasable (s : Ledger) (c : ClaimCall) : Prop :=
  ∀ id ∈ s.runnableWorkItems c.claimedAt c.limit, s.AtWorkItem id fun f _ =>
    f.job.custody.policy = requiredPolicy → 120 ≤ c.leaseSeconds ∧
      c.now < c.claimedAt + seconds c.leaseSeconds ∧ ¬ Stuck f.job

theorem expired_of_mem {workItemId : String} {recoveredAt : Instant}
    (h : workItemId ∈ s.expiredWorkItems recoveredAt) {jobId : String} {f : JobFile} {w : WorkRow}
    (hf : s.file? jobId = some f) (hw : f.work = some w) (hid : w.workItemId = workItemId) :
    workLeaseExpired (dtToText recoveredAt) w = true := by
  obtain ⟨w₀, hin, hid₀⟩ := List.mem_map.mp h
  have hrow := (List.mem_insertionSort _).mp (List.mem_of_mem_take hin)
  have hfound := Table.find?_key (List.mem_of_mem_filter hrow)
  rw [hid₀, ← hid, find?_of_work hf hw] at hfound
  cases hfound
  exact List.of_mem_filter hrow

theorem runnable_of_mem {workItemId : String} {claimedAt : Instant} {limit : Nat}
    (h : workItemId ∈ s.runnableWorkItems claimedAt limit) {jobId : String} {f : JobFile}
    {w : WorkRow} (hf : s.file? jobId = some f) (hw : f.work = some w)
    (hid : w.workItemId = workItemId) :
    w.status ∈ [ReportJobWorkStatus.pending, .retryPending] := by
  obtain ⟨w₀, hin, hid₀⟩ := List.mem_map.mp h
  have hrow := (List.mem_insertionSort _).mp (List.mem_of_mem_take hin)
  have hfound := Table.find?_key (List.mem_of_mem_filter hrow)
  rw [hid₀, ← hid, find?_of_work hf hw] at hfound
  cases hfound
  have hselected := List.of_mem_filter hrow
  simp only [Bool.and_eq_true, decide_eq_true_eq] at hselected
  exact hselected.1

/-- The sweep of a claim returns exactly when no expired last attempt belongs to a stuck job. -/
theorem recoverExpiredWorkItems_returns (hs : Sound s) {c : ClaimCall}
    (hc : c.currentWorkLease = none) :
    (∃ t, s.recoverExpiredWorkItems c = .ok t) ↔ s.Sweepable c := by
  have hsweep : (∃ t, s.recoverExpiredWorkItems c = .ok t) ↔
      ∃ r, forEachWorkItem (fun _ f => do
          let f ← f.expireWork c.retryPolicy c.currentWorkLease c.claimedAt c.now
          return (none, f)) s 0 (s.expiredWorkItems c.claimedAt) = .ok r := by
    unfold recoverExpiredWorkItems
    constructor
    · rintro ⟨t, h⟩
      obtain ⟨r, hswept, -⟩ := bind_eq_ok.mp h
      exact ⟨r, hswept⟩
    · rintro ⟨r, hswept⟩
      exact ⟨r.2, bind_eq_ok.mpr ⟨r, hswept, rfl⟩⟩
  have hreturns : ∀ f : JobFile, (∃ r, (do
      let f ← f.expireWork c.retryPolicy c.currentWorkLease c.claimedAt c.now
      return (none, f) : Except LedgerError (Option WorkRow × JobFile)) = .ok r) ↔
        ∃ f', f.expireWork c.retryPolicy none c.claimedAt c.now = .ok f' := by
    intro f
    rw [hc]
    cases f.expireWork c.retryPolicy none c.claimedAt c.now <;>
      simp [bind, Except.bind, pure, Except.pure]
  rw [hsweep, forEachWorkItem_returns ?_ hs.linked (s.nodup_expiredWorkItems c.claimedAt)]
  · refine forall₂_congr fun id hin => atWorkItem_congr fun jobId f w hf hw hid => ?_
    rw [hreturns]
    exact (hs.regular jobId f hf).expireWork_returns hw (expired_of_mem hin hf hw hid)
  · intro f f' b hop
    obtain ⟨f₁, hexpired, hlast⟩ := bind_eq_ok.mp hop
    cases hlast
    exact Or.inr ⟨_, by simp, expireWork_fileStep hexpired⟩

theorem Sound.recover (hs : Sound s) {c : ClaimCall}
    (h : s.recoverExpiredWorkItems c = .ok t) : Sound t := by
  obtain ⟨⟨rows, u⟩, hexpire, hlast⟩ := bind_eq_ok.mp h
  cases hlast
  refine hs.changes (A := fun _ e => e = .attemptFailed c.retryPolicy.maxAttempts) ?_
  refine forEachWorkItem_changes (fun n jobId f f' b hop => ?_) hexpire
  obtain ⟨f₁, hstep, hlast⟩ := bind_eq_ok.mp hop
  cases hlast
  exact Or.inr ⟨_, by simp, rfl, expireWork_fileStep hstep⟩

/-- The claim of at most one work item returns exactly when the sweep does and the item can be
leased. -/
theorem claimWorkItems_returns (hs : Sound s) {c : ClaimCall} (hc : c.currentWorkLease = none)
    (hlimit : c.limit = 1) : (∃ r, s.claimWorkItems c = .ok r) ↔
      s.Sweepable c ∧ ∀ t, s.recoverExpiredWorkItems c = .ok t → t.Leasable c := by
  have hclaim : ∀ t, Sound t → ((∃ r, forEachWorkItem
      (fun n f => f.claimWork c.workerId (c.leaseTokens n) c.leaseSeconds c.claimedAt c.now)
      t 0 (t.runnableWorkItems c.claimedAt c.limit) = .ok r) ↔ t.Leasable c) := by
    intro t ht
    have hshort : (t.runnableWorkItems c.claimedAt c.limit).length ≤ 1 := by
      unfold runnableWorkItems
      rw [List.length_map, hlimit]
      exact List.length_take_le 1 _
    have hleasable : ∀ id ∈ t.runnableWorkItems c.claimedAt c.limit,
        (t.AtWorkItem id (fun f _ => ∃ r, f.claimWork c.workerId (c.leaseTokens 0)
          c.leaseSeconds c.claimedAt c.now = .ok r) ↔ t.AtWorkItem id fun f _ =>
            f.job.custody.policy = requiredPolicy → 120 ≤ c.leaseSeconds ∧
              c.now < c.claimedAt + seconds c.leaseSeconds ∧ ¬ Stuck f.job) :=
      fun id hin => atWorkItem_congr fun jobId f w hf hw hid =>
        (ht.regular jobId f hf).claimWork_returns hw (runnable_of_mem hin hf hw hid)
    unfold Leasable
    match hids : t.runnableWorkItems c.claimedAt c.limit with
    | [] => simp [forEachWorkItem]
    | [id] =>
        rw [List.forall_mem_singleton, ← hleasable id (by simp [hids]),
          ← onWorkItem_returns leaseNotOwned]
        constructor
        · rintro ⟨r, h⟩
          obtain ⟨first, hfirst, -⟩ := bind_eq_ok.mp h
          exact ⟨first, hfirst⟩
        · rintro ⟨first, hfirst⟩
          exact ⟨_, bind_eq_ok.mpr ⟨first, hfirst, rfl⟩⟩
    | id :: id' :: ids =>
        rw [hids] at hshort
        simp at hshort
  unfold claimWorkItems
  rw [if_neg (by omega), ← recoverExpiredWorkItems_returns hs hc]
  constructor
  · rintro ⟨r, h⟩
    obtain ⟨t, hswept, hclaims⟩ := bind_eq_ok.mp h
    refine ⟨⟨t, hswept⟩, fun t' ht' => ?_⟩
    rw [hswept] at ht'
    cases ht'
    exact (hclaim t (hs.recover hswept)).mp ⟨r, hclaims⟩
  · rintro ⟨⟨t, hswept⟩, hleasable⟩
    obtain ⟨r, hclaims⟩ := (hclaim t (hs.recover hswept)).mpr (hleasable t hswept)
    exact ⟨r, bind_eq_ok.mpr ⟨t, hswept, hclaims⟩⟩

end Calls

end Ledger

end LotusReport.Jobs
