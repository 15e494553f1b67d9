import LotusReport.Jobs.CustodyProtection
import LotusReport.Jobs.Retention

/-!
# The dispatch budget of custody

`reserve` grants a job its dispatches. The counters it checks only grow until
an operator resumes the job, the window it checks opens no later than the due
time it checks, and a job that custody has blocked, refused or verified holds
no lease under which a reservation could be granted.
-/

namespace LotusReport.Jobs

open Encoding Fallible StateMachine JobFile

/-- The states in which custody grants nothing. -/
def haltedStates : List (Option CustodyState) := [some .blocked, some .refused, some .verified]

/-- The reasons from which an operator can resume a parked job. -/
def resumableReasons : List (Option String) :=
  [some "custody_retry_budget_exhausted", some "custody_retry_exhausted"]

section Step

variable {e : Effect} {f f' : JobFile}

/-- The counter that an operation draws on. -/
def JobFile.spent (f : JobFile) (operation : CustodyOperation) : Nat :=
  (budget f.job.custody operation).1

/-- The limit of an operation. -/
def CustodyOperation.limit : CustodyOperation → Nat
  | initial => 1
  | retry => 3
  | poll => 12

theorem budget_eq (f : JobFile) (operation : CustodyOperation) :
    budget f.job.custody operation = (f.spent operation, operation.limit) := by
  cases operation <;> rfl

theorem counted_budget_le (c : CustodyColumns) (counts operation : CustodyOperation) :
    (budget c operation).1 ≤ (budget (counted c counts) operation).1 := by
  cases counts <;> cases operation <;> simp [budget, counted]

theorem counted_budget_self (c : CustodyColumns) (operation : CustodyOperation) :
    (budget (counted c operation) operation).1 = (budget c operation).1 + 1 := by
  cases operation <;> rfl

/-- No change lowers a counter, except that a resume clears the retries and the polls. -/
theorem FileStep.spent_le (h : FileStep e f f') {operation : CustodyOperation}
    (he : e ≠ .resumed ∨ operation = .initial) : f.spent operation ≤ f'.spent operation := by
  cases h with
  | @reserve _ counts => exact counted_budget_le f.job.custody counts operation
  | resume =>
      rcases he with he | rfl
      · exact absurd rfl he
      · exact Nat.le_refl _
  | _ => cases operation <;> exact Nat.le_refl _

/-- The counters stay within their limits. -/
def WithinLimits (f : JobFile) : Prop := ∀ operation, f.spent operation ≤ operation.limit

theorem FileStep.withinLimits (h : FileStep e f f') (hf : WithinLimits f) : WithinLimits f' := by
  intro operation
  have hold := hf operation
  cases h with
  | @reserve _ counts _ _ _ _ _ _ hbudget =>
      rw [budget_eq] at hbudget
      have hspent : (budget (counted f.job.custody counts) operation).1 ≤ operation.limit := by
        by_cases hsame : counts = operation
        · subst hsame
          rw [counted_budget_self]
          exact hbudget
        · refine le_trans (le_of_eq ?_) hold
          cases counts <;> cases operation <;> first | rfl | exact absurd rfl hsame
      exact hspent
  | resume => cases operation <;> first | exact hold | exact Nat.zero_le _
  | _ => cases operation <;> exact hold

/-- The window of a job opens no later than its next attempt is due. -/
def WindowBeforeDue (f : JobFile) : Prop :=
  ∀ window, f.job.custody.windowStartedAt = some window →
    ∃ due, f.job.custody.nextAttemptAt = some due ∧ window.instant ≤ due.instant

theorem WindowBeforeDue.opened (hf : WindowBeforeDue f) {now : Instant}
    (hdue : ∀ due, f.job.custody.nextAttemptAt = some due → due.instant ≤ now) :
    (f.job.custody.windowStartedAt.map (·.instant)).getD now ≤ now := by
  cases hwindow : f.job.custody.windowStartedAt with
  | none => exact le_refl now
  | some window =>
      obtain ⟨due, hnext, hle⟩ := hf window hwindow
      exact le_trans hle (hdue due hnext)

theorem FileStep.windowBeforeDue (h : FileStep e f f') (hf : WindowBeforeDue f) :
    WindowBeforeDue f' := by
  cases h with
  | reserve _ _ _ _ _ hdue hwindow _ hnext =>
      rintro _ ⟨⟩
      refine ⟨_, rfl, le_trans ?_ hnext⟩
      subst hwindow
      exact hf.opened hdue
  | schedule _ _ _ hnext =>
      intro window hwindow
      obtain ⟨due, hdue, hle⟩ := hf window hwindow
      exact ⟨_, rfl, le_trans hle (hnext due hdue)⟩
  | resume =>
      rintro _ ⟨⟩
      exact ⟨_, rfl, le_refl _⟩
  | _ => exact hf

/-- The work item has failed. -/
def JobFile.WorkFailed (f : JobFile) : Prop := ∃ w, f.work = some w ∧ w.status = .failed

theorem JobFile.WorkFailed.status {w : WorkRow} (h : f.WorkFailed) (hw : f.work = some w) :
    w.status = .failed := by
  obtain ⟨w', hw', hfailed⟩ := h
  rw [hw] at hw'
  cases hw'
  exact hfailed

theorem JobFile.WorkFailed.not_leased (h : f.WorkFailed) : ¬ f.Leased := by
  rintro ⟨w, hw, hleased⟩
  rw [h.status hw] at hleased
  cases hleased

/-- Custody has verified the job, or has parked it with its work. -/
def Halted (f : JobFile) : Prop :=
  Verified f ∨ f.job.custody.state ∈ [some CustodyState.blocked, some .refused] ∧ f.WorkFailed

/-- A parked job has its work parked with it. -/
def HaltsWork (f : JobFile) : Prop := f.job.custody.state ∈ haltedStates → Halted f

/-- A refusal records its own reason. -/
def RefusedFor (f : JobFile) : Prop :=
  f.job.custody.state = some .refused → f.job.custody.reason = some "custody_refused"

theorem FileStep.halted (h : FileStep e f f') (he : e ≠ .resumed) (hf : Halted f) : Halted f' := by
  rcases hf with hv | ⟨hstate, hwork⟩
  · exact Or.inl (h.verified hv)
  · right
    cases h with
    | record | move | cancel => exact ⟨hstate, hwork⟩
    | park => exact ⟨by simp [parkedFile, parkedCustody], _, rfl, rfl⟩
    | refuse => exact ⟨by simp [withCustody], _, rfl, rfl⟩
    | resume => exact absurd rfl he
    | offer _ hlease | reserve _ hlease | archiveRequest _ hlease | wait _ hlease
    | schedule _ hlease | confirm _ hlease => exact absurd hlease hwork.not_leased
    | claim _ hw hrunnable | claimRequired _ hw hrunnable =>
        rw [hwork.status hw] at hrunnable
        simp at hrunnable
    | complete hw hlease | defer hw hlease =>
        simp [leasedUnder, hwork.status hw] at hlease
    | settle _ hverified =>
        rw [hverified] at hstate
        simp at hstate
    | retry hw hlease | exhaustTerminal hw hlease | exhaustFailed hw hlease
    | exhaustParked _ _ hw hlease | exhaustSettled _ _ hw hlease =>
        rw [hwork.status hw] at hlease
        cases hlease
    | enqueue hw =>
        obtain ⟨w, hsome, -⟩ := hwork
        rw [hw] at hsome
        cases hsome

theorem Halted.state (h : Halted f) : f.job.custody.state ∈ haltedStates := by
  rcases h with hv | ⟨hstate, -⟩
  · simp [haltedStates, show f.job.custody.state = some .verified from hv]
  · simp only [List.mem_cons, List.not_mem_nil, or_false, haltedStates] at hstate ⊢
    tauto

theorem FileStep.haltsWork (h : FileStep e f f') (hf : HaltsWork f) : HaltsWork f' := by
  intro hstate'
  by_cases hhalted : Halted f
  · by_cases he : e = .resumed
    · subst he
      cases h with
      | resume => simp [resumedJob, haltedStates] at hstate'
    · exact h.halted he hhalted
  · have hopen : f.job.custody.state ∉ haltedStates := fun hstate => hhalted (hf hstate)
    cases h with
    | park | exhaustParked => exact Or.inr ⟨by simp [parkedFile, parkedCustody], _, rfl, rfl⟩
    | refuse => exact Or.inr ⟨by simp [withCustody], _, rfl, rfl⟩
    | confirm => exact Or.inl rfl
    | offer | archiveRequest | wait | resume =>
        simp [offeredJob, requestedFile, requestedJob, withCustody, resumedJob, haltedStates] at hstate'
    | reserve =>
        simp only [withCustody, reservedCustody_state] at hstate'
        exact absurd hstate' hopen
    | _ => exact absurd hstate' hopen

theorem FileStep.refusedFor (h : FileStep e f f') (hf : RefusedFor f) : RefusedFor f' := by
  unfold RefusedFor at hf ⊢
  cases h with
  | refuse _ _ _ _ hreason =>
      intro _
      subst hreason
      show some (clip 80 "custody_refused") = some "custody_refused"
      decide
  | park | exhaustParked | offer | archiveRequest | wait | confirm | resume => rintro ⟨⟩
  | @reserve _ operation => cases operation <;> exact hf
  | _ => exact hf

/-- Custody has verified the job, or has parked it for a reason from which it is not resumed. -/
def HaltedForGood (f : JobFile) : Prop :=
  Verified f ∨ f.job.custody.state ∈ [some CustodyState.blocked, some .refused] ∧ f.WorkFailed ∧
    f.job.custody.reason ∉ resumableReasons

theorem HaltedForGood.halted (h : HaltedForGood f) : Halted f :=
  h.imp_right fun hparked => ⟨hparked.1, hparked.2.1⟩

theorem HaltedForGood.ne_resumed (hf : HaltedForGood f) (h : FileStep e f f') : e ≠ .resumed := by
  rintro rfl
  cases h with
  | resume _ _ _ hstate _ hreason =>
      rcases hf with hv | ⟨-, -, hnot⟩
      · rw [show f.job.custody.state = some .verified from hv] at hstate
        cases hstate
      · exact hnot hreason

/-- No change takes a job on that was verified or parked for good. -/
theorem FileStep.haltedForGood (h : FileStep e f f') (hf : HaltedForGood f) :
    HaltedForGood f' := by
  have hne := hf.ne_resumed h
  have hhalted := h.halted hne hf.halted
  rcases hf with hv | ⟨hstate, hwork, hreason⟩
  · exact Or.inl (h.verified hv)
  · refine hhalted.imp_right fun hparked => ⟨hparked.1, hparked.2, ?_⟩
    cases h with
    | park _ _ _ _ _ hcause =>
        rcases hcause with hlease | rfl
        · exact absurd hlease hwork.not_leased
        · show some (clip 80 "custody_transition_blocked") ∉ resumableReasons
          decide
    | refuse _ _ _ _ hcause =>
        subst hcause
        show some (clip 80 "custody_refused") ∉ resumableReasons
        decide
    | exhaustParked _ _ hw hlease =>
        rw [hwork.status hw] at hlease
        cases hlease
    | resume => exact absurd rfl hne
    | @reserve _ operation => cases operation <;> exact hreason
    | _ => exact hreason

end Step

section Grants

variable {d : Deployment} {s : Ledger} {jobId : String} {f : JobFile} {c : Call}
  {operation : CustodyOperation}

/-- The call reserves the operation for the job, and the reservation is granted. -/
def Call.granted (s : Ledger) (jobId : String) (operation : CustodyOperation) : Call → Bool
  | .custody scope (.reserve fence op jitter now) =>
      scope.jobId == jobId && op == operation && scope.authority.isOk &&
        (s.file? jobId).any fun f =>
          match f.reserve scope.tenantId scope.region fence op jitter now with
          | .ok (granted, _) => granted
          | .error _ => false
  | _ => false

/-- The call resumes the job from its parked state. -/
def Call.resumes (d : Deployment) (s : Ledger) (jobId : String) : Call → Bool
  | .custody scope (.resume epoch digest now) =>
      scope.jobId == jobId &&
        ((s.file? jobId).any fun f => f.job.custody.state == some .blocked) &&
        ((CustodyCall.resume epoch digest now).perform d s scope).isOk
  | _ => false

/-- The number of grants that the calls make to the job. -/
def grants (d : Deployment) (jobId : String) (operation : CustodyOperation) :
    Ledger → List Call → Nat
  | _, [] => 0
  | s, c :: calls =>
      (if c.granted s jobId operation then 1 else 0) + grants d jobId operation (s.step d c) calls

/-- No call of the run resumes the job. -/
def Unresumed (d : Deployment) (jobId : String) : Ledger → List Call → Prop :=
  Along (Ledger.step d) fun s c => c.resumes d s jobId = false

theorem Call.granted_step (h : c.granted s jobId operation = true) :
    ∃ scope fence jitter now f f', c = .custody scope (.reserve fence operation jitter now) ∧
      scope.jobId = jobId ∧ s.file? jobId = some f ∧ (s.step d c).file? jobId = some f' ∧
      GrantedBy f operation now f' := by
  unfold Call.granted at h
  split at h
  · rename_i scope fence op jitter now
    simp only [Bool.and_eq_true, beq_iff_eq] at h
    obtain ⟨⟨⟨hjob, rfl⟩, hauthority⟩, hany⟩ := h
    obtain ⟨f, hf, hreserved⟩ := Ledger.exists_file hany
    obtain ⟨⟨⟩, hauthorized⟩ := isOk_eq_true.mp hauthority
    split at hreserved
    · rename_i granted f' hreserve
      subst hreserved
      obtain ⟨hfenced, ⟨hfalse, -⟩ | ⟨-, hgranted⟩⟩ := reserve_eq_ok hreserve
      · cases hfalse
      · have hstep := hgranted.fileStep hfenced
        subst hjob
        refine ⟨scope, fence, jitter, now, f, f', rfl, rfl, hf, ?_, hgranted⟩
        have hperform : (Call.custody scope (.reserve fence op jitter now)).perform d s =
            .ok (s.store f') := by
          simp [Call.perform, CustodyCall.perform, hauthorized, Ledger.onJob, hf, unvalued,
            CustodyCall.transact, hreserve, bind, Except.bind, pure, Except.pure]
        rw [Ledger.step_of_ok hperform, Ledger.file?_store hf hstep.continues
          (Ledger.freshWork_of_ne hstep (by simp) s), if_pos rfl]
    · cases hreserved
  · cases h

theorem GrantedBy.spent {f' : JobFile} {now : Instant} (h : GrantedBy f operation now f') :
    f'.spent operation = f.spent operation + 1 := by
  obtain ⟨window, next, -, -, -, -, rfl⟩ := h.reserved
  exact counted_budget_self f.job.custody operation

theorem Call.not_allows_resumed (h : ∀ scope epoch digest now,
    c ≠ .custody scope (.resume epoch digest now)) : ¬ c.Allows jobId .resumed := by
  intro hallows
  cases c with
  | ledger c => cases c <;> simp [Call.Allows, LedgerCall.Allows] at hallows
  | custody scope c =>
      cases c with
      | resume epoch digest now => exact h scope epoch digest now rfl
      | _ => simp [Call.Allows, CustodyCall.Allows] at hallows

/-- A call that does not resume the job takes its file through other effects. -/
theorem Ledger.step_file_unresumed (hs : s.Linked) (hf : s.file? jobId = some f)
    (h : c.resumes d s jobId = false) :
    ∃ f', (s.step d c).file? jobId = some f' ∧ FileRun (· ≠ .resumed) f f' := by
  by_cases hresume : ∃ scope epoch digest now, c = .custody scope (.resume epoch digest now)
  · obtain ⟨scope, epoch, digest, now, rfl⟩ := hresume
    obtain ⟨f', hf', hrun⟩ := Ledger.step_file (d := d) hs _ hf
    cases hperform : (Call.custody scope (.resume epoch digest now)).perform d s with
    | error e =>
        rw [Ledger.step_of_error hperform, hf]
        exact ⟨f, rfl, .refl⟩
    | ok t =>
        have hopen : jobId = scope.jobId → f.job.custody.state ≠ some .blocked := by
          rintro rfl hblocked
          have hok : ((CustodyCall.resume epoch digest now).perform d s scope).isOk = true := by
            have : (CustodyCall.resume epoch digest now).perform d s scope = .ok t := hperform
            rw [this]
            rfl
          simp [Call.resumes, hf, hblocked, hok] at h
        refine ⟨f', hf', ?_⟩
        rcases Relation.ReflTransGen.cases_head hrun with rfl | ⟨g, ⟨e, ⟨hjob, he⟩, hstep⟩, -⟩
        · exact .refl
        · simp only [CustodyCall.Allows] at he
          subst he
          cases hstep with
          | resume _ _ _ hstate => exact absurd hstate (hopen hjob)
  · simp only [not_exists] at hresume
    obtain ⟨f', hf', hrun⟩ := Ledger.step_file (d := d) hs c hf
    refine ⟨f', hf', hrun.mono fun e he => ?_⟩
    rintro rfl
    exact Call.not_allows_resumed hresume he

/-- What the job has spent of the operation's budget. -/
def Ledger.spent (s : Ledger) (jobId : String) (operation : CustodyOperation) : Nat :=
  ((s.file? jobId).map (·.spent operation)).getD 0

theorem Ledger.spent_of_file (hf : s.file? jobId = some f) :
    s.spent jobId operation = f.spent operation := by
  simp [Ledger.spent, hf]

/-- A grant is spent, and nothing else but a resume gives spent budget back. -/
theorem Ledger.spent_step (hs : s.Linked)
    (h : operation = .initial ∨ c.resumes d s jobId = false) :
    (if c.granted s jobId operation then 1 else 0) + s.spent jobId operation ≤
      (s.step d c).spent jobId operation := by
  split
  · rename_i hgranted
    obtain ⟨scope, fence, jitter, now, f, f', -, -, hf, hf', hby⟩ := Call.granted_step (d := d) hgranted
    rw [Ledger.spent_of_file hf, Ledger.spent_of_file hf', hby.spent]
    omega
  · rw [Nat.zero_add]
    cases hf : s.file? jobId with
    | none => simp [Ledger.spent, hf]
    | some f =>
        have hle : ∃ f', (s.step d c).file? jobId = some f' ∧ f.spent operation ≤ f'.spent operation := by
          rcases h with rfl | hquiet
          · obtain ⟨f', hf', hrun⟩ := Ledger.step_file (d := d) hs c hf
            refine ⟨f', hf', hrun.invariant (I := fun g => f.spent .initial ≤ g.spent .initial) ?_
              (Nat.le_refl _)⟩
            intro e g g' _ hstep hle
            exact le_trans hle (hstep.spent_le (Or.inr rfl))
          · obtain ⟨f', hf', hrun⟩ := Ledger.step_file_unresumed hs hf hquiet
            refine ⟨f', hf', hrun.invariant (I := fun g => f.spent operation ≤ g.spent operation) ?_
              (Nat.le_refl _)⟩
            intro e g g' he hstep hle
            exact le_trans hle (hstep.spent_le (Or.inl he))
        obtain ⟨f', hf', hle⟩ := hle
        rw [Ledger.spent_of_file hf, Ledger.spent_of_file hf']
        exact hle

theorem grants_add_spent_le (hs : s.Linked) {calls : List Call}
    (h : operation = .initial ∨ Unresumed d jobId s calls) :
    grants d jobId operation s calls + s.spent jobId operation ≤
      (run (Ledger.step d) s calls).spent jobId operation := by
  induction calls generalizing s with
  | nil => simp [grants]
  | cons c calls ih =>
      have hfirst := Ledger.spent_step (d := d) (c := c) hs (h.imp_right And.left)
      have hrest := ih (Ledger.linked_step d s c hs) (h.imp_right And.right)
      simp only [grants, run_cons]
      omega

/-- A halted job is granted nothing before it is resumed. -/
theorem grants_of_halted (hs : s.Linked) {calls : List Call} (hf : s.file? jobId = some f)
    (hhalted : Halted f) (h : Unresumed d jobId s calls) :
    grants d jobId operation s calls = 0 := by
  induction calls generalizing s f with
  | nil => rfl
  | cons c calls ih =>
      obtain ⟨f', hf', hrun⟩ := Ledger.step_file_unresumed hs hf h.1
      have hhalted' : Halted f' := hrun.invariant (fun e g g' he hstep => hstep.halted he) hhalted
      have hnone : c.granted s jobId operation = false := by
        rw [← Bool.not_eq_true]
        intro hgranted
        obtain ⟨_, _, _, _, g, _, -, -, hg, -, hby⟩ := Call.granted_step (d := d) hgranted
        rw [hf] at hg
        cases hg
        exact hby.state hhalted.state
      simp only [grants, hnone, Bool.false_eq_true, if_false, Nat.zero_add]
      exact ih (Ledger.linked_step d s c hs) hf' hhalted' h.2

theorem HaltedForGood.not_resumes (hhalted : HaltedForGood f) (hf : s.file? jobId = some f) :
    c.resumes d s jobId = false := by
  rw [← Bool.not_eq_true]
  intro h
  unfold Call.resumes at h
  split at h
  · rename_i scope epoch digest now
    simp only [Bool.and_eq_true, beq_iff_eq, hf, Option.any_some] at h
    obtain ⟨⟨rfl, hblocked⟩, hok⟩ := h
    obtain ⟨t, hperform⟩ := isOk_eq_true.mp hok
    obtain ⟨⟨⟩, -, hauthorized⟩ := bind_eq_ok.mp hperform
    obtain ⟨⟨a, t'⟩, hjob, hlast⟩ := bind_eq_ok.mp hauthorized
    obtain ⟨g, g', hg, hop, -⟩ := Ledger.onJob_eq_ok hjob
    rw [hf] at hg
    cases hg
    rcases resume_fileStep (unvalued_eq_ok.mp hop) with ⟨-, w, hw, hpending⟩ | hstep
    · rcases hhalted with hv | ⟨-, hwork, -⟩
      · rw [show f.job.custody.state = some .verified from hv] at hblocked
        cases hblocked
      · rw [hwork.status hw] at hpending
        cases hpending
    · exact hhalted.ne_resumed hstep rfl
  · cases h

theorem HaltedForGood.unresumed (hs : s.Linked) (hhalted : HaltedForGood f)
    (hf : s.file? jobId = some f) (calls : List Call) : Unresumed d jobId s calls := by
  induction calls generalizing s f with
  | nil => trivial
  | cons c calls ih =>
      obtain ⟨f', hf', hrun⟩ := Ledger.step_file (d := d) hs c hf
      refine ⟨hhalted.not_resumes hf, ih (Ledger.linked_step d s c hs) ?_ hf'⟩
      exact hrun.invariant (fun e g g' _ hstep => hstep.haltedForGood) hhalted

end Grants

section Run

variable {d : Deployment} {jobId : String} {f : JobFile}

theorem withinLimits_run (calls : List Call)
    (hf : (run (Ledger.step d) Ledger.empty calls).file? jobId = some f) : WithinLimits f := by
  refine Ledger.file_invariant (fun f hopened operation => ?_)
    (fun _ _ _ hstep => hstep.withinLimits) d calls hf
  unfold JobFile.spent
  rw [hopened.custody]
  cases operation <;> exact Nat.zero_le _

theorem windowBeforeDue_run (calls : List Call)
    (hf : (run (Ledger.step d) Ledger.empty calls).file? jobId = some f) : WindowBeforeDue f := by
  refine Ledger.file_invariant (fun f hopened window hwindow => ?_)
    (fun _ _ _ hstep => hstep.windowBeforeDue) d calls hf
  rw [hopened.custody] at hwindow
  cases hwindow

theorem haltsWork_run (calls : List Call)
    (hf : (run (Ledger.step d) Ledger.empty calls).file? jobId = some f) : HaltsWork f := by
  refine Ledger.file_invariant (fun f hopened hstate => ?_)
    (fun _ _ _ hstep => hstep.haltsWork) d calls hf
  rw [hopened.custody] at hstate
  simp [haltedStates] at hstate

theorem refusedFor_run (calls : List Call)
    (hf : (run (Ledger.step d) Ledger.empty calls).file? jobId = some f) : RefusedFor f := by
  refine Ledger.file_invariant (fun f hopened hstate => ?_)
    (fun _ _ _ hstep => hstep.refusedFor) d calls hf
  rw [hopened.custody] at hstate
  cases hstate

theorem haltedForGood_run (calls : List Call)
    (hf : (run (Ledger.step d) Ledger.empty calls).file? jobId = some f)
    (hstate : f.job.custody.state ∈ [some CustodyState.refused, some .verified]) :
    HaltedForGood f := by
  have hhalted : Halted f := by
    apply haltsWork_run calls hf
    simp only [List.mem_cons, List.not_mem_nil, or_false, haltedStates] at hstate ⊢
    tauto
  refine hhalted.imp_right fun hparked => ⟨hparked.1, hparked.2, ?_⟩
  rcases List.mem_cons.mp hstate with hrefused | hverified
  · rw [refusedFor_run calls hf hrefused]
    decide
  · simp only [List.mem_singleton] at hverified
    rw [hverified] at hparked
    simp at hparked

/-- Every count within a run is bounded by the limit of its operation. -/
theorem grants_le_limit (before : List Call) {calls : List Call} (operation : CustodyOperation)
    (h : operation = .initial ∨
      Unresumed d jobId (run (Ledger.step d) Ledger.empty before) calls) :
    grants d jobId operation (run (Ledger.step d) Ledger.empty before) calls ≤
      operation.limit := by
  have hsum := grants_add_spent_le (Ledger.linked_run d before Ledger.linked_empty) h
  rw [← run_append] at hsum
  have hlimit : (run (Ledger.step d) Ledger.empty (before ++ calls)).spent jobId operation ≤
      operation.limit := by
    cases hf : (run (Ledger.step d) Ledger.empty (before ++ calls)).file? jobId with
    | none => simp [Ledger.spent, hf]
    | some f =>
        rw [Ledger.spent_of_file hf]
        exact withinLimits_run _ hf operation
  omega

/-- The properties of the dispatch budget and of the retention quota in a run. -/
structure DispatchBudgetKept (d : Deployment) (calls : List Call) : Prop where
  initial : ∀ jobId, grants d jobId .initial Ledger.empty calls ≤ 1
  betweenResumes : ∀ jobId before segment after, calls = before ++ segment ++ after →
    Unresumed d jobId (run (Ledger.step d) Ledger.empty before) segment →
    grants d jobId .retry (run (Ledger.step d) Ledger.empty before) segment ≤ 3 ∧
      grants d jobId .poll (run (Ledger.step d) Ledger.empty before) segment ≤ 12
  timely : ∀ before scope fence operation jitter now after,
    calls = before ++ .custody scope (.reserve fence operation jitter now) :: after →
    Call.granted (run (Ledger.step d) Ledger.empty before) scope.jobId operation
      (.custody scope (.reserve fence operation jitter now)) = true →
    ∃ job job' window,
      (run (Ledger.step d) Ledger.empty before).jobs.find? scope.jobId = some job ∧
      (run (Ledger.step d) Ledger.empty (before ++
        [.custody scope (.reserve fence operation jitter now)])).jobs.find? scope.jobId =
          some job' ∧
      job.custody.policy = requiredPolicy ∧
      (∀ due, job.custody.nextAttemptAt = some due → due.instant ≤ now) ∧
      (∀ opened, job.custody.windowStartedAt = some opened → opened.instant = window) ∧
      job'.custody.windowStartedAt = some (isoformat window) ∧
      window ≤ now ∧ now < window + recoveryWindow
  halted : ∀ jobId before after job, calls = before ++ after →
    (run (Ledger.step d) Ledger.empty before).jobs.find? jobId = some job →
    job.custody.state ∈ haltedStates →
    Unresumed d jobId (run (Ledger.step d) Ledger.empty before) after →
    ∀ operation, grants d jobId operation (run (Ledger.step d) Ledger.empty before) after = 0
  final : ∀ jobId before after job, calls = before ++ after →
    (run (Ledger.step d) Ledger.empty before).jobs.find? jobId = some job →
    job.custody.state ∈ [some CustodyState.refused, some .verified] →
    ∀ operation, grants d jobId operation (run (Ledger.step d) Ledger.empty before) after = 0
  quota : (run (Ledger.step d) Ledger.empty calls).retainedBytes none ≤ maxRetainedBytes ∧
    ∀ tenant, (run (Ledger.step d) Ledger.empty calls).retainedBytes (some tenant) ≤ maxTenantBytes

/-- In every run a job is granted one initial dispatch, and between two resumes three retries and
twelve polls; every grant falls into the window of the job and not before its due time; a job in a
halted state is granted nothing until it is resumed, and nothing at all once it was refused or
verified; and the retained offers stay within both quotas. -/
theorem custody_dispatch_budget (d : Deployment) (calls : List Call) :
    DispatchBudgetKept d calls := by
  have hlinked := fun before => Ledger.linked_run d before Ledger.linked_empty
  refine ⟨fun jobId => ?_, fun jobId before segment after _ hquiet => ?_, ?_, ?_, ?_,
    Ledger.withinQuota_run d calls⟩
  · exact grants_le_limit [] .initial (Or.inl rfl)
  · exact ⟨grants_le_limit before .retry (Or.inr hquiet),
      grants_le_limit before .poll (Or.inr hquiet)⟩
  · intro before scope fence operation jitter now after _ hgranted
    obtain ⟨_, _, _, _, f, f', heq, -, hf, hf', hby⟩ := Call.granted_step (d := d) hgranted
    cases heq
    have hopened := (windowBeforeDue_run before hf).opened hby.due
    obtain ⟨window, next, hwindow, hopen, -, -, rfl⟩ := hby.reserved
    rw [hwindow] at hopened
    refine ⟨f.job, withCustody f.job (reservedCustody f.job.custody operation window next), window,
      (Ledger.file?_eq_some_iff.mp hf).1, ?_, hby.policy, hby.due, ?_, rfl, hopened, hopen⟩
    · rw [run_append]
      exact (Ledger.file?_eq_some_iff.mp hf').1
    · intro opened hsome
      rw [hsome] at hwindow
      exact hwindow
  · intro jobId before after job _ hjob hstate hquiet operation
    obtain ⟨f, hf, rfl⟩ := (hlinked before).file?_of_find? hjob
    exact grants_of_halted (hlinked before) hf (haltsWork_run before hf hstate) hquiet
  · intro jobId before after job _ hjob hstate operation
    obtain ⟨f, hf, rfl⟩ := (hlinked before).file?_of_find? hjob
    have hfinal := haltedForGood_run before hf hstate
    exact grants_of_halted (hlinked before) hf hfinal.halted (hfinal.unresumed (hlinked before) hf after)

end Run

end LotusReport.Jobs
