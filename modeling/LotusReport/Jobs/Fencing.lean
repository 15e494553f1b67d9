import LotusReport.Jobs.CustodyProtection

/-!
# Fencing by the custody epoch

A worker acts under the epoch that it observed with its lease. Every claim,
park and resume of a required job raises the epoch, and every other end of a
lease leaves the work item without one until the next claim. A fence that was
once passed over is therefore never current again.
-/

namespace LotusReport.Jobs

open Encoding Fallible StateMachine JobFile

section Step

variable {e : Effect} {f f' : JobFile}

theorem FileStep.epoch_le (h : FileStep e f f') : f.job.custody.epoch ≤ f'.job.custody.epoch := by
  cases h with
  | park | exhaustParked | refuse | claimRequired | resume => exact Nat.le_succ _
  | reserve => simp [withCustody]
  | _ => exact le_rfl

/-- The fence of an epoch has been passed over: the epoch is higher by now, or the work item is
without a lease and gets one only with a higher epoch. -/
def Superseded (epoch : Nat) (f : JobFile) : Prop :=
  epoch < f.job.custody.epoch ∨ epoch = f.job.custody.epoch ∧ ¬ f.Leased

theorem Superseded.of_le {m n : Nat} (h : Superseded n f) (hmn : m ≤ n) : Superseded m f := by
  rcases h with hlt | ⟨heq, hleased⟩
  · exact Or.inl (by omega)
  · rcases Nat.lt_or_eq_of_le hmn with hlt | rfl
    · exact Or.inl (by omega)
    · exact Or.inr ⟨heq, hleased⟩

theorem not_leased_of_work {w : WorkRow} (hw : f.work = some w) (hstatus : w.status ≠ .leased) :
    ¬ f.Leased := by
  rintro ⟨w', hw', hleased⟩
  rw [hw] at hw'
  cases hw'
  exact hstatus hleased

/-- A change of a required job leaves the work item and the epoch alone, or supersedes the
epoch. -/
theorem FileStep.superseded (h : FileStep e f f') (hpolicy : f.job.custody.policy = requiredPolicy) :
    f'.work = f.work ∧ f'.job.custody.epoch = f.job.custody.epoch ∨
      Superseded f.job.custody.epoch f' := by
  cases h with
  | record | move | cancel | offer | archiveRequest | wait | schedule | confirm =>
      exact Or.inl ⟨rfl, rfl⟩
  | reserve => exact Or.inl ⟨rfl, by simp [withCustody]⟩
  | claim hnot => exact absurd hpolicy hnot
  | park | exhaustParked | refuse | claimRequired | resume =>
      exact Or.inr (Or.inl (Nat.lt_succ_self _))
  | complete | settle | defer | retry | exhaustTerminal | exhaustSettled | exhaustFailed =>
      exact Or.inr (Or.inr ⟨rfl, not_leased_of_work rfl (by simp [completedWork, deferredWork,
        failedWork])⟩)
  | enqueue _ _ _ hstatus =>
      exact Or.inr (Or.inr ⟨rfl, not_leased_of_work rfl (by simp [hstatus])⟩)

theorem Superseded.step {epoch : Nat} (h : Superseded epoch f) (hstep : FileStep e f f')
    (hpolicy : f.job.custody.policy = requiredPolicy) : Superseded epoch f' := by
  rcases h with hlt | ⟨rfl, hleased⟩
  · exact Or.inl (Nat.lt_of_lt_of_le hlt hstep.epoch_le)
  · rcases hstep.superseded hpolicy with ⟨hwork, hepoch⟩ | hsuper
    · refine Or.inr ⟨hepoch.symm, ?_⟩
      rintro ⟨w, hw, hstatus⟩
      exact hleased ⟨w, hwork ▸ hw, hstatus⟩
    · exact hsuper

/-- A superseded fence does not pass the checks of a fenced operation. -/
theorem Superseded.not_fenced {fence : CustodyLease} {now : Instant}
    (h : Superseded fence.epoch f) : ¬ Fenced f fence now := by
  intro hfenced
  have hepoch : f.job.custody.epoch = fence.epoch := by
    have hholds := hfenced.holds
    unfold holdsFence at hholds
    split at hholds
    · cases hholds
    · simp only [Bool.and_eq_true, beq_iff_eq] at hholds
      exact hholds.1.2
  rcases h with hlt | ⟨-, hleased⟩
  · omega
  · exact hleased hfenced.leased

end Step

section Raises

variable {f f' : JobFile}

theorem park_epoch {reason : String} {now : Instant} (h : f.park reason now = .ok f')
    (hv : ¬ Verified f) : f'.job.custody.epoch = f.job.custody.epoch + 1 := by
  rcases park_eq_ok h with ⟨hverified, -⟩ | ⟨-, w, e, -, -, -, rfl⟩
  · exact absurd hverified hv
  · rfl

theorem claimWork_epoch {workerId token : String} {leaseSeconds : Int} {claimedAt now : Instant}
    {w : WorkRow} (hpolicy : f.job.custody.policy = requiredPolicy)
    (h : f.claimWork workerId token leaseSeconds claimedAt now = .ok (some w, f')) :
    f'.job.custody.epoch = f.job.custody.epoch + 1 := by
  rcases claimWork_fileStep h with ⟨hnone, -⟩ | ⟨-, hstep, -⟩
  · cases hnone
  · cases hstep with
    | claim hnot => exact absurd hpolicy hnot
    | claimRequired => rfl

/-- A resume raises the epoch, or repeats one that has. -/
theorem resume_epoch {tenantId region expectedDigest : String} {expectedEpoch : Nat}
    {now : Instant} (h : f.resume tenantId region expectedEpoch expectedDigest now = .ok f') :
    f' = f ∨ f'.job.custody.epoch = f.job.custody.epoch + 1 := by
  rcases resume_fileStep h with ⟨rfl, -⟩ | hstep
  · exact Or.inl rfl
  · cases hstep
    exact Or.inr rfl

end Raises

section Run

variable {f f' : JobFile} {allowed : Effect → Prop}

theorem FileRun.policy_eq (h : FileRun allowed f f') :
    f'.job.custody.policy = f.job.custody.policy :=
  h.invariant (I := fun g => g.job.custody.policy = f.job.custody.policy)
    (fun _ _ _ _ hstep hg => hstep.policy_eq.trans hg) rfl

theorem FileRun.epoch_le (h : FileRun allowed f f') :
    f.job.custody.epoch ≤ f'.job.custody.epoch :=
  h.invariant (I := fun g => f.job.custody.epoch ≤ g.job.custody.epoch)
    (fun _ _ _ _ hstep hg => hg.trans hstep.epoch_le) le_rfl

theorem FileRun.superseded {epoch : Nat} (h : FileRun allowed f f')
    (hpolicy : f.job.custody.policy = requiredPolicy) (hf : Superseded epoch f) :
    Superseded epoch f' :=
  (h.invariant (I := fun g => g.job.custody.policy = requiredPolicy ∧ Superseded epoch g)
    (fun _ _ _ _ hstep hg => ⟨hstep.policy_eq.trans hg.1, hg.2.step hstep hg.1⟩)
    ⟨hpolicy, hf⟩).2

/-- The changes moved the work item or the epoch: the item was claimed, parked, recovered,
settled or resumed. -/
def Moved (f f' : JobFile) : Prop :=
  f'.work ≠ f.work ∨ f'.job.custody.epoch ≠ f.job.custody.epoch

theorem FileRun.superseded_of_moved (h : FileRun allowed f f')
    (hpolicy : f.job.custody.policy = requiredPolicy) (hmoved : Moved f f') :
    Superseded f.job.custody.epoch f' := by
  have hinv := h.invariant
    (I := fun g => g.job.custody.policy = requiredPolicy ∧
      (g.work = f.work ∧ g.job.custody.epoch = f.job.custody.epoch ∨
        Superseded f.job.custody.epoch g))
    (fun e g g' _ hstep hg => ?_) ⟨hpolicy, Or.inl ⟨rfl, rfl⟩⟩
  · rcases hinv.2 with ⟨hwork, hepoch⟩ | hsuper
    · rcases hmoved with hne | hne
      · exact absurd hwork hne
      · exact absurd hepoch hne
    · exact hsuper
  · refine ⟨hstep.policy_eq.trans hg.1, ?_⟩
    rcases hg.2 with ⟨hwork, hepoch⟩ | hsuper
    · rcases hstep.superseded hg.1 with ⟨hwork', hepoch'⟩ | hsuper
      · exact Or.inl ⟨hwork'.trans hwork, hepoch'.trans hepoch⟩
      · exact Or.inr (hepoch ▸ hsuper)
    · exact Or.inr (hsuper.step hstep hg.1)

/-- A custody operation under a superseded fence raises. -/
theorem CustodyCall.perform_superseded {d : Deployment} {s : Ledger} {scope : CustodyScope}
    {c : CustodyCall} {fence : CustodyLease} (hc : c.fence? = some fence)
    (hf : s.file? scope.jobId = some f) (hsuper : Superseded fence.epoch f) :
    ∃ error, c.perform d s scope = .error error := by
  cases h : c.perform d s scope with
  | error error => exact ⟨error, rfl⟩
  | ok t =>
      obtain ⟨⟨⟩, -, hauthorized⟩ := bind_eq_ok.mp h
      obtain ⟨⟨a, t'⟩, hjob, -⟩ := bind_eq_ok.mp hauthorized
      unfold Ledger.onJob at hjob
      rw [hf] at hjob
      obtain ⟨⟨b, g⟩, hop, -⟩ := bind_eq_ok.mp hjob
      obtain ⟨now, hfenced⟩ :=
        (CustodyCall.transact_fileStep (unvalued_eq_ok.mp hop)).1 fence hc
      exact absurd hfenced hsuper.not_fenced

variable (d : Deployment) (s : Ledger) (jobId : String) (f : JobFile)

/-- In every continuation the job keeps its rows, under an epoch that is no lower. -/
def EpochNeverFalls : Prop :=
  ∀ calls, ∃ g, (run (Ledger.step d) s calls).file? jobId = some g ∧
    f.job.custody.epoch ≤ g.job.custody.epoch

/-- A park, a claim of required work and a resume raise the epoch; only the repetition of a
resume leaves it, and everything else with it. -/
structure EpochRaised : Prop where
  park : ∀ (f f' : JobFile) (reason : String) (now : Instant), f.park reason now = .ok f' →
    ¬ Verified f → f'.job.custody.epoch = f.job.custody.epoch + 1
  claim : ∀ (f f' : JobFile) (workerId token : String) (leaseSeconds : Int)
    (claimedAt now : Instant) (w : WorkRow), f.job.custody.policy = requiredPolicy →
    f.claimWork workerId token leaseSeconds claimedAt now = .ok (some w, f') →
    f'.job.custody.epoch = f.job.custody.epoch + 1
  resume : ∀ (f f' : JobFile) (tenantId region : String) (expectedEpoch : Nat)
    (expectedDigest : String) (now : Instant),
    f.resume tenantId region expectedEpoch expectedDigest now = .ok f' →
    f' = f ∨ f'.job.custody.epoch = f.job.custody.epoch + 1

/-- After a call that moved the work item or the epoch, every operation on the job under a fence
of an epoch seen before that call raises, whatever happens in between, and changes nothing. -/
def StaleFenceRefused : Prop :=
  ∀ (before : List Call) (moving : Call) (after : List Call) (scope : CustodyScope)
    (c : CustodyCall) (fence : CustodyLease) (g g' : JobFile),
    fence.epoch ≤ f.job.custody.epoch →
    (run (Ledger.step d) s before).file? jobId = some g →
    (run (Ledger.step d) s (before ++ [moving])).file? jobId = some g' → Moved g g' →
    scope.jobId = jobId → c.fence? = some fence →
    (∃ error, Call.perform d (run (Ledger.step d) s (before ++ [moving] ++ after))
      (.custody scope c) = .error error) ∧
    run (Ledger.step d) s (before ++ [moving] ++ after ++ [.custody scope c]) =
      run (Ledger.step d) s (before ++ [moving] ++ after)

/-- A call that raises leaves every row as it was. -/
def RefusalRollsBack : Prop :=
  ∀ (s : Ledger) (c : Call) (error : LedgerError), c.perform d s = .error error → s.step d c = s

variable {d s jobId f}

theorem epochNeverFalls (hs : s.Linked) (hf : s.file? jobId = some f) :
    EpochNeverFalls d s jobId f := by
  intro calls
  obtain ⟨g, hg, hrun⟩ := Ledger.run_file (d := d) hs calls hf
  exact ⟨g, hg, hrun.epoch_le⟩

theorem staleFenceRefused (hs : s.Linked) (hf : s.file? jobId = some f)
    (hpolicy : f.job.custody.policy = requiredPolicy) : StaleFenceRefused d s jobId f := by
  intro before moving after scope c fence g g' hepoch hg hg' hmoved hscope hc
  obtain ⟨g₀, hg₀, hrun⟩ := Ledger.run_file (d := d) hs before hf
  rw [hg] at hg₀
  cases hg₀
  have hlinked := Ledger.linked_run d before hs
  obtain ⟨g₁, hg₁, hmove⟩ := Ledger.step_file (d := d) hlinked moving hg
  rw [run_append] at hg'
  have hsame : some g₁ = some g' := hg₁.symm.trans hg'
  cases hsame
  have hpolicy₁ := hrun.policy_eq.trans hpolicy
  have hsuper := (hmove.superseded_of_moved hpolicy₁ hmoved).of_le (hepoch.trans hrun.epoch_le)
  obtain ⟨g₂, hg₂, hafter⟩ := Ledger.run_file (d := d)
    (Ledger.linked_run d (before ++ [moving]) hs) after (run_append .. ▸ hg')
  rw [← run_append] at hg₂
  have hlate := hafter.superseded (hmove.policy_eq.trans hpolicy₁) hsuper
  obtain ⟨error, herror⟩ := CustodyCall.perform_superseded (d := d) hc (hscope ▸ hg₂) hlate
  refine ⟨⟨error, herror⟩, ?_⟩
  rw [run_append (Ledger.step d) s (before ++ [moving] ++ after)]
  exact Ledger.step_of_error herror

/-- For every required job and every interleaving of calls, the custody epoch never decreases and
rises with every claim, park and resume; an operation that carries a lease whose work item has
been moved since is refused; and a refused operation leaves both rows as they were. -/
theorem custody_fencing (d : Deployment) (calls : List Call) (jobId : String) (f : JobFile)
    (hf : (run (Ledger.step d) Ledger.empty calls).file? jobId = some f)
    (hpolicy : f.job.custody.policy = requiredPolicy) :
    EpochNeverFalls d (run (Ledger.step d) Ledger.empty calls) jobId f ∧ EpochRaised ∧
      StaleFenceRefused d (run (Ledger.step d) Ledger.empty calls) jobId f ∧
      RefusalRollsBack d :=
  have hs := Ledger.linked_run d calls Ledger.linked_empty
  ⟨epochNeverFalls hs hf,
    ⟨fun _ _ _ _ h => park_epoch h, fun _ _ _ _ _ _ _ _ h => claimWork_epoch h,
      fun _ _ _ _ _ _ _ h => resume_epoch h⟩,
    staleFenceRefused hs hf hpolicy, fun _ _ _ h => Ledger.step_of_error h⟩

/-- A worker that holds a required job under epoch 1. -/
theorem custody_fencing_claimed : ∃ f,
    (run (Ledger.step sampleDeployment) Ledger.empty
      [sampleSubmit requiredPolicy, sampleClaim 'a' 0]).file? "rjob_1" = some f ∧
    f.job.custody.epoch = 1 ∧
    StaleFenceRefused sampleDeployment (run (Ledger.step sampleDeployment) Ledger.empty
      [sampleSubmit requiredPolicy, sampleClaim 'a' 0]) "rjob_1" f := by
  obtain ⟨f, hf, hp⟩ := Ledger.exists_file
    (s := run (Ledger.step sampleDeployment) Ledger.empty
      [sampleSubmit requiredPolicy, sampleClaim 'a' 0]) (j := "rjob_1")
    (p := fun f => decide (f.job.custody.policy = requiredPolicy ∧ f.job.custody.epoch = 1))
    (by decide +kernel)
  obtain ⟨hpolicy, hepoch⟩ := of_decide_eq_true hp
  exact ⟨f, hf, hepoch, (custody_fencing sampleDeployment _ "rjob_1" f hf hpolicy).2.2.1⟩

end Run

end LotusReport.Jobs
