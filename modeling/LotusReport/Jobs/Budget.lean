import LotusReport.Jobs.Leases

/-!
# The failure budget of work

A claim charges an attempt, a deferral refunds it, a failed or expired attempt
keeps the charge, and a custody resume starts over. So the attempts charged to
a work item that can still run are its failures, plus the attempt under way;
and work that has used up its budget takes its job, or its custody, with it.
-/

namespace LotusReport.Jobs

open Encoding Fallible StateMachine Relational JobFile

section Charge

/-- The attempts charged to a work item, against its failures since the last reset. A completed
or failed item keeps the charge of the attempt that ended it. -/
def Charged (failures : Nat) (w : WorkRow) : Prop :=
  match w.status with
  | .pending | .retryPending => w.attemptCount = failures
  | .leased => w.attemptCount = failures + 1
  | .completed | .failed => failures ≤ w.attemptCount ∧ w.attemptCount ≤ failures + 1

/-- The failures since the last reset, after an effect. -/
def Effect.failuresAfter : Effect → Nat → Nat
  | .attemptFailed _, n => n + 1
  | .resumed, _ => 0
  | _, n => n

variable {e : Effect} {f f' : JobFile} {n : Nat}

theorem Charged.le {w : WorkRow} (h : Charged n w) :
    n ≤ w.attemptCount ∧ w.attemptCount ≤ n + 1 := by
  unfold Charged at h
  split at h <;> omega

theorem charged_of_rest {w : WorkRow} (hrest : w.status = .completed ∨ w.status = .failed)
    (h : n ≤ w.attemptCount ∧ w.attemptCount ≤ n + 1) : Charged n w := by
  unfold Charged
  rcases hrest with hstatus | hstatus <;> rw [hstatus] <;> exact h

theorem charged_leased {w : WorkRow} (hleased : w.status = .leased) :
    Charged n w ↔ w.attemptCount = n + 1 := by
  unfold Charged
  rw [hleased]

theorem charged_runnable {w : WorkRow}
    (hrunnable : w.status ∈ [ReportJobWorkStatus.pending, .retryPending]) :
    Charged n w ↔ w.attemptCount = n := by
  simp only [List.mem_cons, List.not_mem_nil, or_false] at hrunnable
  unfold Charged
  rcases hrunnable with hstatus | hstatus <;> rw [hstatus]

/-- The work item of the job, if there is one, is charged. -/
def JobFile.Charged (failures : Nat) (f : JobFile) : Prop :=
  ∀ w, f.work = some w → Jobs.Charged failures w

/-- Each effect charges an existing work item for its failures. -/
theorem FileStep.charged (h : FileStep e f f') {w : WorkRow} (hw : f.work = some w)
    (hcharged : Charged n w) : f'.Charged (e.failuresAfter n) := by
  intro w' hw'
  cases h with
  | record | move | cancel | offer | reserve | archiveRequest | wait | schedule | confirm =>
      have hsame : f.work = some w' := hw'
      rw [hw] at hsame
      cases hsame
      exact hcharged
  | claim _ hsame hrunnable | claimRequired _ hsame hrunnable =>
      rw [hw] at hsame
      cases hsame
      cases hw'
      exact (charged_leased rfl).mpr (congrArg (· + 1) ((charged_runnable hrunnable).mp hcharged))
  | park _ _ hsame | refuse _ _ hsame =>
      rw [hw] at hsame
      cases hsame
      cases hw'
      exact charged_of_rest (Or.inr rfl) hcharged.le
  | complete hsame | settle _ _ hsame =>
      rw [hw] at hsame
      cases hsame
      cases hw'
      exact charged_of_rest (Or.inl rfl) hcharged.le
  | defer hsame hlease =>
      rw [hw] at hsame
      cases hsame
      cases hw'
      simp only [leasedUnder, Bool.and_eq_true, beq_iff_eq] at hlease
      have hcount := (charged_leased hlease.1).mp hcharged
      refine (charged_runnable (by simp [deferredWork])).mpr ?_
      simp only [deferredWork, Effect.failuresAfter]
      omega
  | retry hsame hleased =>
      rw [hw] at hsame
      cases hsame
      cases hw'
      exact (charged_runnable (by simp [failedWork])).mpr ((charged_leased hleased).mp hcharged)
  | exhaustTerminal hsame hleased | exhaustFailed hsame hleased =>
      rw [hw] at hsame
      cases hsame
      cases hw'
      have hcount := (charged_leased hleased).mp hcharged
      exact charged_of_rest (Or.inr rfl) ⟨hcount.ge, Nat.le_succ_of_le hcount.le⟩
  | exhaustSettled _ _ hsame hleased =>
      rw [hw] at hsame
      cases hsame
      cases hw'
      have hcount := (charged_leased hleased).mp hcharged
      exact charged_of_rest (Or.inl rfl) ⟨hcount.ge, Nat.le_succ_of_le hcount.le⟩
  | exhaustParked _ _ hsame hleased =>
      rw [hw] at hsame
      cases hsame
      cases hw'
      have hcount := (charged_leased hleased).mp hcharged
      exact charged_of_rest (Or.inr rfl) ⟨hcount.ge, Nat.le_succ_of_le hcount.le⟩
  | resume =>
      cases hw'
      exact (charged_runnable (by simp [resumedWork])).mpr rfl
  | enqueue hnone =>
      rw [hnone] at hw
      cases hw

/-- The effects that are neither a failed attempt nor a reset. -/
def Effect.Unfailing (e : Effect) : Prop := ∀ n, e.failuresAfter n = n

theorem Effect.unfailing_of_ne (hfailed : ∀ m, e ≠ .attemptFailed m) (hresumed : e ≠ .resumed) :
    e.Unfailing := by
  intro n
  cases e with
  | attemptFailed m => exact absurd rfl (hfailed m)
  | resumed => exact absurd rfl hresumed
  | _ => rfl

end Charge

section Queue

open Ledger

variable {s t : Ledger} {jobId : String} {f f' : JobFile} {w : WorkRow}

theorem Ledger.Linked.file?_of_find_work (hs : s.Linked) {workItemId : String}
    (h : s.workItems.find? workItemId = some w) :
    ∃ f, s.file? w.reportJobId = some f ∧ f.work = some w :=
  hs.file?_of_work (Table.mem_of_find? h)

theorem Ledger.find?_of_work (hf : s.file? jobId = some f) (hw : f.work = some w) :
    s.workItems.find? w.workItemId = some w := by
  rw [(file?_eq_some_iff.mp hf).2.2.1] at hw
  exact Table.find?_key (Table.mem_of_lookup? hw)

theorem Ledger.jobId_of_work {j k : String} {g : JobFile} {w' : WorkRow} (hf : s.file? j = some f)
    (hg : s.file? k = some g) (hw : f.work = some w) (hw' : g.work = some w')
    (hid : w.workItemId = w'.workItemId) : j = k := by
  have hsame := Ledger.find?_of_work hf hw
  rw [hid, Ledger.find?_of_work hg hw'] at hsame
  cases hsame
  exact (workJobId_of_file? hf hw).symm.trans (workJobId_of_file? hg hw')

theorem Ledger.onWorkItem_file {α : Type} {missing : LedgerError} {workItemId : String} {a : α}
    {op : JobFile → Except LedgerError (α × JobFile)}
    (hop : ∀ g g' b, op g = .ok (b, g') → g' = g ∨ ∃ e, e ≠ .enqueued ∧ FileStep e g g')
    (h : s.onWorkItem workItemId missing op = .ok (a, t)) (hf : s.file? jobId = some f)
    (hw : f.work = some w) :
    w.workItemId = workItemId ∧ (∃ f', op f = .ok (a, f') ∧ t.file? jobId = some f') ∨
      w.workItemId ≠ workItemId ∧ t.file? jobId = some f := by
  obtain ⟨w₀, g, g', hw₀, hg, hwork, hdone, rfl⟩ := onWorkItem_eq_ok h
  have hid := Table.key_of_find? hw₀
  have hstored : ∀ k, (s.store g').file? k =
      if w₀.reportJobId = k then some g' else s.file? k := by
    rcases hop g g' a hdone with rfl | ⟨e, hne, hstep⟩
    · intro k
      rw [store_self hg]
      split
      · rename_i hk
        rw [← hk, hg]
      · rfl
    · exact file?_store hg hstep.continues (freshWork_of_ne hstep hne s)
  by_cases hsame : w.workItemId = workItemId
  · have hjob := Ledger.jobId_of_work hg hf hwork hw (hid.trans hsame.symm)
    rw [← hjob, hg] at hf
    cases hf
    exact Or.inl ⟨hsame, g', hdone, by rw [hstored, if_pos hjob]⟩
  · refine Or.inr ⟨hsame, ?_⟩
    rw [hstored, if_neg, hf]
    intro hjob
    rw [← hjob, hg] at hf
    cases hf
    rw [hwork] at hw
    cases hw
    exact hsame hid

/-- Transactions on distinct work items change the file of each at most once. -/
theorem Ledger.forEachWorkItem_file
    {op : Nat → JobFile → Except LedgerError (Option WorkRow × JobFile)}
    (hop : ∀ n g g' b, op n g = .ok (b, g') → g' = g ∨ ∃ e, e ≠ .enqueued ∧ FileStep e g g')
    {n : Nat} {ids : List String} {rows : List WorkRow} (hnodup : ids.Nodup)
    (h : forEachWorkItem op s n ids = .ok (rows, t)) (hf : s.file? jobId = some f)
    (hw : f.work = some w) :
    w.workItemId ∈ ids ∧ (∃ m b f', op m f = .ok (b, f') ∧ t.file? jobId = some f') ∨
      w.workItemId ∉ ids ∧ t.file? jobId = some f := by
  induction ids generalizing s n rows f w with
  | nil =>
      cases h
      exact Or.inr ⟨List.not_mem_nil, hf⟩
  | cons id ids ih =>
      obtain ⟨⟨row, u⟩, hfirst, hrest⟩ := bind_eq_ok.mp h
      obtain ⟨⟨rows', t'⟩, hnext, hlast⟩ := bind_eq_ok.mp hrest
      cases hlast
      obtain ⟨hnotin, hnodup⟩ := List.nodup_cons.mp hnodup
      rcases Ledger.onWorkItem_file (hop n) hfirst hf hw with ⟨hid, f₁, hdone, hf₁⟩ | ⟨hid, hf₁⟩
      · have hkept : ∃ w₁, f₁.work = some w₁ ∧ w₁.workItemId = w.workItemId := by
          rcases hop n f f₁ row hdone with rfl | ⟨e, -, hstep⟩
          · exact ⟨w, hw, rfl⟩
          · obtain ⟨w₁, hw₁, hid₁, -⟩ := hstep.continues.work w hw
            exact ⟨w₁, hw₁, hid₁⟩
        obtain ⟨w₁, hw₁, hid₁⟩ := hkept
        refine Or.inl ⟨by simp [hid], n, row, f₁, hdone, ?_⟩
        rcases ih hnodup hnext hf₁ hw₁ with ⟨hin, -⟩ | ⟨-, hlast⟩
        · rw [hid₁, hid] at hin
          exact absurd hin hnotin
        · exact hlast
      · rcases ih hnodup hnext hf₁ hw with ⟨hin, hdone⟩ | ⟨hnot, hlast⟩
        · exact Or.inl ⟨List.mem_cons_of_mem id hin, hdone⟩
        · exact Or.inr ⟨by simp [hid, hnot], hlast⟩

theorem Ledger.nodup_expiredWorkItems (s : Ledger) (recoveredAt : Instant) :
    (s.expiredWorkItems recoveredAt).Nodup := by
  unfold expiredWorkItems
  have hrows : ((s.workItems.rows.filter
      (workLeaseExpired (dtToText recoveredAt))).map WorkRow.workItemId).Nodup :=
    (s.workItems.key_nodup.sublist (List.filter_sublist.map _))
  have hsorted := (List.perm_insertionSort (fun a b => expiresBefore a b = true)
    (s.workItems.rows.filter (workLeaseExpired (dtToText recoveredAt)))).map WorkRow.workItemId
  exact (hsorted.nodup_iff.mpr hrows).sublist ((List.take_sublist 5 _).map _)

end Queue

section Count

variable {d : Deployment} {s t : Ledger} {c : Call} {workItemId jobId : String} {n : Nat}
  {f f' : JobFile} {w : WorkRow}

/-- The call ends an attempt of the work item: a worker reports its failure, or a claim sweeps its
expired lease. -/
def Call.failsAttempt (s : Ledger) (workItemId : String) : Call → Bool
  | .ledger (.failWorkItem id _ _ _ _ _ _) => decide (id = workItemId)
  | .ledger (.claimWorkItems c) =>
      decide (1 ≤ c.limit) && decide (workItemId ∈ s.expiredWorkItems c.claimedAt)
  | _ => false

/-- The call resumes the custody of a job whose work item has failed. -/
def Call.resetsBudget (s : Ledger) (workItemId : String) : Call → Bool
  | .custody scope (.resume _ _ _) => (s.workItems.find? workItemId).any fun w =>
      decide (w.reportJobId = scope.jobId) && decide (w.status = .failed)
  | _ => false

/-- The failures of a work item since the last reset, after a successful call. -/
def Call.failures (s : Ledger) (workItemId : String) (c : Call) (n : Nat) : Nat :=
  if c.resetsBudget s workItemId then 0
  else if c.failsAttempt s workItemId then n + 1
  else n

/-- One call, with the count of the failures of a work item. -/
def countFailures (d : Deployment) (workItemId : String) (p : Ledger × Nat) (c : Call) :
    Ledger × Nat :=
  match c.perform d p.1 with
  | .error _ => p
  | .ok t => (t, c.failures p.1 workItemId p.2)

/-- The failed and expired attempts of a work item since its last reset, after a run. -/
def failures (d : Deployment) (workItemId : String) (calls : List Call) : Nat :=
  (run (countFailures d workItemId) (Ledger.empty, 0) calls).2

theorem countFailures_fst (d : Deployment) (workItemId : String) (p : Ledger × Nat) (c : Call) :
    (countFailures d workItemId p c).1 = p.1.step d c := by
  unfold countFailures Ledger.step
  cases c.perform d p.1 <;> rfl

theorem run_countFailures_fst (d : Deployment) (workItemId : String) (p : Ledger × Nat)
    (calls : List Call) :
    (run (countFailures d workItemId) p calls).1 = run (Ledger.step d) p.1 calls := by
  induction calls generalizing p with
  | nil => rfl
  | cons c calls ih =>
      rw [run_cons, run_cons, ih, countFailures_fst]

theorem Call.failures_of_missing (hmissing : s.workItems.find? workItemId = none)
    (h : c.perform d s = .ok t) (n : Nat) : c.failures s workItemId n = n := by
  have hreset : c.resetsBudget s workItemId = false := by
    cases c with
    | ledger c => rfl
    | custody scope c => cases c <;> simp [Call.resetsBudget, hmissing]
  have hfails : c.failsAttempt s workItemId = false := by
    cases c with
    | custody scope c => rfl
    | ledger c =>
        cases c with
        | failWorkItem id token category summary policy lease now =>
            obtain ⟨⟨⟨⟩, t'⟩, hitem, -⟩ := bind_eq_ok.mp h
            obtain ⟨w, -, -, hw, -⟩ := onWorkItem_eq_ok hitem
            refine decide_eq_false fun hid => ?_
            rw [hid, hmissing] at hw
            cases hw
        | claimWorkItems k =>
            have hnotin : workItemId ∉ s.expiredWorkItems k.claimedAt := by
              intro hin
              obtain ⟨w, hw, hid⟩ := List.mem_map.mp hin
              have hrow := List.mem_of_mem_filter
                ((List.mem_insertionSort _).mp (List.mem_of_mem_take hw))
              have hfound := Table.find?_key hrow
              rw [hid, hmissing] at hfound
              cases hfound
            simp [Call.failsAttempt, hnotin]
        | _ => rfl
  simp [Call.failures, hreset, hfails]

/-- The work item of the file is the one named, and is charged. -/
def Accounted (workItemId : String) (n : Nat) (f : JobFile) : Prop :=
  ∃ w, f.work = some w ∧ w.workItemId = workItemId ∧ Charged n w

theorem accounted_of_charged (hstep : f.Continues f') (hw : f.work = some w)
    (hcharged : f'.Charged n) : Accounted w.workItemId n f' := by
  obtain ⟨w', hw', hid, -⟩ := hstep.work w hw
  exact ⟨w', hw', hid, hcharged w' hw'⟩

theorem Accounted.step {e : Effect} (h : Accounted workItemId n f) (hstep : FileStep e f f') :
    Accounted workItemId (e.failuresAfter n) f' := by
  obtain ⟨w, hw, rfl, hcharged⟩ := h
  exact accounted_of_charged hstep.continues hw (hstep.charged hw hcharged)

/-- The verified work of a failed attempt is settled with the charge of that attempt. -/
theorem Accounted.settle (h : Accounted workItemId n f) (hleased : f.Leased)
    (hstep : FileStep .settled f f') : Accounted workItemId (n + 1) f' := by
  obtain ⟨w, hw, rfl, hcharged⟩ := h
  obtain ⟨w₀, hw₀, hstatus⟩ := hleased
  rw [hw] at hw₀
  cases hw₀
  have hcount := (charged_leased hstatus).mp hcharged
  cases hstep with
  | settle _ _ hsame =>
      rw [hw] at hsame
      cases hsame
      exact ⟨_, rfl, rfl, charged_of_rest (Or.inl rfl) ⟨hcount.ge, Nat.le_succ_of_le hcount.le⟩⟩

theorem leased_of_token {token : String} (hf : TokenMeansLeased f) (h : f.token = some token) :
    f.Leased := by
  unfold JobFile.token at h
  obtain ⟨w, hw, htoken⟩ := Option.bind_eq_some_iff.mp h
  exact ⟨w, hw, (hf w hw).mp (by simp [htoken])⟩

/-- The states of runs in which leases and verified jobs are what they should be. -/
structure WellLeased (s : Ledger) : Prop where
  linked : s.Linked
  tokens : ∀ j f, s.file? j = some f → TokenMeansLeased f
  verified : ∀ j f, s.file? j = some f → VerifiedIsRequired f

theorem accounted_failWorkItem {target token category summary : String}
    {policy : ReportJobWorkRetryPolicy} {lease : Option (String × String)} {now : Instant}
    (hs : WellLeased s) (hf : s.file? jobId = some f) (hcounted : Accounted workItemId n f)
    (h : (Call.ledger (.failWorkItem target token category summary policy lease now)).perform d s =
      .ok t) :
    ∃ f', t.file? jobId = some f' ∧
      Accounted workItemId (if target = workItemId then n + 1 else n) f' := by
  obtain ⟨⟨⟨⟩, t'⟩, hitem, hlast⟩ := bind_eq_ok.mp h
  cases hlast
  obtain ⟨w, hw, rfl, hcharged⟩ := id hcounted
  have hop : ∀ (g g' : JobFile) (b : Unit),
      unvalued (g.failWork target token category summary policy lease now) = .ok (b, g') →
        g' = g ∨ ∃ e, e ≠ .enqueued ∧ FileStep e g g' := by
    intro g g' b hdone
    rcases failWork_fileStep (unvalued_eq_ok.mp hdone) with ⟨rfl, -⟩ | hstep | ⟨-, hstep⟩
    · exact Or.inl rfl
    · exact Or.inr ⟨_, by simp, hstep⟩
    · exact Or.inr ⟨_, by simp, hstep⟩
  rcases Ledger.onWorkItem_file hop hitem hf hw with ⟨hid, f', hdone, hf'⟩ | ⟨hid, hf'⟩
  · rw [if_pos hid.symm]
    have hfail := unvalued_eq_ok.mp hdone
    have htoken := failWork_token (hs.verified _ f hf) hfail
    refine ⟨f', hf', ?_⟩
    rcases failWork_fileStep hfail with ⟨-, hv, hpolicy⟩ | hstep | ⟨-, hstep⟩
    · exact absurd (hs.verified _ f hf hv) hpolicy
    · exact hcounted.settle (leased_of_token (hs.tokens _ f hf) htoken) hstep
    · exact hcounted.step hstep
  · rw [if_neg (Ne.symm hid)]
    exact ⟨f, hf', hcounted⟩

theorem accounted_claimWorkItems {k : Ledger.ClaimCall} (hf : s.file? jobId = some f)
    (hcounted : Accounted workItemId n f)
    (h : (Call.ledger (.claimWorkItems k)).perform d s = .ok t) :
    ∃ f', t.file? jobId = some f' ∧ Accounted workItemId
      (if 1 ≤ k.limit ∧ workItemId ∈ s.expiredWorkItems k.claimedAt then n + 1 else n) f' := by
  obtain ⟨⟨rows, t'⟩, hclaim, hlast⟩ := bind_eq_ok.mp h
  cases hlast
  unfold Ledger.claimWorkItems at hclaim
  split at hclaim
  · rename_i hlimit
    cases hclaim
    rw [if_neg fun hcond => absurd hcond.1 (by omega)]
    exact ⟨f, hf, hcounted⟩
  · rename_i hlimit
    obtain ⟨u, hsweep, hclaims⟩ := bind_eq_ok.mp hclaim
    obtain ⟨⟨rows', u'⟩, hexpire, hlast⟩ := bind_eq_ok.mp hsweep
    cases hlast
    obtain ⟨w, hw, rfl, hcharged⟩ := id hcounted
    -- the sweep fails the attempt of an expired item once
    have hswept : ∃ g, u.file? jobId = some g ∧ Accounted w.workItemId
        (if 1 ≤ k.limit ∧ w.workItemId ∈ s.expiredWorkItems k.claimedAt then n + 1 else n) g := by
      refine Or.elim (Ledger.forEachWorkItem_file (fun m g g' b hop => ?_)
        (s.nodup_expiredWorkItems k.claimedAt) hexpire hf hw) ?_ ?_
      · obtain ⟨g₁, hdone, hlast⟩ := bind_eq_ok.mp hop
        cases hlast
        exact Or.inr ⟨_, by simp, expireWork_fileStep hdone⟩
      · rintro ⟨hin, m, b, g, hop, hg⟩
        obtain ⟨g₁, hdone, hlast⟩ := bind_eq_ok.mp hop
        cases hlast
        rw [if_pos ⟨by omega, hin⟩]
        exact ⟨g, hg, hcounted.step (expireWork_fileStep hdone)⟩
      · rintro ⟨hnotin, hg⟩
        rw [if_neg fun hcond => hnotin hcond.2]
        exact ⟨f, hg, hcounted⟩
    obtain ⟨g, hg, haccounted⟩ := hswept
    -- the claims that follow charge attempts, but fail none
    have hchanges : u.Changes (fun _ e => ∃ token, e = .claimed token) t' :=
      Ledger.forEachWorkItem_changes (fun m j g g' b hop => by
        rcases claimWork_fileStep hop with ⟨-, rfl⟩ | ⟨-, hstep, -⟩
        · exact Or.inl rfl
        · exact Or.inr ⟨_, by simp, ⟨_, rfl⟩, hstep⟩) hclaims
    obtain ⟨f', hf', hrun⟩ := hchanges.file_run hg
    refine ⟨f', hf', hrun.invariant (fun e g g' he hstep hg => ?_) haccounted⟩
    obtain ⟨token, rfl⟩ := he
    exact hg.step hstep

theorem accounted_resume {scope : CustodyScope} {epoch : Nat} {digest : String} {now : Instant}
    (hf : s.file? jobId = some f) (hcounted : Accounted workItemId n f)
    (h : (Call.custody scope (.resume epoch digest now)).perform d s = .ok t) :
    ∃ f', t.file? jobId = some f' ∧ Accounted workItemId
      ((Call.custody scope (.resume epoch digest now)).failures s workItemId n) f' := by
  obtain ⟨⟨⟩, -, hauthorized⟩ := bind_eq_ok.mp h
  obtain ⟨⟨⟨⟩, t'⟩, hjob, hlast⟩ := bind_eq_ok.mp hauthorized
  cases hlast
  obtain ⟨g, g', hg, hdone, rfl⟩ := Ledger.onJob_eq_ok hjob
  obtain ⟨w, hw, rfl, hcharged⟩ := id hcounted
  have hfound := Ledger.find?_of_work hf hw
  have howner := Ledger.workJobId_of_file? hf hw
  rcases resume_fileStep (unvalued_eq_ok.mp hdone) with ⟨rfl, w₀, hw₀, hstatus⟩ | hstep
  · have hkept : (Call.custody scope (.resume epoch digest now)).resetsBudget s w.workItemId =
        false := by
      by_cases hsame : jobId = scope.jobId
      · rw [← hsame, hf] at hg
        cases hg
        rw [hw] at hw₀
        cases hw₀
        simp [Call.resetsBudget, hfound, hstatus]
      · simp [Call.resetsBudget, hfound, howner, hsame]
    rw [Ledger.store_self hg]
    refine ⟨f, hf, ?_⟩
    simpa [Call.failures, hkept, Call.failsAttempt] using hcounted
  · rw [Ledger.file?_store hg hstep.continues (Ledger.freshWork_of_ne hstep (by simp) s)]
    by_cases hsame : scope.jobId = jobId
    · rw [if_pos hsame]
      rw [hsame, hf] at hg
      cases hg
      have hreset : (Call.custody scope (.resume epoch digest now)).resetsBudget s w.workItemId =
          true := by
        cases hstep with
        | resume _ hw₀ hstatus =>
            rw [hw] at hw₀
            cases hw₀
            simp [Call.resetsBudget, hfound, howner, hsame, hstatus]
      refine ⟨g', rfl, ?_⟩
      simpa [Call.failures, hreset, Effect.failuresAfter] using hcounted.step hstep
    · rw [if_neg hsame]
      refine ⟨f, hf, ?_⟩
      simpa [Call.failures, Call.resetsBudget, hfound, howner, Ne.symm hsame, Call.failsAttempt]
        using hcounted

/-- The calls that neither fail an attempt nor reset the budget. -/
theorem accounted_unfailing (hs : s.Linked) (hf : s.file? jobId = some f)
    (hcounted : Accounted workItemId n f) (hc : ∀ j e, c.Allows j e → e.Unfailing)
    (h : c.perform d s = .ok t) :
    ∃ f', t.file? jobId = some f' ∧ Accounted workItemId n f' := by
  obtain ⟨f', hf', hrun⟩ := Ledger.step_file (d := d) hs c hf
  rw [Ledger.step_of_ok h] at hf'
  refine ⟨f', hf', hrun.invariant (fun e g g' he hstep hg => ?_) hcounted⟩
  have hafter := hg.step hstep
  rwa [hc jobId e he n] at hafter

theorem accounted_perform (hs : WellLeased s) (hf : s.file? jobId = some f)
    (hcounted : Accounted workItemId n f) (h : c.perform d s = .ok t) :
    ∃ f', t.file? jobId = some f' ∧ Accounted workItemId (c.failures s workItemId n) f' := by
  cases c with
  | ledger c =>
      cases c with
      | failWorkItem target token category summary policy lease now =>
          simpa [Call.failures, Call.resetsBudget, Call.failsAttempt] using
            accounted_failWorkItem hs hf hcounted h
      | claimWorkItems k =>
          simpa [Call.failures, Call.resetsBudget, Call.failsAttempt] using
            accounted_claimWorkItems hf hcounted h
      | create | mark | cancelJob | appendJobEvent | upsertJobRelationship | completeWorkItem
      | deferWorkItem =>
          refine accounted_unfailing hs.linked hf hcounted (fun j e he => ?_) h
          apply Effect.unfailing_of_ne
          · rintro m rfl
            simp [Call.Allows, LedgerCall.Allows] at he
          · rintro rfl
            simp [Call.Allows, LedgerCall.Allows] at he
  | custody scope c =>
      cases c with
      | resume epoch digest now => exact accounted_resume hf hcounted h
      | commitOffer | reserve | disposition | block | recordOwnerDue | confirmFinal =>
          refine accounted_unfailing hs.linked hf hcounted (fun j e he => ?_) h
          apply Effect.unfailing_of_ne
          · rintro m rfl
            simp [Call.Allows, CustodyCall.Allows] at he
          · rintro rfl
            simp [Call.Allows, CustodyCall.Allows] at he

/-- A call that enqueues work does nothing else to a job. -/
theorem Call.enqueued_of_allows {e : Effect} (h : c.Allows jobId .enqueued)
    (he : c.Allows jobId e) : e = .enqueued := by
  cases c with
  | custody scope c => exact absurd rfl (CustodyCall.ne_enqueued h.2)
  | ledger c =>
      cases c with
      | create => exact he
      | _ => simp [Call.Allows, LedgerCall.Allows] at h

theorem charged_of_new (hs : s.Linked) (hmissing : s.workItems.find? workItemId = none)
    (hw : (s.step d c).workItems.find? workItemId = some w) : Charged 0 w := by
  obtain ⟨f', hf', hwork⟩ := (Ledger.linked_step d s c hs).file?_of_find_work hw
  have hid := Table.key_of_find? hw
  rcases Ledger.file_of_step hs c hf' with ⟨f, hf, hrun⟩ | ⟨-, hopened⟩
  · have hnone : f.work = none := by
      cases hw₀ : f.work with
      | none => rfl
      | some w₀ =>
          obtain ⟨w₁, hw₁, hid₁⟩ := hrun.invariant
            (I := fun g => ∃ w₁, g.work = some w₁ ∧ w₁.workItemId = w₀.workItemId)
            (fun e g g' _ hstep ⟨w₁, hw₁, hid₁⟩ => by
              obtain ⟨w₂, hw₂, hid₂, -⟩ := hstep.continues.work w₁ hw₁
              exact ⟨w₂, hw₂, hid₂.trans hid₁⟩) ⟨w₀, hw₀, rfl⟩
          rw [hwork] at hw₁
          cases hw₁
          have hfound := Ledger.find?_of_work hf hw₀
          rw [← hid₁, hid, hmissing] at hfound
          cases hfound
    have hcharged : f'.work = none ∨
        (∀ e, c.Allows w.reportJobId e → e = .enqueued) ∧ f'.Charged 0 := by
      refine hrun.invariant (I := fun g => g.work = none ∨
        (∀ e, c.Allows w.reportJobId e → e = .enqueued) ∧ g.Charged 0)
        (fun e g g' he hstep hg => ?_) (Or.inl hnone)
      by_cases henqueued : e = .enqueued
      · subst henqueued
        refine Or.inr ⟨fun e he' => Call.enqueued_of_allows he he', ?_⟩
        cases hstep with
        | enqueue _ _ _ hstatus hattempt =>
            intro w' hw'
            cases hw'
            exact (charged_runnable (by simp [hstatus])).mpr hattempt
      · rcases hg with hnot | ⟨honly, -⟩
        · exact Or.inl (Ledger.work_none_of_ne hstep henqueued hnot)
        · exact absurd (honly e he) henqueued
    rcases hcharged with hnot | ⟨-, hcharged⟩
    · rw [hwork] at hnot
      cases hnot
    · exact hcharged w hwork
  · obtain ⟨hstatus, hattempt, -⟩ := hopened.work w hwork
    exact (charged_runnable (by simp [hstatus])).mpr hattempt

theorem WellLeased.step (hs : WellLeased s) (d : Deployment) (c : Call) :
    WellLeased (s.step d c) := by
  refine ⟨Ledger.linked_step d s c hs.linked, fun j f' hf' => ?_, fun j f' hf' => ?_⟩
  · rcases Ledger.file_of_step hs.linked c hf' with ⟨f, hf, hrun⟩ | ⟨-, hopened⟩
    · exact hrun.invariant (fun e g g' _ hstep => hstep.tokenMeansLeased) (hs.tokens j f hf)
    · exact tokenMeansLeased_of_opened hopened
  · rcases Ledger.file_of_step hs.linked c hf' with ⟨f, hf, hrun⟩ | ⟨-, hopened⟩
    · exact hrun.invariant (fun e g g' _ hstep => hstep.verifiedIsRequired) (hs.verified j f hf)
    · exact verifiedIsRequired_of_opened hopened

/-- The count of the failures of a work item accounts for its attempts. -/
structure Counted (workItemId : String) (p : Ledger × Nat) : Prop where
  leased : WellLeased p.1
  missing : p.1.workItems.find? workItemId = none → p.2 = 0
  charged : ∀ w, p.1.workItems.find? workItemId = some w → Charged p.2 w

theorem Counted.step {p : Ledger × Nat} (h : Counted workItemId p) (d : Deployment) (c : Call) :
    Counted workItemId (countFailures d workItemId p c) := by
  cases hperform : c.perform d p.1 with
  | error error =>
      have hsame : countFailures d workItemId p c = p := by simp [countFailures, hperform]
      rwa [hsame]
  | ok t =>
      have hnext : countFailures d workItemId p c = (t, c.failures p.1 workItemId p.2) := by
        simp [countFailures, hperform]
      have hstep := Ledger.step_of_ok hperform
      have hleased : WellLeased t := hstep ▸ h.leased.step d c
      rw [hnext]
      cases hfind : p.1.workItems.find? workItemId with
      | none =>
          have hzero := (Call.failures_of_missing hfind hperform p.2).trans (h.missing hfind)
          refine ⟨hleased, fun _ => hzero, fun w hw => ?_⟩
          rw [hzero]
          exact charged_of_new h.leased.linked hfind (hstep ▸ hw)
      | some w =>
          obtain ⟨f, hf, hw⟩ := h.leased.linked.file?_of_find_work hfind
          obtain ⟨f', hf', w', hw', hid, hcharged⟩ := accounted_perform h.leased hf
            ⟨w, hw, Table.key_of_find? hfind, h.charged w hfind⟩ hperform
          have hfound := Ledger.find?_of_work hf' hw'
          rw [hid] at hfound
          refine ⟨hleased, fun hmissing => ?_, fun w₁ hw₁ => ?_⟩
          · rw [hfound] at hmissing
            cases hmissing
          · rw [hfound] at hw₁
            cases hw₁
            exact hcharged

theorem charged_run (d : Deployment) (calls : List Call) (w : WorkRow)
    (hw : w ∈ (run (Ledger.step d) Ledger.empty calls).workItems.rows) :
    Charged (failures d w.workItemId calls) w := by
  have hempty : Counted w.workItemId (Ledger.empty, 0) := by
    refine ⟨⟨Ledger.linked_empty, ?_, ?_⟩, fun _ => rfl, ?_⟩
    · intro j f hf
      cases hf
    · intro j f hf
      cases hf
    · intro w hw
      cases hw
  have hcounted := run_induction (I := Counted w.workItemId) (fun _ c hp => hp.step d c) hempty
    calls
  refine hcounted.charged w ?_
  rw [run_countFailures_fst]
  exact Table.find?_key hw

end Count

section Bound

variable {e : Effect} {f f' : JobFile} {maxAttempts : Nat}

/-- The work item stays within the budget, and below it while it can run. -/
def WithinBudget (maxAttempts : Nat) (f : JobFile) : Prop :=
  ∀ w, f.work = some w → w.attemptCount ≤ maxAttempts ∧
    (w.status ∈ [ReportJobWorkStatus.pending, .retryPending] → w.attemptCount < maxAttempts)

theorem withinBudget_of_rest {w : WorkRow} (hle : w.attemptCount ≤ maxAttempts)
    (hrest : w.status ∉ [ReportJobWorkStatus.pending, .retryPending]) :
    w.attemptCount ≤ maxAttempts ∧
      (w.status ∈ [ReportJobWorkStatus.pending, .retryPending] → w.attemptCount < maxAttempts) :=
  ⟨hle, fun hin => absurd hin hrest⟩

/-- Every effect keeps the budget, if failed attempts are judged by it. -/
theorem FileStep.withinBudget (h : FileStep e f f') (hpos : 1 ≤ maxAttempts)
    (hbudget : ∀ m, e = .attemptFailed m → m = maxAttempts) (hf : WithinBudget maxAttempts f) :
    WithinBudget maxAttempts f' := by
  intro w' hw'
  cases h with
  | record | move | cancel | offer | reserve | archiveRequest | wait | schedule | confirm =>
      exact hf w' hw'
  | claim _ hw hrunnable | claimRequired _ hw hrunnable =>
      cases hw'
      exact withinBudget_of_rest ((hf _ hw).2 hrunnable) (by simp [leasedWork])
  | park _ _ hw | refuse _ _ hw | exhaustParked _ _ hw =>
      cases hw'
      exact withinBudget_of_rest (hf _ hw).1 (by simp [parkedWork])
  | complete hw | settle _ _ hw | exhaustSettled _ _ hw | exhaustTerminal hw | exhaustFailed hw =>
      cases hw'
      exact withinBudget_of_rest (hf _ hw).1 (by simp [completedWork, failedWork])
  | defer hw =>
      cases hw'
      have hle := (hf _ hw).1
      simp only [deferredWork]
      omega
  | retry hw _ hlt =>
      cases hw'
      have heq := hbudget _ rfl
      exact ⟨(hf _ hw).1, fun _ => heq ▸ hlt⟩
  | resume =>
      cases hw'
      simp only [resumedWork]
      omega
  | enqueue _ _ _ _ hattempt =>
      cases hw'
      omega

/-- Work that failed has taken its job or its custody with it. -/
def FailedIsFinal (f : JobFile) : Prop :=
  ∀ w, f.work = some w → w.status = .failed → f.job.status.terminal = true ∨
    f.job.custody.state = some .blocked ∨ f.job.custody.state = some .refused

theorem FileStep.failedIsFinal (h : FileStep e f f') (hf : FailedIsFinal f) : FailedIsFinal f' := by
  have hnot : ∀ {w : WorkRow}, f.Leased → f.work = some w → w.status ≠ .failed := by
    rintro w ⟨w₀, hw₀, hleased⟩ hw
    rw [hw] at hw₀
    cases hw₀
    simp [hleased]
  intro w' hw' hfailed
  cases h with
  | record => exact hf w' hw' hfailed
  | move _ _ hallowed =>
      exact (hf w' hw' hfailed).imp_left (terminal_of_transitionAllowed hallowed)
  | cancel => exact Or.inl rfl
  | reserve _ hlease | archiveRequest _ hlease | wait _ hlease | schedule _ hlease
  | offer _ hlease | confirm _ hlease => exact absurd hfailed (hnot hlease hw')
  | park | exhaustParked => exact Or.inr (Or.inl rfl)
  | refuse => exact Or.inr (Or.inr rfl)
  | exhaustTerminal _ _ hterminal => exact Or.inl hterminal
  | exhaustFailed _ _ _ htarget =>
      left
      simp [movedFile, setWork, transitionedJob, htarget, ReportJobStatus.terminal]
  | claim | claimRequired | complete | settle | defer | retry | exhaustSettled | resume =>
      cases hw'
      simp [leasedWork, completedWork, deferredWork, failedWork, resumedWork] at hfailed
  | enqueue _ _ _ hstatus =>
      cases hw'
      rw [hstatus] at hfailed
      cases hfailed

end Bound

section Run

variable {policy : ReportJobWorkRetryPolicy}

/-- The call judges failed attempts by the retry policy. -/
def Call.UsesPolicy (policy : ReportJobWorkRetryPolicy) : Call → Prop
  | .ledger (.claimWorkItems c) => c.retryPolicy = policy
  | .ledger (.failWorkItem _ _ _ _ retryPolicy _ _) => retryPolicy = policy
  | _ => True

theorem Call.UsesPolicy.maxAttempts {c : Call} (h : c.UsesPolicy policy) {jobId : String} {m : Nat}
    (he : c.Allows jobId (.attemptFailed m)) : m = policy.maxAttempts := by
  cases c with
  | custody scope c => cases c <;> simp [Call.Allows, CustodyCall.Allows] at he
  | ledger c =>
      cases c with
      | claimWorkItems k =>
          rcases he with he | ⟨n, he⟩
          · exact (Effect.attemptFailed.inj he).trans (congrArg _ h)
          · cases he
      | failWorkItem =>
          rcases he with he | he
          · cases he
          · exact (Effect.attemptFailed.inj he).trans (congrArg _ h)
      | _ => simp [Call.Allows, LedgerCall.Allows] at he

theorem withinBudget_run (d : Deployment) {calls : List Call} (hpos : 1 ≤ policy.maxAttempts)
    (hpolicy : ∀ c ∈ calls, c.UsesPolicy policy) {jobId : String} {f : JobFile}
    (hf : (run (Ledger.step d) Ledger.empty calls).file? jobId = some f) :
    WithinBudget policy.maxAttempts f := by
  refine Ledger.file_invariant_of_allows (P := fun e => ∀ m, e = .attemptFailed m →
    m = policy.maxAttempts) ?_ ?_ d calls ?_ Ledger.linked_empty ?_ hf
  · intro f hopened w hw
    obtain ⟨-, hattempt, -⟩ := hopened.work w hw
    omega
  · intro e f f' he hstep
    exact hstep.withinBudget hpos he
  · rintro c hc j e he m rfl
    exact (hpolicy c hc).maxAttempts he
  · intro j f hf
    cases hf

theorem failedIsFinal_run (d : Deployment) (calls : List Call) {jobId : String} {f : JobFile}
    (hf : (run (Ledger.step d) Ledger.empty calls).file? jobId = some f) : FailedIsFinal f := by
  refine Ledger.file_invariant (fun f hopened w hw hfailed => ?_)
    (fun _ _ _ hstep => hstep.failedIsFinal) d calls hf
  rw [(hopened.work w hw).1] at hfailed
  cases hfailed

/-- The properties of the failure budget in a state of a run. -/
structure BudgetKept (d : Deployment) (policy : ReportJobWorkRetryPolicy) (calls : List Call) :
    Prop where
  bounded : ∀ w ∈ (run (Ledger.step d) Ledger.empty calls).workItems.rows,
    w.attemptCount ≤ policy.maxAttempts
  runnable : ∀ w ∈ (run (Ledger.step d) Ledger.empty calls).workItems.rows,
    w.status = .pending ∨ w.status = .retryPending → w.attemptCount < policy.maxAttempts
  final : ∀ w ∈ (run (Ledger.step d) Ledger.empty calls).workItems.rows, w.status = .failed →
    ∃ job, (run (Ledger.step d) Ledger.empty calls).jobs.find? w.reportJobId = some job ∧
      (job.status.terminal = true ∨ job.custody.state = some .blocked ∨
        job.custody.state = some .refused)
  charged : ∀ w ∈ (run (Ledger.step d) Ledger.empty calls).workItems.rows,
    Charged (failures d w.workItemId calls) w

/-- In every run under one retry policy, attempts stay within the budget and runnable work below
it, failed work belongs to a settled or blocked job, and the attempts charged to work that can
still run are its failures since the last reset, plus one while it is leased. -/
theorem work_budget (d : Deployment) (policy : ReportJobWorkRetryPolicy) (calls : List Call)
    (hpos : 1 ≤ policy.maxAttempts) (hpolicy : ∀ c ∈ calls, c.UsesPolicy policy) :
    BudgetKept d policy calls := by
  have hfile := fun w => (Ledger.linked_run d calls Ledger.linked_empty).file?_of_work (w := w)
  refine ⟨fun w hw => ?_, fun w hw hrunnable => ?_, fun w hw hfailed => ?_, charged_run d calls⟩
  · obtain ⟨f, hf, hwork⟩ := hfile w hw
    exact (withinBudget_run d hpos hpolicy hf w hwork).1
  · obtain ⟨f, hf, hwork⟩ := hfile w hw
    exact (withinBudget_run d hpos hpolicy hf w hwork).2 (by simpa using hrunnable)
  · obtain ⟨f, hf, hwork⟩ := hfile w hw
    exact ⟨f.job, (Ledger.file?_eq_some_iff.mp hf).1, failedIsFinal_run d calls hf w hwork hfailed⟩

/-- A job whose work item was claimed and completed. -/
def completedRun : List Call :=
  [sampleSubmit none, sampleClaim 'a' 0, .ledger (.completeWorkItem "rwork_1" "a" 0)]

theorem work_budget_completed : BudgetKept sampleDeployment {} completedRun := by
  refine work_budget sampleDeployment {} completedRun (by decide) fun c hc => ?_
  simp only [completedRun, List.mem_cons, List.not_mem_nil, or_false] at hc
  rcases hc with rfl | rfl | rfl <;> first | rfl | trivial

/-- A completed work item keeps the charge of the attempt that completed it, and has no failure. -/
theorem completed_work_charged : ¬ ∀ (d : Deployment) (policy : ReportJobWorkRetryPolicy)
    (calls : List Call), 1 ≤ policy.maxAttempts → (∀ c ∈ calls, c.UsesPolicy policy) →
    ∀ w ∈ (run (Ledger.step d) Ledger.empty calls).workItems.rows,
      w.attemptCount = failures d w.workItemId calls + if w.status = .leased then 1 else 0 := by
  intro h
  have hcompleted := h sampleDeployment {} completedRun (by decide) (fun c hc => by
    simp only [completedRun, List.mem_cons, List.not_mem_nil, or_false] at hc
    rcases hc with rfl | rfl | rfl <;> first | rfl | trivial)
  revert hcompleted
  decide +kernel

end Run

end LotusReport.Jobs
