import LotusReport.Jobs.CustodyProtection

/-!
# Exclusive work leases

A work item carries a lease token exactly while it is leased. Only a claim
issues a token, every settlement takes the token away, and so a token that was
settled, swept or replaced settles nothing any more.
-/

namespace LotusReport.Jobs

open Encoding Fallible StateMachine JobFile

section Step

variable {e : Effect} {f f' : JobFile}

/-- The lease token of the work item of a job. -/
def JobFile.token (f : JobFile) : Option String := f.work.bind WorkRow.leaseToken

/-- The work item has a token exactly while it is leased. -/
def TokenMeansLeased (f : JobFile) : Prop :=
  ∀ w, f.work = some w → (w.leaseToken.isSome = true ↔ w.status = .leased)

theorem FileStep.tokenMeansLeased (h : FileStep e f f') (hf : TokenMeansLeased f) :
    TokenMeansLeased f' := by
  intro w' hw'
  cases h with
  | record | move | cancel | offer | reserve | archiveRequest | wait | schedule | confirm =>
      exact hf w' hw'
  | claim | claimRequired =>
      cases hw'
      simp [leasedWork]
  | park | exhaustParked | refuse =>
      cases hw'
      simp [parkedWork, WorkRow.released]
  | complete | settle | defer | retry | exhaustTerminal | exhaustSettled | exhaustFailed =>
      cases hw'
      simp [completedWork, deferredWork, failedWork, WorkRow.released]
  | resume _ hw hstatus =>
      cases hw'
      have hold := hf _ hw
      rw [hstatus] at hold
      simpa [resumedWork] using hold
  | enqueue _ _ _ hstatus _ htoken =>
      cases hw'
      simp [hstatus, htoken]

/-- A token after a change was issued by it, or was there before. -/
theorem FileStep.token (h : FileStep e f f') {t : String} (ht : f'.token = some t) :
    e = .claimed t ∨ f.token = some t := by
  cases h with
  | record | move | cancel | offer | reserve | archiveRequest | wait | schedule | confirm =>
      exact Or.inr ht
  | claim | claimRequired =>
      cases ht
      exact Or.inl rfl
  | park | exhaustParked | refuse | complete | settle | defer | retry | exhaustTerminal
  | exhaustSettled | exhaustFailed => cases ht
  | resume _ hw =>
      refine Or.inr ?_
      unfold JobFile.token
      rw [hw]
      exact ht
  | enqueue _ _ _ _ _ htoken =>
      simp [JobFile.token, setWork, htoken] at ht

/-- The effects that end a lease. -/
def Effect.endsLease : Effect → Prop
  | .settled | .parked | .completed | .deferred | .attemptFailed _ => True
  | _ => False

theorem FileStep.token_none (h : FileStep e f f') (he : e.endsLease) : f'.token = none := by
  cases h <;> first | exact he.elim | rfl

/-- The work item is at rest: completed or failed. -/
def AtRest (f : JobFile) : Prop :=
  ∃ w, f.work = some w ∧ (w.status = .completed ∨ w.status = .failed)

/-- Only a resume takes a work item out of its rest. -/
theorem FileStep.atRest (h : FileStep e f f') (he : e ≠ .resumed) (hf : AtRest f) : AtRest f' := by
  obtain ⟨w, hw, hrest⟩ := hf
  have hnot : ∀ {w' : WorkRow}, f.work = some w' → w'.status = .leased → False := by
    intro w' hw' hleased
    rw [hw] at hw'
    cases hw'
    rcases hrest with hstatus | hstatus <;> rw [hstatus] at hleased <;> cases hleased
  have hrunnable : ∀ {w' : WorkRow}, f.work = some w' →
      w'.status ∈ [ReportJobWorkStatus.pending, .retryPending] → False := by
    intro w' hw' hin
    rw [hw] at hw'
    cases hw'
    rcases hrest with hstatus | hstatus <;> simp [hstatus] at hin
  cases h with
  | record | move | cancel | offer | reserve | archiveRequest | wait | schedule | confirm =>
      exact ⟨w, hw, hrest⟩
  | claim _ hw' hin | claimRequired _ hw' hin => exact (hrunnable hw' hin).elim
  | complete hw' hlease | defer hw' hlease =>
      simp only [leasedUnder, Bool.and_eq_true, beq_iff_eq] at hlease
      exact (hnot hw' hlease.1).elim
  | retry hw' hlease | exhaustTerminal hw' hlease | exhaustFailed hw' hlease =>
      exact (hnot hw' hlease).elim
  | exhaustSettled _ _ hw' hlease | exhaustParked _ _ hw' hlease => exact (hnot hw' hlease).elim
  | park | refuse => exact ⟨_, rfl, Or.inr rfl⟩
  | settle => exact ⟨_, rfl, Or.inl rfl⟩
  | resume => exact absurd rfl he
  | enqueue hnone =>
      rw [hnone] at hw
      cases hw

/-- Only a required job is ever verified. -/
def VerifiedIsRequired (f : JobFile) : Prop :=
  f.job.custody.state = some .verified → f.job.custody.policy = requiredPolicy

theorem FileStep.verifiedIsRequired (h : FileStep e f f') (hf : VerifiedIsRequired f) :
    VerifiedIsRequired f' := by
  intro hv'
  rw [h.policy_eq]
  by_cases hv : Verified f
  · exact hf hv
  · have heq := h.confirmed_of_verified hv hv'
    subst heq
    cases h with
    | confirm hpolicy => exact hpolicy

end Step

section Settlement

variable {f f' : JobFile} {workItemId token : String} {now : Instant}

theorem token_of_leasedUnder {w : WorkRow} (hw : f.work = some w)
    (h : leasedUnder w token = true) : f.token = some token := by
  simp only [leasedUnder, Bool.and_eq_true, beq_iff_eq] at h
  simp [JobFile.token, hw, h.2]

/-- Work of a required job is settled under its current lease only. -/
theorem validateWork_token (h : f.validateWork workItemId token now = .ok ())
    (hpolicy : f.job.custody.policy = requiredPolicy) : f.token = some token := by
  obtain ⟨⟨⟩, -, hcheck⟩ := bind_eq_ok.mp h
  rw [if_pos hpolicy] at hcheck
  have hholds := lease_eq_ok hcheck
  unfold holdsFence at hholds
  split at hholds
  · cases hholds
  · rename_i w hw
    simp only [Bool.and_eq_true, beq_iff_eq] at hholds
    simp [JobFile.token, hw, hholds.1.1.2]

theorem completeWork_token (h : f.completeWork workItemId token now = .ok f') :
    f.token = some token := by
  obtain ⟨⟨⟩, hvalid, hwork⟩ := bind_eq_ok.mp h
  by_cases hpolicy : f.job.custody.policy = requiredPolicy
  · exact validateWork_token hvalid hpolicy
  · obtain ⟨⟨handled, f₁⟩, hprotect, hrest⟩ := bind_eq_ok.mp hwork
    rcases protectWork_eq_ok hprotect with ⟨-, hstep⟩ | ⟨-, reason, hparked⟩ | ⟨rfl, rfl, -, -⟩
    · cases hstep with
      | settle hrequired => exact absurd hrequired hpolicy
    · exact absurd hparked.policy hpolicy
    · simp only [Bool.false_eq_true, if_false] at hrest
      split at hrest
      · rename_i w hw
        split at hrest
        · rename_i hlease
          exact token_of_leasedUnder hw hlease
        · cases hrest
      · cases hrest

theorem deferWork_token {waitReason : String} {delaySeconds : Int} (hf : VerifiedIsRequired f)
    (h : f.deferWork workItemId token waitReason delaySeconds now = .ok f') :
    f.token = some token := by
  obtain ⟨⟨⟩, hvalid, hwork⟩ := bind_eq_ok.mp h
  by_cases hpolicy : f.job.custody.policy = requiredPolicy
  · exact validateWork_token hvalid hpolicy
  · obtain ⟨settled, hsettle, hrest⟩ := bind_eq_ok.mp hwork
    rcases settleVerifiedWork_eq_ok hsettle with ⟨-, rfl⟩ | ⟨hv, -⟩
    · simp only at hrest
      split at hrest
      · rename_i w hw
        split at hrest
        · rename_i hlease
          exact token_of_leasedUnder hw hlease
        · cases hrest
      · cases hrest
    · exact absurd (hf hv) hpolicy

theorem failWork_token {errorCategory errorSummary : String} {policy : ReportJobWorkRetryPolicy}
    {lease : Option (String × String)} (hf : VerifiedIsRequired f)
    (h : f.failWork workItemId token errorCategory errorSummary policy lease now = .ok f') :
    f.token = some token := by
  obtain ⟨⟨⟩, hvalid, hwork⟩ := bind_eq_ok.mp h
  by_cases hpolicy : f.job.custody.policy = requiredPolicy
  · exact validateWork_token hvalid hpolicy
  · obtain ⟨settled, hsettle, hrest⟩ := bind_eq_ok.mp hwork
    rcases settleVerifiedWork_eq_ok hsettle with ⟨-, rfl⟩ | ⟨hv, -⟩
    · simp only at hrest
      split at hrest
      · rename_i w hw
        split at hrest
        · rename_i hlease
          exact token_of_leasedUnder hw hlease
        · cases hrest
      · cases hrest
    · exact absurd (hf hv) hpolicy

/-- The work item and the token of a settlement. -/
def Call.settlement? : Call → Option (String × String)
  | .ledger (.completeWorkItem workItemId token _) => some (workItemId, token)
  | .ledger (.deferWorkItem workItemId token _ _ _) => some (workItemId, token)
  | .ledger (.failWorkItem workItemId token _ _ _ _ _) => some (workItemId, token)
  | _ => none

theorem onWorkItem_eq_ok {α : Type} {s t : Ledger} {missing : LedgerError} {a : α}
    {op : JobFile → Except LedgerError (α × JobFile)}
    (h : s.onWorkItem workItemId missing op = .ok (a, t)) :
    ∃ w f f', s.workItems.find? workItemId = some w ∧ s.file? w.reportJobId = some f ∧
      f.work = some w ∧ op f = .ok (a, f') ∧ t = s.store f' := by
  unfold Ledger.onWorkItem at h
  split at h
  · cases h
  · rename_i w hw
    obtain ⟨f, f', hf, hop, rfl⟩ := Ledger.onJob_eq_ok h
    refine ⟨w, f, f', hw, hf, ?_, hop, rfl⟩
    rw [(Ledger.file?_eq_some_iff.mp hf).2.2.1]
    exact Relational.Table.lookup?_index (Relational.Table.mem_of_find? hw)

/-- The lease of the work item ended by a settlement under its current token. -/
def EndsLease (s : Ledger) (workItemId token : String) (t : Ledger) : Prop :=
  ∃ w f f' e, s.workItems.find? workItemId = some w ∧ s.file? w.reportJobId = some f ∧
    w.leaseToken = some token ∧ f.token = some token ∧ e.endsLease ∧ FileStep e f f' ∧
    t = s.store f'

theorem endsLease_of_onWorkItem {s t : Ledger} {missing : LedgerError}
    {op : JobFile → Except LedgerError JobFile}
    (hs : ∀ jobId f, s.file? jobId = some f → VerifiedIsRequired f)
    (hop : ∀ f f', VerifiedIsRequired f → op f = .ok f' →
      f.token = some token ∧ ∃ e : Effect, e.endsLease ∧ FileStep e f f')
    (h : s.onWorkItem workItemId missing (fun f => unvalued (op f)) = .ok ((), t)) :
    EndsLease s workItemId token t := by
  obtain ⟨w, f, f', hw, hf, hwork, hdone, rfl⟩ := onWorkItem_eq_ok h
  obtain ⟨htoken, e, hends, hstep⟩ := hop f f' (hs _ f hf) (unvalued_eq_ok.mp hdone)
  refine ⟨w, f, f', e, hw, hf, ?_, htoken, hends, hstep, rfl⟩
  simpa [JobFile.token, hwork] using htoken

/-- A successful settlement presented the current token of its work item and ended its lease. -/
theorem settlement_eq_ok {d : Deployment} {s t : Ledger} {c : Call}
    (hs : ∀ jobId f, s.file? jobId = some f → VerifiedIsRequired f)
    (hc : c.settlement? = some (workItemId, token)) (h : c.perform d s = .ok t) :
    EndsLease s workItemId token t := by
  cases c with
  | custody scope c => cases hc
  | ledger c =>
      cases c with
      | completeWorkItem id tok now =>
          simp only [Call.settlement?, Option.some.injEq, Prod.mk.injEq] at hc
          obtain ⟨⟨⟨⟩, t'⟩, hitem, hlast⟩ := bind_eq_ok.mp h
          cases hlast
          refine hc.1 ▸ hc.2 ▸ endsLease_of_onWorkItem hs (fun f f' _ hop => ?_) hitem
          refine ⟨completeWork_token hop, ?_⟩
          rcases completeWork_fileStep hop with hstep | hstep | hstep
          · exact ⟨.settled, trivial, hstep⟩
          · exact ⟨.parked, trivial, hstep⟩
          · exact ⟨.completed, trivial, hstep⟩
      | deferWorkItem id tok waitReason delaySeconds now =>
          simp only [Call.settlement?, Option.some.injEq, Prod.mk.injEq] at hc
          obtain ⟨⟨⟨⟩, t'⟩, hitem, hlast⟩ := bind_eq_ok.mp h
          cases hlast
          refine hc.1 ▸ hc.2 ▸ endsLease_of_onWorkItem hs (fun f f' hf hop => ?_) hitem
          refine ⟨deferWork_token hf hop, ?_⟩
          rcases deferWork_fileStep hop with ⟨-, hv, hpolicy⟩ | hstep | hstep
          · exact absurd (hf hv) hpolicy
          · exact ⟨.settled, trivial, hstep⟩
          · exact ⟨.deferred, trivial, hstep⟩
      | failWorkItem id tok errorCategory errorSummary policy lease now =>
          simp only [Call.settlement?, Option.some.injEq, Prod.mk.injEq] at hc
          obtain ⟨⟨⟨⟩, t'⟩, hitem, hlast⟩ := bind_eq_ok.mp h
          cases hlast
          refine hc.1 ▸ hc.2 ▸ endsLease_of_onWorkItem hs (fun f f' hf hop => ?_) hitem
          refine ⟨failWork_token hf hop, ?_⟩
          rcases failWork_fileStep hop with ⟨-, hv, hpolicy⟩ | hstep | ⟨-, hstep⟩
          · exact absurd (hf hv) hpolicy
          · exact ⟨.settled, trivial, hstep⟩
          · exact ⟨.attemptFailed policy.maxAttempts, trivial, hstep⟩
      | _ => cases hc

end Settlement

section Exclusive

open Ledger

/-- Every token in use was issued, and no two jobs hold the same one. -/
structure Exclusive (issued : String → Prop) (s : Ledger) : Prop where
  linked : s.Linked
  known : ∀ j f t, s.file? j = some f → f.token = some t → issued t
  unique : ∀ j k f g t, s.file? j = some f → s.file? k = some g → f.token = some t →
    g.token = some t → j = k

variable {P Q : String → Prop} {s t : Ledger} {jobId : String} {f f' : JobFile} {e : Effect}

theorem Exclusive.mono (h : Exclusive P s) (hPQ : ∀ t, P t → Q t) : Exclusive Q s :=
  ⟨h.linked, fun j f t hf ht => hPQ t (h.known j f t hf ht), h.unique⟩

/-- A change keeps tokens exclusive when a token that it issues was not in use. -/
theorem Exclusive.store (h : Exclusive P s) (hf : s.file? jobId = some f) (hstep : FileStep e f f')
    (hfresh : FreshWork s f f') (hnew : ∀ t, e = .claimed t → ¬ P t) :
    Exclusive (fun t => P t ∨ e = .claimed t) (s.store f') := by
  have hfile := file?_store hf hstep.continues hfresh
  have hold : ∀ {k g u}, (s.store f').file? k = some g → g.token = some u →
      e = .claimed u ∧ jobId = k ∨ ∃ g₀, s.file? k = some g₀ ∧ g₀.token = some u := by
    intro k g u hg hu
    rw [hfile] at hg
    split at hg
    · rename_i hk
      subst hk
      cases hg
      rcases hstep.token hu with hclaimed | hkept
      · exact Or.inl ⟨hclaimed, rfl⟩
      · exact Or.inr ⟨f, hf, hkept⟩
    · exact Or.inr ⟨g, hg, hu⟩
  refine ⟨linked_store h.linked hf hstep.continues, fun j g u hg hu => ?_,
    fun j k g g' u hg hg' hu hu' => ?_⟩
  · rcases hold hg hu with ⟨hclaimed, -⟩ | ⟨g₀, hg₀, hu₀⟩
    · exact Or.inr hclaimed
    · exact Or.inl (h.known j g₀ u hg₀ hu₀)
  · rcases hold hg hu with ⟨hclaimed, hj⟩ | ⟨g₀, hg₀, hu₀⟩
    · rcases hold hg' hu' with ⟨-, hk⟩ | ⟨g₁, hg₁, hu₁⟩
      · exact hj.symm.trans hk
      · exact absurd (h.known k g₁ u hg₁ hu₁) (hnew u hclaimed)
    · rcases hold hg' hu' with ⟨hclaimed, -⟩ | ⟨g₁, hg₁, hu₁⟩
      · exact absurd (h.known j g₀ u hg₀ hu₀) (hnew u hclaimed)
      · exact h.unique j k g₀ g₁ u hg₀ hg₁ hu₀ hu₁

theorem Exclusive.changes {allowed : String → Effect → Prop} (h : Exclusive P s)
    (hchanges : s.Changes allowed t) (hnone : ∀ j t, ¬ allowed j (.claimed t)) : Exclusive P t := by
  induction hchanges with
  | refl => exact h
  | tail _ hf he hstep hfresh ih =>
      refine (ih.store hf hstep hfresh fun t heq => absurd (heq ▸ he) (hnone _ t)).mono ?_
      rintro t (hP | heq)
      · exact hP
      · exact absurd (heq ▸ he) (hnone _ t)

theorem Exclusive.claims {c : ClaimCall} (hinj : Function.Injective c.leaseTokens)
    (hfresh : ∀ m, ¬ P (c.leaseTokens m)) {n : Nat} {ids : List String} {rows : List WorkRow}
    (h : Exclusive (fun t => P t ∨ ∃ m < n, c.leaseTokens m = t) s)
    (hclaims : forEachWorkItem
      (fun n f => f.claimWork c.workerId (c.leaseTokens n) c.leaseSeconds c.claimedAt c.now)
      s n ids = .ok (rows, t)) :
    Exclusive (fun t => P t ∨ ∃ m, c.leaseTokens m = t) t := by
  induction ids generalizing s n rows with
  | nil =>
      cases hclaims
      exact h.mono fun t ht => ht.imp_right fun ⟨m, _, hm⟩ => ⟨m, hm⟩
  | cons id ids ih =>
      obtain ⟨⟨row, u⟩, hfirst, hrest⟩ := bind_eq_ok.mp hclaims
      obtain ⟨⟨rows', t'⟩, hnext, hlast⟩ := bind_eq_ok.mp hrest
      cases hlast
      refine ih ?_ hnext
      obtain ⟨w, f, f', -, hf, -, hop, rfl⟩ := onWorkItem_eq_ok hfirst
      rcases claimWork_fileStep hop with ⟨-, rfl⟩ | ⟨-, hstep, -⟩
      · rw [store_self hf]
        exact h.mono fun t ht => ht.imp_right fun ⟨m, hlt, hm⟩ => ⟨m, by omega, hm⟩
      · refine (h.store hf hstep (freshWork_of_ne hstep (by simp) s) ?_).mono ?_
        · rintro t heq (hP | ⟨m, hlt, hm⟩)
          · cases heq
            exact hfresh n hP
          · cases heq
            have := hinj hm
            omega
        · rintro t ((hP | ⟨m, hlt, hm⟩) | heq)
          · exact Or.inl hP
          · exact Or.inr ⟨m, by omega, hm⟩
          · cases heq
            exact Or.inr ⟨n, by omega, rfl⟩

theorem token_of_opened (h : Opened f) : f.token = none := by
  cases hw : f.work with
  | none => simp [JobFile.token, hw]
  | some w => simp [JobFile.token, hw, (h.work w hw).2.2]

/-- A new job holds no token. -/
theorem Exclusive.accepts {d : Deployment} {c : CreateCall} {sub : Submission}
    {source : Option (JobRow × String)} (h : Exclusive P s) (haccepts : Accepts d s c sub source f t) :
    Exclusive P t := by
  have hold : ∀ {k g u}, t.file? k = some g → g.token = some u → s.file? k = some g := by
    intro k g u hg hu
    rw [haccepts.files] at hg
    split at hg
    · cases hg
      rw [token_of_opened haccepts.opened] at hu
      cases hu
    · exact hg
  exact ⟨haccepts.linked, fun j g u hg hu => h.known j g u (hold hg hu) hu,
    fun j k g g' u hg hg' hu hu' => h.unique j k g g' u (hold hg hu) (hold hg' hu') hu hu'⟩

/-- The call may issue the token. -/
def Call.Issues : Call → String → Prop
  | .ledger (.claimWorkItems c), t => ∃ n, c.leaseTokens n = t
  | _, _ => False

/-- The tokens of the call are distinct. -/
def Call.DistinctSupply : Call → Prop
  | .ledger (.claimWorkItems c) => Function.Injective c.leaseTokens
  | _ => True

theorem Call.issues_of_allows {c : Call} {token : String} (h : c.Allows jobId (.claimed token)) :
    c.Issues token := by
  cases c with
  | ledger c =>
      cases c with
      | claimWorkItems c =>
          rcases h with h | ⟨n, hn⟩
          · cases h
          · exact ⟨n, (Effect.claimed.inj hn).symm⟩
      | _ => simp [Call.Allows, LedgerCall.Allows] at h
  | custody scope c => cases c <;> simp [Call.Allows, CustodyCall.Allows] at h

theorem Exclusive.claimWorkItems {c : ClaimCall} {rows : List WorkRow} (h : Exclusive P s)
    (hinj : Function.Injective c.leaseTokens) (hfresh : ∀ m, ¬ P (c.leaseTokens m))
    (hclaim : s.claimWorkItems c = .ok (rows, t)) :
    Exclusive (fun t => P t ∨ ∃ m, c.leaseTokens m = t) t := by
  unfold Ledger.claimWorkItems at hclaim
  split at hclaim
  · cases hclaim
    exact h.mono fun _ hP => Or.inl hP
  · obtain ⟨u, hsweep, hclaims⟩ := bind_eq_ok.mp hclaim
    obtain ⟨⟨rows', u'⟩, hexpire, hlast⟩ := bind_eq_ok.mp hsweep
    cases hlast
    have hswept : s.Changes (fun _ e => e = .attemptFailed c.retryPolicy.maxAttempts) u :=
      forEachWorkItem_changes (fun n jobId f f' b hop => by
        obtain ⟨f₁, hstep, hlast⟩ := bind_eq_ok.mp hop
        cases hlast
        exact Or.inr ⟨_, by simp, rfl, expireWork_fileStep hstep⟩) hexpire
    have hempty := h.changes hswept (by simp)
    exact Exclusive.claims hinj hfresh (hempty.mono fun _ hP => Or.inl hP) hclaims

/-- A call keeps tokens exclusive when it issues distinct tokens that were not issued before. -/
theorem Exclusive.step (h : Exclusive P s) (d : Deployment) (c : Call) (hdistinct : c.DistinctSupply)
    (hfresh : ∀ t, c.Issues t → ¬ P t) : Exclusive (fun t => P t ∨ c.Issues t) (s.step d c) := by
  rcases Ledger.step_cases d s c h.linked with hsame | hperformed
  · rw [hsame]
    exact h.mono fun _ hP => Or.inl hP
  · by_cases hclaim : ∃ k, c = .ledger (.claimWorkItems k)
    · obtain ⟨k, rfl⟩ := hclaim
      unfold Ledger.step
      split
      · rename_i t hperform
        obtain ⟨⟨rows, t'⟩, hclaimed, hlast⟩ := bind_eq_ok.mp hperform
        cases hlast
        exact h.claimWorkItems hdistinct (fun m => hfresh _ ⟨m, rfl⟩) hclaimed
      · exact h.mono fun _ hP => Or.inl hP
    · have hsilent : ∀ token, ¬ c.Issues token := by
        intro token hissues
        cases c with
        | ledger c => cases c <;> first | exact hissues | exact hclaim ⟨_, rfl⟩
        | custody scope c => exact hissues
      refine Exclusive.mono (P := P) ?_ fun _ hP => Or.inl hP
      generalize s.step d c = t at hperformed
      cases hperformed with
      | changed hchanges =>
          exact h.changes hchanges fun j token hallows =>
            hsilent token (Call.issues_of_allows hallows)
      | accepted haccepts => exact h.accepts haccepts
      | related hlinked => exact ⟨hlinked, h.known, h.unique⟩

/-- All tokens that the calls of a run issue are distinct. -/
structure DistinctTokens (calls : List Call) : Prop where
  each : ∀ c ∈ calls, c.DistinctSupply
  apart : calls.Pairwise fun c c' => ∀ t, c.Issues t → ¬ c'.Issues t

/-- The call is a custody resume of the job. -/
def Call.Resumes (jobId : String) : Call → Prop
  | .custody scope (.resume _ _ _) => scope.jobId = jobId
  | _ => False

theorem Exclusive.run (h : Exclusive P s) (d : Deployment) {calls : List Call}
    (hdistinct : DistinctTokens calls) (hfresh : ∀ c ∈ calls, ∀ t, c.Issues t → ¬ P t) :
    Exclusive (fun t => P t ∨ ∃ c ∈ calls, c.Issues t) (run (Ledger.step d) s calls) := by
  induction calls generalizing s P with
  | nil => exact h.mono fun _ hP => Or.inl hP
  | cons c calls ih =>
      have hpair := List.pairwise_cons.mp hdistinct.apart
      have hstep := h.step d c (hdistinct.each c List.mem_cons_self) (hfresh c List.mem_cons_self)
      refine (ih hstep ⟨fun c' hc' => hdistinct.each c' (List.mem_cons_of_mem c hc'), hpair.2⟩
        fun c' hc' t hissues => ?_).mono ?_
      · rintro (hP | hearlier)
        · exact hfresh c' (List.mem_cons_of_mem c hc') t hissues hP
        · exact hpair.1 c' hc' t hearlier hissues
      · rintro t ((hP | hearlier) | ⟨c', hc', hlater⟩)
        · exact Or.inl hP
        · exact Or.inr ⟨c, List.mem_cons_self, hearlier⟩
        · exact Or.inr ⟨c', List.mem_cons_of_mem c hc', hlater⟩

theorem exclusive_run (d : Deployment) {calls : List Call} (hdistinct : DistinctTokens calls) :
    Exclusive (fun t => ∃ c ∈ calls, c.Issues t) (run (Ledger.step d) Ledger.empty calls) := by
  have hempty : Exclusive (fun _ => False) Ledger.empty := by
    refine ⟨linked_empty, ?_, ?_⟩
    · intro j f t hf
      cases hf
    · intro j k f g t hf
      cases hf
  exact (hempty.run d hdistinct fun _ _ _ _ hfalse => hfalse).mono fun _ h =>
    h.resolve_left fun hfalse => hfalse

end Exclusive

section Run

variable {d : Deployment} {s : Ledger} {c : Call} {workItemId token : String}

/-- No work item holds the token. -/
def TokenFree (token : String) (s : Ledger) : Prop :=
  ∀ jobId f, s.file? jobId = some f → f.token ≠ some token

theorem TokenFree.step (h : TokenFree token s) (hs : s.Linked) (hsilent : ¬ c.Issues token) :
    TokenFree token (s.step d c) := by
  intro jobId f' hf' ht
  rcases Ledger.file_of_step hs c hf' with ⟨f, hf, hrun⟩ | ⟨-, hopened⟩
  · have hfree : f'.token ≠ some token :=
      hrun.invariant (I := fun g => g.token ≠ some token)
        (fun e g g' he hstep hg hg' => by
          rcases hstep.token hg' with rfl | hkept
          · exact hsilent (Call.issues_of_allows he)
          · exact hg hkept) (h jobId f hf)
    exact hfree ht
  · rw [token_of_opened hopened] at ht
    cases ht

theorem TokenFree.run (h : TokenFree token s) (hs : s.Linked) {calls : List Call}
    (hsilent : ∀ c ∈ calls, ¬ c.Issues token) : TokenFree token (run (Ledger.step d) s calls) := by
  induction calls generalizing s with
  | nil => exact h
  | cons c calls ih =>
      exact ih (h.step hs (hsilent c List.mem_cons_self)) (Ledger.linked_step d s c hs)
        fun c' hc' => hsilent c' (List.mem_cons_of_mem c hc')

/-- A settlement takes its token out of use. -/
theorem EndsLease.tokenFree {P : String → Prop} {t : Ledger} (hs : Exclusive P s)
    (h : EndsLease s workItemId token t) : TokenFree token t := by
  obtain ⟨w, f, f', e, -, hf, -, htoken, hends, hstep, rfl⟩ := h
  have hne : e ≠ .enqueued := by
    rintro rfl
    exact hends
  intro k g hg hg'
  rw [Ledger.file?_store hf hstep.continues (Ledger.freshWork_of_ne hstep hne s)] at hg
  split at hg
  · cases hg
    rw [hstep.token_none hends] at hg'
    cases hg'
  · rename_i hk
    exact hk (hs.unique _ _ f g token hf hg htoken hg')

theorem settlement_refused (hs : ∀ jobId f, s.file? jobId = some f → VerifiedIsRequired f)
    (hc : c.settlement? = some (workItemId, token))
    (hstale : ∀ w, s.workItems.find? workItemId = some w → w.leaseToken ≠ some token) :
    (∃ error, c.perform d s = .error error) ∧ s.step d c = s := by
  unfold Ledger.step
  cases h : c.perform d s with
  | error error => exact ⟨⟨error, rfl⟩, rfl⟩
  | ok t =>
      obtain ⟨w, -, -, -, hw, -, htoken, -⟩ := settlement_eq_ok hs hc h
      exact absurd htoken (hstale w hw)

theorem verifiedIsRequired_of_opened {f : JobFile} (h : Opened f) : VerifiedIsRequired f := by
  intro hv
  rw [h.custody] at hv
  cases hv

theorem tokenMeansLeased_of_opened {f : JobFile} (h : Opened f) : TokenMeansLeased f := by
  intro w hw
  obtain ⟨hstatus, -, htoken⟩ := h.work w hw
  simp [hstatus, htoken]

theorem verifiedIsRequired_run (d : Deployment) (calls : List Call) (jobId : String) (f : JobFile)
    (hf : (run (Ledger.step d) Ledger.empty calls).file? jobId = some f) : VerifiedIsRequired f :=
  Ledger.file_invariant (fun _ => verifiedIsRequired_of_opened)
    (fun _ _ _ hstep => hstep.verifiedIsRequired) d calls hf

theorem tokenMeansLeased_run (d : Deployment) (calls : List Call) (w : WorkRow)
    (hw : w ∈ (run (Ledger.step d) Ledger.empty calls).workItems.rows) :
    w.leaseToken.isSome = true ↔ w.status = .leased := by
  obtain ⟨f, hf, hwork⟩ := (Ledger.linked_run d calls Ledger.linked_empty).file?_of_work hw
  exact Ledger.file_invariant (I := TokenMeansLeased) (fun _ => tokenMeansLeased_of_opened)
    (fun _ _ _ hstep => hstep.tokenMeansLeased) d calls hf w hwork

/-- The properties of the leases in a state of a run. -/
structure LeasesExclusive (d : Deployment) (calls : List Call) : Prop where
  /-- A work item has a token exactly while it is leased. -/
  leased : ∀ w ∈ (run (Ledger.step d) Ledger.empty calls).workItems.rows,
    w.leaseToken.isSome = true ↔ w.status = .leased
  /-- A settlement under another token raises and changes nothing. -/
  fenced : ∀ c workItemId token, c.settlement? = some (workItemId, token) →
    (∀ w, (run (Ledger.step d) Ledger.empty calls).workItems.find? workItemId = some w →
      w.leaseToken ≠ some token) →
    (∃ error, c.perform d (run (Ledger.step d) Ledger.empty calls) = .error error) ∧
      Ledger.step d (run (Ledger.step d) Ledger.empty calls) c =
        run (Ledger.step d) Ledger.empty calls
  /-- After a token has settled, every settlement under it raises. -/
  once : ∀ (before : List Call) (c₁ : Call) (between : List Call) (c₂ : Call) workItemId₁ workItemId₂ token, calls = before ++ c₁ :: between →
    c₁.settlement? = some (workItemId₁, token) → c₂.settlement? = some (workItemId₂, token) →
    (∃ t, c₁.perform d (run (Ledger.step d) Ledger.empty before) = .ok t) →
    ∃ error, c₂.perform d (run (Ledger.step d) Ledger.empty calls) = .error error
  /-- A work item at rest stays at rest, unless custody resumes its job. -/
  rests : ∀ calls' jobId f, (run (Ledger.step d) Ledger.empty calls).file? jobId = some f →
    AtRest f → (∀ c ∈ calls', ¬ c.Resumes jobId) →
    ∃ f', (run (Ledger.step d) Ledger.empty (calls ++ calls')).file? jobId = some f' ∧ AtRest f'

theorem settles_once (d : Deployment) {before between : List Call} {c₁ c₂ : Call}
    {workItemId₁ workItemId₂ : String} (hdistinct : DistinctTokens (before ++ c₁ :: between))
    (hc₁ : c₁.settlement? = some (workItemId₁, token))
    (hc₂ : c₂.settlement? = some (workItemId₂, token)) {t : Ledger}
    (hok : c₁.perform d (run (Ledger.step d) Ledger.empty before) = .ok t) :
    ∃ error, c₂.perform d (run (Ledger.step d) Ledger.empty (before ++ c₁ :: between)) =
      .error error := by
  obtain ⟨hbefore, hlater, hacross⟩ := List.pairwise_append.mp hdistinct.apart
  have hexclusive := exclusive_run d
    ⟨fun c hc => hdistinct.each c (List.mem_append_left _ hc), hbefore⟩
  have hends := settlement_eq_ok (verifiedIsRequired_run d before) hc₁ hok
  obtain ⟨w, f, -, -, -, hf, -, htoken, -⟩ := id hends
  obtain ⟨c, hc, hissues⟩ := hexclusive.known _ f token hf htoken
  have hstep := Ledger.step_of_ok hok
  have hrun : run (Ledger.step d) Ledger.empty (before ++ c₁ :: between) =
      run (Ledger.step d) t between := by
    rw [run_append, run_cons, hstep]
  have hfree : TokenFree token (run (Ledger.step d) t between) := by
    refine (hends.tokenFree hexclusive).run (hstep ▸ Ledger.linked_step d _ c₁ hexclusive.linked)
      fun c' hc' hissues' => ?_
    exact hacross c hc c' (List.mem_cons_of_mem c₁ hc') token hissues hissues'
  refine (settlement_refused (verifiedIsRequired_run d _) hc₂ fun w hw htoken => ?_).1
  rw [hrun] at hw
  obtain ⟨f, hf, hwork⟩ := (hrun ▸ Ledger.linked_run d (before ++ c₁ :: between)
    Ledger.linked_empty : Ledger.Linked _).file?_of_work (Relational.Table.mem_of_find? hw)
  exact hfree _ f hf (by simp [JobFile.token, hwork, htoken])

theorem rests_run (d : Deployment) (calls calls' : List Call) (jobId : String) (f : JobFile)
    (hf : (run (Ledger.step d) Ledger.empty calls).file? jobId = some f) (hrest : AtRest f)
    (hcalls : ∀ c ∈ calls', ¬ c.Resumes jobId) :
    ∃ f', (run (Ledger.step d) Ledger.empty (calls ++ calls')).file? jobId = some f' ∧
      AtRest f' := by
  obtain ⟨f', hf', hrun⟩ := Ledger.run_file (d := d)
    (Ledger.linked_run d calls Ledger.linked_empty) calls' hf
  refine ⟨f', by rw [run_append]; exact hf', hrun.invariant (fun e g g' he hstep hg => ?_) hrest⟩
  refine hstep.atRest ?_ hg
  rintro rfl
  obtain ⟨c, hc, hallows⟩ := he
  refine hcalls c hc ?_
  cases c with
  | ledger c => cases c <;> simp [Call.Allows, LedgerCall.Allows] at hallows
  | custody scope c =>
      obtain ⟨hjob, heffect⟩ := hallows
      cases c <;> simp [CustodyCall.Allows] at heffect
      exact hjob.symm

/-- In every run whose claims issue distinct tokens, a work item has a lease token exactly while
it is leased, only the current token settles it, each token settles at most once, and completed
and failed items are leased again only after a custody resume. -/
theorem work_lease_exclusivity (d : Deployment) (calls : List Call)
    (hdistinct : DistinctTokens calls) : LeasesExclusive d calls where
  leased := tokenMeansLeased_run d calls
  fenced := fun _ _ _ hc hstale => settlement_refused (verifiedIsRequired_run d calls) hc hstale
  once := by
    rintro before c₁ between c₂ workItemId₁ workItemId₂ token rfl hc₁ hc₂ ⟨t, hok⟩
    exact settles_once d hdistinct hc₁ hc₂ hok
  rests := rests_run d calls

/-- The leased work item of a claim, whose token settles nothing once it has settled. -/
theorem work_lease_exclusivity_claimed :
    (∃ f, (run (Ledger.step sampleDeployment) Ledger.empty
      [sampleSubmit none, sampleClaim 'a' 0]).file? "rjob_1" = some f ∧ f.token = some "a") ∧
    LeasesExclusive sampleDeployment [sampleSubmit none, sampleClaim 'a' 0] := by
  have hleased := Ledger.exists_file (s := run (Ledger.step sampleDeployment) Ledger.empty
    [sampleSubmit none, sampleClaim 'a' 0]) (j := "rjob_1") (p := fun f => f.token = some "a")
    (by decide +kernel)
  refine ⟨by simpa using hleased, work_lease_exclusivity _ _ ⟨?_, ?_⟩⟩
  · intro c hc
    rcases List.mem_pair.mp hc with rfl | rfl
    · trivial
    · intro m n hmn
      have hlength := congrArg String.length hmn
      simpa using hlength
  · simp [sampleSubmit, Call.Issues]

end Run

end LotusReport.Jobs
