import LotusReport.Jobs.Refinement

/-!
# The retention quota

The offers that the ledger retains stay within the overall quota and within
the quota of each tenant. Only the commit of an offer adds bytes, and it
checks both sums in the transaction that writes the offer.
-/

namespace LotusReport.Jobs

open Encoding Fallible Relational StateMachine JobFile

section Step

variable {e : Effect} {f f' : JobFile}

theorem FileStep.offerBody_eq (h : FileStep e f f') (he : e ≠ .offered) :
    f'.job.custody.offerBody = f.job.custody.offerBody := by
  cases h with
  | offer => exact absurd rfl he
  | reserve => simp [withCustody]
  | _ => rfl

end Step

namespace Ledger

/-- The bytes that a job counts for in a sum over all tenants or over one. -/
def retainedBytesOf (requests : Table RequestRow.reportRequestId RequestRow.identity)
    (tenantId : Option String) (job : JobRow) : Nat :=
  match requests.find? job.reportRequestId with
  | none => 0
  | some request =>
      if tenantId.any (fun t => t ≠ request.tenantId) then 0
      else (job.custody.offerBody.map String.utf8ByteSize).getD 0

theorem retainedBytes_eq (s : Ledger) (tenantId : Option String) :
    s.retainedBytes tenantId = (s.jobs.rows.map (retainedBytesOf s.requests tenantId)).sum := rfl

section Store

variable {s t : Ledger} {jobId : String} {f f' : JobFile} {tenantId : Option String}

theorem retainedBytesOf_of_file (hf : s.file? jobId = some f) :
    retainedBytesOf s.requests tenantId f.job =
      if tenantId.any (fun t => t ≠ f.request.tenantId) then 0
      else (f.job.custody.offerBody.map String.utf8ByteSize).getD 0 := by
  unfold retainedBytesOf
  rw [(file?_eq_some_iff.mp hf).2.1]

/-- Writing a changed file back changes the sum by what that job counts for. -/
theorem retainedBytes_store (tenantId : Option String) (hf : s.file? jobId = some f) (hc : f.Continues f') :
    (s.store f').retainedBytes tenantId + retainedBytesOf s.requests tenantId f.job =
      s.retainedBytes tenantId + retainedBytesOf s.requests tenantId f'.job :=
  Table.sum_put (Table.mem_of_find? (file?_eq_some_iff.mp hf).1) hc.job hc.job _

theorem retainedBytes_store_of_body (hf : s.file? jobId = some f) (hc : f.Continues f')
    (hbody : f'.job.custody.offerBody = f.job.custody.offerBody) :
    (s.store f').retainedBytes tenantId = s.retainedBytes tenantId := by
  have hsum := retainedBytes_store tenantId hf hc
  have hsame : retainedBytesOf s.requests tenantId f'.job =
      retainedBytesOf s.requests tenantId f.job := by
    unfold retainedBytesOf
    rw [hc.requestId, hbody]
  omega

/-- Changes other than the commit of an offer keep every sum. -/
theorem Changes.retainedBytes_eq {allowed : String → Effect → Prop} (h : Changes allowed s t)
    (hallowed : ∀ j, ¬ allowed j .offered) : t.retainedBytes tenantId = s.retainedBytes tenantId := by
  induction h with
  | refl => rfl
  | tail _ hf he hstep _ ih =>
      rw [retainedBytes_store_of_body hf hstep.continues, ih]
      apply hstep.offerBody_eq
      rintro rfl
      exact hallowed _ he

theorem retainedBytes_accepts {d : Deployment} {c : CreateCall} {sub : Submission}
    {source : Option (JobRow × String)} (hs : s.Linked) (h : Accepts d s c sub source f t) :
    t.retainedBytes tenantId = s.retainedBytes tenantId := by
  have hrows := ((Table.insert?_eq_some_iff _ _ _).mp h.jobs).2.2
  have hnew : retainedBytesOf t.requests tenantId f.job = 0 := by
    unfold retainedBytesOf
    rw [h.opened.custody]
    split
    · rfl
    · split <;> rfl
  have hold : s.jobs.rows.map (retainedBytesOf t.requests tenantId) =
      s.jobs.rows.map (retainedBytesOf s.requests tenantId) := by
    apply List.map_congr_left
    intro job hjob
    obtain ⟨request, hrequest⟩ := hs.request job hjob
    have hne : f.request.reportRequestId ≠ job.reportRequestId := by
      intro heq
      have hfree := ((Table.insert?_eq_some_iff _ _ _).mp h.requests).1
      rw [heq, hrequest] at hfree
      cases hfree
    unfold retainedBytesOf
    rw [Table.find?_insert? h.requests, if_neg hne]
  rw [Ledger.retainedBytes_eq, hrows, List.map_append, List.sum_append, hold, List.map_singleton,
    hnew]
  rfl

/-- The sum with a new offer is the sum before it, with the offer counted for its own tenant. -/
theorem retainedBytes_offered (tenantId : Option String) {total tenantTotal : Nat}
    {tenant : String} (hf : s.file? jobId = some f) (hc : f.Continues f')
    (h : OfferedBy f tenant total tenantTotal f') :
    ∃ body : String, total + body.utf8ByteSize ≤ maxRetainedBytes ∧
      tenantTotal + body.utf8ByteSize ≤ maxTenantBytes ∧
      (s.store f').retainedBytes tenantId = s.retainedBytes tenantId +
        if tenantId.any (fun t => t ≠ tenant) then 0 else body.utf8ByteSize := by
  have hsum := retainedBytes_store tenantId hf hc
  have hold : retainedBytesOf s.requests tenantId f.job = 0 := by
    rw [retainedBytesOf_of_file hf, h.unretained]
    split <;> rfl
  obtain ⟨body, digest, renderId, e, -, htotal, htenant, -, -, rfl⟩ := h.offered
  have hnew : retainedBytesOf s.requests tenantId (offeredJob f.job body digest renderId) =
      if tenantId.any (fun t => t ≠ tenant) then 0 else body.utf8ByteSize := by
    unfold retainedBytesOf
    have hrequest : s.requests.find? (offeredJob f.job body digest renderId).reportRequestId =
        some f.request := (file?_eq_some_iff.mp hf).2.1
    rw [hrequest, ← h.tenant]
    rfl
  refine ⟨body, htotal, htenant, ?_⟩
  rw [hold] at hsum
  rw [← hnew]
  exact hsum

end Store

/-- The retained offers stay within the overall quota and within each tenant's. -/
def WithinQuota (s : Ledger) : Prop :=
  s.retainedBytes none ≤ maxRetainedBytes ∧ ∀ t, s.retainedBytes (some t) ≤ maxTenantBytes

theorem withinQuota_of_eq {s t : Ledger} (h : ∀ tenantId, t.retainedBytes tenantId =
    s.retainedBytes tenantId) (hs : WithinQuota s) : WithinQuota t := by
  constructor
  · rw [h]
    exact hs.1
  · intro tenant
    rw [h]
    exact hs.2 tenant

theorem Call.offered_of_allows {c : Call} {jobId : String} (h : c.Allows jobId .offered) :
    ∃ scope fence payload now, c = .custody scope (.commitOffer fence payload now) := by
  cases c with
  | ledger c => cases c <;> simp [Call.Allows, LedgerCall.Allows] at h
  | custody scope c =>
      cases c with
      | commitOffer fence payload now => exact ⟨scope, fence, payload, now, rfl⟩
      | _ => simp [Call.Allows, CustodyCall.Allows] at h

/-- The commit of an offer keeps the quotas, because it has checked both. -/
theorem WithinQuota.commitOffer {d : Deployment} {s t : Ledger} {scope : CustodyScope}
    {fence : CustodyLease} {payload : Fields} {now : Instant} (hs : WithinQuota s)
    (h : (CustodyCall.commitOffer fence payload now).perform d s scope = .ok t) :
    WithinQuota t := by
  obtain ⟨⟨⟩, -, hauthorized⟩ := bind_eq_ok.mp h
  obtain ⟨⟨a, t'⟩, hjob, hlast⟩ := bind_eq_ok.mp hauthorized
  cases hlast
  obtain ⟨f, f', hf, hop, rfl⟩ := onJob_eq_ok hjob
  obtain ⟨⟨digest, f₁⟩, hcommit, hlast⟩ := bind_eq_ok.mp (unvalued_eq_ok.mp hop)
  cases hlast
  obtain ⟨-, rfl | hoffered⟩ := commitOffer_eq_ok hcommit
  · rw [store_self hf]
    exact hs
  · have hc : f.Continues f₁ := by
      rcases (commitOffer_fileStep hcommit).2 with rfl | hstep
      · exact .refl _
      · exact hstep.continues
    constructor
    · obtain ⟨body, htotal, -, hsum⟩ := retainedBytes_offered none hf hc hoffered
      rw [hsum]
      exact htotal
    · intro tenant
      obtain ⟨body, -, htenant, hsum⟩ :=
        retainedBytes_offered (some tenant) hf hc hoffered
      rw [hsum]
      by_cases hown : tenant = scope.tenantId
      · subst hown
        simpa using htenant
      · simpa [hown] using hs.2 tenant

theorem WithinQuota.step {s : Ledger} (d : Deployment) (c : Call) (hs : s.Linked)
    (h : WithinQuota s) : WithinQuota (s.step d c) := by
  cases hperform : c.perform d s with
  | error e => rwa [Ledger.step_of_error hperform]
  | ok t =>
      rw [Ledger.step_of_ok hperform]
      cases Call.perform_performed hs hperform with
      | accepted haccepts =>
          exact withinQuota_of_eq (fun _ => retainedBytes_accepts hs haccepts) h
      | related => exact h
      | changed hchanges =>
          by_cases hoffer : ∃ j, c.Allows j .offered
          · obtain ⟨j, hj⟩ := hoffer
            obtain ⟨scope, fence, payload, now, rfl⟩ := Call.offered_of_allows hj
            exact h.commitOffer hperform
          · exact withinQuota_of_eq
              (fun _ => hchanges.retainedBytes_eq fun j hj => hoffer ⟨j, hj⟩) h

theorem withinQuota_run (d : Deployment) (calls : List Call) :
    WithinQuota (run (Ledger.step d) Ledger.empty calls) := by
  have hinv := run_induction (I := fun s => s.Linked ∧ WithinQuota s)
    (fun s c h => ⟨Ledger.linked_step d s c h.1, h.2.step d c h.1⟩)
    (s := Ledger.empty) ⟨Ledger.linked_empty, by decide, fun _ => Nat.zero_le _⟩ calls
  exact hinv.2

end Ledger

end LotusReport.Jobs
