import LotusReport.Jobs.ClientIdentity
import LotusReport.Jobs.Refinement

/-!
# Idempotent acceptance

Every stored request is the copy of one accepted call and has one job. A later
call of the same tenant under the same key finds that copy: it returns the job
if it asks for the same, and conflicts if it does not. A call finds nothing of
another tenant.
-/

namespace LotusReport.Jobs

open Encoding Fallible StateMachine Relational

section Origin

variable {d : Deployment} {s t : Ledger} {c : CreateCall} {sub : Submission} {r : RequestRow}
  {calls : List Call}

/-- The request row is the stored copy of the call, and the job of the call is its job. -/
structure AcceptedAs (d : Deployment) (s : Ledger) (c : CreateCall) (sub : Submission)
    (r : RequestRow) : Prop where
  submitted : submission d c = .ok sub
  row : ∃ options, bindAdmission sub.parts.options c.twrAdmission c.requestId c.jobId
    c.callerContext.correlationId c.callerContext.traceId = .ok options ∧ r = c.requestRow sub options
  job : ∃ f, s.file? c.jobId = some f ∧ f.request = r

/-- The invariant of acceptance. -/
structure Acceptance (d : Deployment) (calls : List Call) (s : Ledger) : Prop where
  linked : s.Linked
  /-- Every request was accepted from a call of the run. -/
  origin : ∀ r ∈ s.requests.rows, ∃ c sub, Call.ledger (.create c) ∈ calls ∧ AcceptedAs d s c sub r
  /-- No two jobs share a request. -/
  single : ∀ j k f g, s.file? j = some f → s.file? k = some g →
    f.request.reportRequestId = g.request.reportRequestId → j = k

theorem acceptance_empty (d : Deployment) (calls : List Call) :
    Acceptance d calls Ledger.empty := by
  refine ⟨Ledger.linked_empty, ?_, ?_⟩
  · intro r hr
    cases hr
  · intro j k f g hf
    cases hf

theorem Acceptance.mono {calls' : List Call} (h : Acceptance d calls s)
    (hsub : ∀ c ∈ calls, c ∈ calls') : Acceptance d calls' s := by
  refine ⟨h.linked, fun r hr => ?_, h.single⟩
  obtain ⟨c, sub, hcall, haccepted⟩ := h.origin r hr
  exact ⟨c, sub, hsub _ hcall, haccepted⟩

/-- A tenant has one job under a key. -/
theorem Acceptance.oneJob (h : Acceptance d calls s) {j k : String} {f g : JobFile}
    (hf : s.file? j = some f) (hg : s.file? k = some g)
    (hsame : f.request.identity = g.request.identity) : j = k := by
  have hfr := Table.mem_of_find? (Ledger.file?_eq_some_iff.mp hf).2.1
  have hgr := Table.mem_of_find? (Ledger.file?_eq_some_iff.mp hg).2.1
  have heq : f.request = g.request :=
    List.inj_on_of_nodup_map s.requests.index_nodup hfr hgr hsame
  exact h.single j k f g hf hg (heq ▸ rfl)

theorem FileRun.request_eq {allowed : Effect → Prop} {f f' : JobFile} (h : FileRun allowed f f') :
    f'.request = f.request :=
  h.invariant (I := fun g => g.request = f.request)
    (fun _ _ _ _ hstep hg => hstep.continues.request.trans hg) rfl

/-- The requests of all files are kept by changes. -/
theorem Acceptance.changes (h : Acceptance d calls s) {allowed : String → Effect → Prop}
    (hchanges : s.Changes allowed t) : Acceptance d calls t := by
  have hold : ∀ {j f'}, t.file? j = some f' → ∃ f, s.file? j = some f ∧ f'.request = f.request := by
    intro j f' hf'
    rcases hchanges.file j with ⟨-, hnone⟩ | ⟨f, f₁, hf, hf₁, hrun⟩
    · rw [hf'] at hnone
      cases hnone
    · rw [hf'] at hf₁
      cases hf₁
      exact ⟨f, hf, hrun.request_eq⟩
  refine ⟨hchanges.linked h.linked, fun r hr => ?_, fun j k f' g' hf' hg' hsame => ?_⟩
  · rw [hchanges.requests] at hr
    obtain ⟨c, sub, hcall, haccepted⟩ := h.origin r hr
    obtain ⟨f, hf, hrequest⟩ := haccepted.job
    obtain ⟨f', hf', hrun⟩ := hchanges.file_run hf
    exact ⟨c, sub, hcall, haccepted.submitted, haccepted.row, f', hf',
      hrun.request_eq.trans hrequest⟩
  · obtain ⟨f, hf, hfrequest⟩ := hold hf'
    obtain ⟨g, hg, hgrequest⟩ := hold hg'
    rw [hfrequest, hgrequest] at hsame
    exact h.single j k f g hf hg hsame

theorem Acceptance.accepts (h : Acceptance d calls s) {source : Option (JobRow × String)}
    {f : JobFile} (hcall : Call.ledger (.create c) ∈ calls)
    (haccepts : Accepts d s c sub source f t) : Acceptance d calls t := by
  have hfree := ((Table.insert?_eq_some_iff _ _ _).mp haccepts.requests).1
  -- the request of the new job is new
  have hnew : ∀ {k g}, s.file? k = some g → g.request.reportRequestId ≠ f.request.reportRequestId := by
    intro k g hg hsame
    have hrequest := (Ledger.file?_eq_some_iff.mp hg).2.1
    have hid := Table.key_of_find? hrequest
    rw [← hid, hsame, hfree] at hrequest
    cases hrequest
  refine ⟨haccepts.linked, fun r hr => ?_, fun j k f₁ f₂ hj hk hsame => ?_⟩
  · rw [((Table.insert?_eq_some_iff _ _ _).mp haccepts.requests).2.2, List.mem_append,
      List.mem_singleton] at hr
    rcases hr with hold | rfl
    · obtain ⟨c₁, sub₁, hcall₁, haccepted⟩ := h.origin r hold
      obtain ⟨g, hg, hrequest⟩ := haccepted.job
      refine ⟨c₁, sub₁, hcall₁, haccepted.submitted, haccepted.row, g, ?_, hrequest⟩
      rw [haccepts.files, if_neg, hg]
      rintro heq
      have hknown := (Ledger.file?_eq_some_iff.mp hg).1
      rw [← heq, haccepts.fresh] at hknown
      cases hknown
    · exact ⟨c, sub, hcall, haccepts.submitted, haccepts.request, f,
        by rw [haccepts.files, if_pos rfl], rfl⟩
  · rw [haccepts.files] at hj hk
    split at hj
    · rename_i hcj
      split at hk
      · rename_i hck
        exact hcj.symm.trans hck
      · cases hj
        exact absurd hsame.symm (hnew hk)
    · split at hk
      · cases hk
        exact absurd hsame (hnew hj)
      · exact h.single j k f₁ f₂ hj hk hsame

theorem Acceptance.step (h : Acceptance d calls s) {c : Call} (hc : c ∈ calls) :
    Acceptance d calls (s.step d c) := by
  rcases Ledger.step_cases d s c h.linked with hsame | hperformed
  · rwa [hsame]
  · generalize s.step d c = t at hperformed
    cases hperformed with
    | changed hchanges => exact h.changes hchanges
    | accepted haccepts => exact h.accepts hc haccepts
    | related hlinked =>
        refine ⟨hlinked, fun r hr => ?_, h.single⟩
        obtain ⟨c₁, sub₁, hcall₁, haccepted⟩ := h.origin r hr
        exact ⟨c₁, sub₁, hcall₁, haccepted.submitted, haccepted.row, haccepted.job⟩

theorem acceptance_run (d : Deployment) (calls : List Call) :
    Acceptance d calls (run (Ledger.step d) Ledger.empty calls) :=
  run_invariant (P := fun _ c => c ∈ calls) (fun _ _ hs hc => hs.step hc)
    (acceptance_empty d calls) (along_of_forall fun _ hc _ => hc)

end Origin

section Retry

variable {d : Deployment} {s t : Ledger} {c c₁ c₂ : CreateCall} {sub sub₁ sub₂ : Submission}
  {r : RequestRow} {calls : List Call}

/-- The calls come from one tenant, under one key. -/
def SameKey (c₁ c₂ : CreateCall) : Prop :=
  c₁.callerContext.tenantId = c₂.callerContext.tenantId ∧ c₁.normalizedKey = c₂.normalizedKey

/-- The digest is injective on the canonical texts of client identities. -/
def DigestInjective (d : Deployment) : Prop :=
  ∀ q q' : ClientRequest, d.sha256 (q.identityText d.toRuntime) =
    d.sha256 (q'.identityText d.toRuntime) → q.identityText d.toRuntime = q'.identityText d.toRuntime

/-- The job of a stored request is found through the request. -/
theorem Acceptance.loadByRequestId (h : Acceptance d calls s) (haccepted : AcceptedAs d s c sub r) :
    ∃ f, s.loadByRequestId r.reportRequestId = some f ∧ s.file? c.jobId = some f ∧ f.request = r := by
  obtain ⟨f, hf, hrequest⟩ := haccepted.job
  obtain ⟨hjob, hfound, -⟩ := Ledger.file?_eq_some_iff.mp hf
  have hid : f.job.reportRequestId = r.reportRequestId := hrequest ▸ (Table.key_of_find? hfound).symm
  refine ⟨f, ?_, hf, hrequest⟩
  unfold Ledger.loadByRequestId
  cases hfind : s.jobs.rows.find? fun job => job.reportRequestId == r.reportRequestId with
  | none =>
      have hnone := List.find?_eq_none.mp hfind f.job (Table.mem_of_find? hjob)
      simp [hid] at hnone
  | some job =>
      have hmem := List.mem_of_find?_eq_some hfind
      have hsame : job.reportRequestId = r.reportRequestId := by simpa using List.find?_some hfind
      obtain ⟨g, hg, hgjob⟩ := h.linked.file?_of_find? (Table.find?_key hmem)
      have hgrequest := Table.key_of_find? (Ledger.file?_eq_some_iff.mp hg).2.1
      rw [hgjob, hsame] at hgrequest
      have heq := h.single _ _ g f hg hf (hgrequest.trans (hrequest ▸ rfl))
      simp only [heq, hf]

theorem ensureWorkItem_tables {jobId : String} {record : JobFile} (c : CreateCall)
    (hf : s.file? jobId = some record) :
    (s.ensureWorkItem c record).requests = s.requests ∧
      (s.ensureWorkItem c record).jobs = s.jobs ∧ (s.ensureWorkItem c record).events = s.events := by
  rcases Ledger.ensureWorkItem_eq c hf with hsame | ⟨f', hstep, -, hstore⟩
  · rw [hsame]
    exact ⟨rfl, rfl, rfl⟩
  · obtain ⟨hjob, -, -, hevents⟩ := Ledger.file?_eq_some_iff.mp hf
    have hid := Ledger.jobId_of_file? hf
    rw [hstore]
    cases hstep with
    | enqueue =>
        refine ⟨rfl, Table.put_self (Table.mem_of_find? hjob), ?_⟩
        simp [Ledger.store, JobFile.setWork, hid, hevents]

theorem AcceptedAs.lookup? (haccepted : AcceptedAs d s c₁ sub₁ r) (hr : r ∈ s.requests.rows)
    (hsub : submission d c₂ = .ok sub₂) (hkey : SameKey c₁ c₂) :
    s.requests.lookup? (c₂.callerContext.tenantId, sub₂.key) = some r := by
  have hsubmitted := submission_eq_ok haccepted.submitted
  have hkeys : sub₁.key = sub₂.key := by
    have hfirst := hsubmitted.key
    rw [hkey.2, (submission_eq_ok hsub).key] at hfirst
    exact (Option.some.inj hfirst).symm
  have hidentity : r.identity = (c₂.callerContext.tenantId, sub₂.key) := by
    obtain ⟨options, -, rfl⟩ := haccepted.row
    simp [RequestRow.identity, CreateCall.requestRow, hkey.1, hkeys]
  rw [← hidentity]
  exact Table.lookup?_index hr

theorem createReportJob_of_lookup (hsub : submission d c = .ok sub)
    (hlookup : s.requests.lookup? (c.callerContext.tenantId, sub.key) = some r) :
    s.createReportJob d c = s.acceptExisting d c sub r := by
  unfold Ledger.createReportJob
  rw [hsub]
  simp only [bind, Except.bind, hlookup]

theorem requireSameAdmission_ne_conflict {co : Coercions} {request : RequestRow} {job : JobRow}
    {admission : Option AcceptedTwrAdmission} :
    requireSameAdmission co request job admission ≠ .error .idempotencyConflict := by
  unfold requireSameAdmission bindingForJob
  split
  · simp
  · cases storedBinding co request job with
    | error code => simp [Except.mapError, bind, Except.bind]
    | ok binding =>
        simp only [Except.mapError, bind, Except.bind]
        split
        · split <;> simp
        · simp

/-- A later call conflicts exactly when it asks for neither the accepted call nor its copy. -/
theorem Acceptance.conflict_iff (h : Acceptance d calls s) (hsha : DigestInjective d)
    (hr : r ∈ s.requests.rows) (haccepted : AcceptedAs d s c₁ sub₁ r)
    (hsub : submission d c₂ = .ok sub₂) (hkey : SameKey c₁ c₂) :
    s.createReportJob d c₂ = .error .idempotencyConflict ↔
      (c₂.client sub₂).identityText d.toRuntime ≠ (c₁.client sub₁).identityText d.toRuntime ∧
      (c₂.client sub₂).identityText d.toRuntime ≠ r.client.identityText d.toRuntime := by
  obtain ⟨f, hload, -, hrequest⟩ := h.loadByRequestId haccepted
  have hhash := (submission_eq_ok hsub).hash
  have hstored : r.requestHash = d.sha256 ((c₁.client sub₁).identityText d.toRuntime) := by
    obtain ⟨options, -, rfl⟩ := haccepted.row
    exact (submission_eq_ok haccepted.submitted).hash
  have hrecord : clientIdentityHashFromRecord d.toRuntime f.request =
      d.sha256 (r.client.identityText d.toRuntime) := by
    rw [hrequest]
    rfl
  rw [createReportJob_of_lookup hsub (haccepted.lookup? hr hsub hkey)]
  unfold Ledger.acceptExisting
  rw [hload]
  simp only [hhash, hstored, hrecord]
  split
  · rename_i hdiffer
    simp only [true_iff]
    exact ⟨fun hsame => hdiffer.1 (by rw [hsame]), fun hsame => hdiffer.2 (by rw [hsame])⟩
  · rename_i hsame
    constructor
    · intro herror
      cases hadmission : requireSameAdmission d.coercions f.request f.job c₂.twrAdmission with
      | ok =>
          rw [hadmission] at herror
          cases herror
      | error error =>
          rw [hadmission] at herror
          cases herror
          exact absurd hadmission requireSameAdmission_ne_conflict
    · rintro ⟨hfirst, hsecond⟩
      exact absurd ⟨fun heq => hfirst (hsha _ _ heq.symm), fun heq => hsecond (hsha _ _ heq)⟩ hsame

theorem Acceptance.converges (h : Acceptance d calls s) (hco : d.coercions.Rereads)
    (hr : r ∈ s.requests.rows)
    (haccepted : AcceptedAs d s c₁ sub₁ r) (hsub : submission d c₂ = .ok sub₂)
    (hkey : SameKey c₁ c₂) (hvalid : ∀ a ∈ c₁.twrAdmission, a.Validated d.coercions)
    (hplain : c₁.twrAdmission.isSome = true → c₁.PlainIds)
    (hintent : SameIntent (c₁.client sub₁) (c₂.client sub₂))
    (hadmission : c₁.twrAdmission.map AcceptedTwrAdmission.securityIdentity =
      c₂.twrAdmission.map AcceptedTwrAdmission.securityIdentity) :
    ∃ record t, s.createReportJob d c₂ = .ok (record, t) ∧
      s.file? c₁.jobId = some record ∧ t.requests = s.requests ∧ t.jobs = s.jobs ∧
      t.events = s.events := by
  obtain ⟨f, hload, hf, hrequest⟩ := h.loadByRequestId haccepted
  obtain ⟨options, hbind, hrow⟩ := haccepted.row
  have hhash : r.requestHash = sub₂.requestHash := by
    rw [(submission_eq_ok hsub).hash, ← hintent.identityText, hrow]
    exact (submission_eq_ok haccepted.submitted).hash
  have hsame : requireSameAdmission d.coercions f.request f.job c₂.twrAdmission = .ok () := by
    rw [hrequest, hrow]
    exact requireSameAdmission_requestRow hco (submission_eq_ok haccepted.submitted) hbind
      (Ledger.jobId_of_file? hf) hvalid hplain hadmission
  refine ⟨f, s.ensureWorkItem c₂ f, ?_, hf, ensureWorkItem_tables c₂ hf⟩
  rw [createReportJob_of_lookup hsub (haccepted.lookup? hr hsub hkey)]
  unfold Ledger.acceptExisting
  rw [hload]
  simp only [hhash, hsame, ne_eq, not_true_eq_false, false_and, if_false]
  rfl

theorem acceptNew_conflict (h : s.acceptNew c sub = .error .idempotencyConflict) :
    c.acceptancePolicy = .error .idempotencyConflict := by
  rcases bind_eq_error.mp h with hsource | ⟨source, -, hguarded⟩
  · unfold Ledger.replaySource Ledger.replayGuard at hsource
    split at hsource
    · cases hsource
    · rcases bind_eq_error.mp hsource with hguard | ⟨row, -, hlast⟩
      · split at hguard
        · cases hguard
        · split at hguard
          · cases hguard
          · split at hguard <;> cases hguard
      · cases hlast
  · rcases bind_eq_error.mp hguarded with hbind | ⟨options, -, hbound⟩
    · unfold bindAdmission at hbind
      split at hbind
      · cases hbind
      · split at hbind
        · cases hbind
        · split at hbind <;> cases hbind
    · split at hbound
      · cases hbound
      · rcases bind_eq_error.mp hbound with hpolicy | ⟨policy, -, hinsert⟩
        · exact hpolicy
        · split at hinsert
          · cases hinsert
          · rcases bind_eq_error.mp hinsert with happend | ⟨record, -, hlast⟩
            · unfold JobFile.appendStatusEvent at happend
              split at happend <;> cases happend
            · cases hlast

theorem acceptNew_record {record : JobFile} (h : s.acceptNew c sub = .ok (record, t)) :
    record.job.reportJobId = c.jobId ∧
      record.request.identity = (c.callerContext.tenantId, sub.key) ∧
      s.jobs.find? c.jobId = none := by
  obtain ⟨source, -, hguarded⟩ := bind_eq_ok.mp h
  obtain ⟨options, -, hbound⟩ := bind_eq_ok.mp hguarded
  split at hbound
  · cases hbound
  · obtain ⟨policy, -, hpolicy⟩ := bind_eq_ok.mp hbound
    split at hpolicy
    · cases hpolicy
    · rename_i jobs hjobs
      obtain ⟨record₀, happend, hlast⟩ := bind_eq_ok.mp hpolicy
      obtain ⟨e, heq, -⟩ := JobFile.appendStatusEvent_eq_ok happend
      subst heq
      cases hlast
      exact ⟨rfl, rfl, ((Table.insert?_eq_some_iff _ _ _).mp hjobs).1⟩

theorem createReportJob_of_novel (hsub : submission d c = .ok sub)
    (hnone : s.requests.lookup? (c.callerContext.tenantId, sub.key) = none) :
    s.createReportJob d c = s.acceptNew c sub := by
  unfold Ledger.createReportJob
  rw [hsub]
  simp only [bind, Except.bind, hnone]

/-- A call returns a job under its own tenant and key. -/
theorem createReportJob_identity {record : JobFile} (hsub : submission d c = .ok sub)
    (h : s.createReportJob d c = .ok (record, t)) :
    record.request.identity = (c.callerContext.tenantId, sub.key) := by
  cases hlookup : s.requests.lookup? (c.callerContext.tenantId, sub.key) with
  | none =>
      rw [createReportJob_of_novel hsub hlookup] at h
      exact (acceptNew_record h).2.1
  | some r =>
      rw [createReportJob_of_lookup hsub hlookup] at h
      obtain ⟨hfile, hid⟩ := Ledger.loadByRequestId_eq_some (Ledger.acceptExisting_eq_ok h).1
      have hrequest := (Ledger.file?_eq_some_iff.mp hfile).2.1
      rw [hid, Table.find?_key (Table.mem_of_lookup? hlookup)] at hrequest
      cases hrequest
      exact Table.index_of_lookup? hlookup

/-- The job that a call returns is stored, under the tenant and the key of the call. -/
theorem createReportJob_file {record : JobFile} (hs : s.Linked)
    (h : s.createReportJob d c = .ok (record, t)) :
    ∃ sub f, submission d c = .ok sub ∧ t.file? record.job.reportJobId = some f ∧
      f.request.identity = (c.callerContext.tenantId, sub.key) := by
  obtain ⟨sub, hsub, -⟩ := bind_eq_ok.mp h
  have hidentity := createReportJob_identity hsub h
  cases hlookup : s.requests.lookup? (c.callerContext.tenantId, sub.key) with
  | none =>
      rw [createReportJob_of_novel hsub hlookup] at h
      obtain ⟨source, f, haccepts⟩ := Ledger.acceptNew_eq_ok hs hsub hlookup h
      obtain ⟨options, -, hrequest⟩ := haccepts.request
      refine ⟨sub, f, hsub, ?_, by rw [hrequest]; rfl⟩
      rw [(acceptNew_record h).1, haccepts.files, if_pos rfl]
  | some r =>
      rw [createReportJob_of_lookup hsub hlookup] at h
      obtain ⟨hload, -, -, rfl⟩ := Ledger.acceptExisting_eq_ok h
      have hfile := (Ledger.loadByRequestId_eq_some hload).1
      obtain ⟨f, hf, hrun⟩ := (Ledger.ensureWorkItem_changes c hfile).file_run hfile
      exact ⟨sub, f, hsub, hf, by rw [hrun.request_eq, hidentity]⟩

end Retry

section Run

/-- The properties of acceptance in a state of a run. -/
structure Idempotent (d : Deployment) (calls : List Call) (s : Ledger) : Prop where
  /-- A tenant has one request under a key. -/
  oneRequest : ∀ r ∈ s.requests.rows, ∀ r' ∈ s.requests.rows, r.tenantId = r'.tenantId →
    r.idempotencyKey = r'.idempotencyKey → r = r'
  /-- A tenant has one job under a key. -/
  oneJob : ∀ j k f g, s.file? j = some f → s.file? k = some g →
    f.request.tenantId = g.request.tenantId →
    f.request.idempotencyKey = g.request.idempotencyKey → j = k
  /-- Every request is the copy of a call of the run. -/
  origin : ∀ r ∈ s.requests.rows, ∃ c sub, Call.ledger (.create c) ∈ calls ∧ AcceptedAs d s c sub r
  /-- A later call with the same intent returns the job and changes no request, job or event. An
  admission under which the job was accepted must have been bound to its ids as they are. -/
  converges : ∀ r ∈ s.requests.rows, ∀ c₁ sub₁ c₂ sub₂, AcceptedAs d s c₁ sub₁ r →
    submission d c₂ = .ok sub₂ → SameKey c₁ c₂ →
    (∀ a ∈ c₁.twrAdmission, a.Validated d.coercions) →
    (c₁.twrAdmission.isSome = true → c₁.PlainIds) →
    SameIntent (c₁.client sub₁) (c₂.client sub₂) →
    c₁.twrAdmission.map AcceptedTwrAdmission.securityIdentity =
      c₂.twrAdmission.map AcceptedTwrAdmission.securityIdentity →
    ∃ record t, s.createReportJob d c₂ = .ok (record, t) ∧ s.file? c₁.jobId = some record ∧
      t.requests = s.requests ∧ t.jobs = s.jobs ∧ t.events = s.events
  /-- A later call conflicts exactly when its identity is neither that of the accepted call nor
  that of the stored copy. -/
  conflicts : ∀ r ∈ s.requests.rows, ∀ c₁ sub₁ c₂ sub₂, AcceptedAs d s c₁ sub₁ r →
    submission d c₂ = .ok sub₂ → SameKey c₁ c₂ →
    (s.createReportJob d c₂ = .error .idempotencyConflict ↔
      (c₂.client sub₂).identityText d.toRuntime ≠ (c₁.client sub₁).identityText d.toRuntime ∧
      (c₂.client sub₂).identityText d.toRuntime ≠ r.client.identityText d.toRuntime)
  /-- The stored copy has the identity of the call, if the declared sets are sets of texts. -/
  copies : ∀ r c₁ sub₁, AcceptedAs d s c₁ sub₁ r → (c₁.client sub₁).TextSets →
    r.client.identityText d.toRuntime = (c₁.client sub₁).identityText d.toRuntime
  /-- A call that raises leaves the ledger as it was. -/
  unchanged : ∀ c error, s.createReportJob d c = .error error →
    s.step d (.ledger (.create c)) = s
  /-- A call without a request of its own tenant neither conflicts nor returns a stored job. -/
  foreign : ∀ c sub, submission d c = .ok sub →
    s.requests.lookup? (c.callerContext.tenantId, sub.key) = none →
    (s.createReportJob d c = .error .idempotencyConflict →
      c.acceptancePolicy = .error .idempotencyConflict) ∧
    ∀ record t, s.createReportJob d c = .ok (record, t) →
      record.job.reportJobId = c.jobId ∧ s.jobs.find? c.jobId = none
  /-- A call returns jobs of its own tenant only. -/
  owned : ∀ c record t, s.createReportJob d c = .ok (record, t) →
    record.request.tenantId = c.callerContext.tenantId

/-- In every run, a tenant has at most one request and one job under a key; a later call with the
same intent returns that job, and one with another identity conflicts and changes nothing; and a
call neither conflicts with nor returns a job of another tenant. -/
theorem idempotent_acceptance (d : Deployment) (hsha : DigestInjective d)
    (hco : d.coercions.Rereads) (calls : List Call) :
    Idempotent d calls (run (Ledger.step d) Ledger.empty calls) := by
  have h := acceptance_run d calls
  have hone : ∀ r ∈ (run (Ledger.step d) Ledger.empty calls).requests.rows,
      ∀ r' ∈ (run (Ledger.step d) Ledger.empty calls).requests.rows, r.tenantId = r'.tenantId →
      r.idempotencyKey = r'.idempotencyKey → r = r' := by
    intro r hr r' hr' htenant hkey
    exact List.inj_on_of_nodup_map (Table.index_nodup _) hr hr' (Prod.ext htenant hkey)
  refine ⟨hone, fun j k f g hf hg htenant hkey => ?_, h.origin,
    fun r hr c₁ sub₁ c₂ sub₂ => h.converges hco hr, fun r hr c₁ sub₁ c₂ sub₂ => h.conflict_iff hsha hr,
    fun r c₁ sub₁ haccepted htext => ?_, fun c error herror => ?_, fun c sub hsub hnone => ?_,
    fun c record t hcreated => ?_⟩
  · exact h.oneJob hf hg (Prod.ext htenant hkey)
  · obtain ⟨options, hbind, rfl⟩ := haccepted.row
    exact identityText_requestRow d.toRuntime hbind htext
  · exact Ledger.step_of_error (bind_eq_error.mpr (Or.inl herror))
  · rw [createReportJob_of_novel hsub hnone]
    refine ⟨acceptNew_conflict, fun record t haccept => ?_⟩
    exact ⟨(acceptNew_record haccept).1, (acceptNew_record haccept).2.2⟩
  · obtain ⟨sub, hsub, -⟩ := bind_eq_ok.mp hcreated
    exact congrArg Prod.fst (createReportJob_identity hsub hcreated)

section Sample

/-- A deployment for closed examples whose digest is the text itself. -/
def verbatimDeployment : Deployment := { sampleDeployment with sha256 := id }

/-- A submission of a job with the given sections. -/
def sectionsCall (n : String) (sections : List Json) : CreateCall :=
  submitPortfolioReviewJob sampleCaller (some "key-1")
    ⟨"rrq_" ++ n, "rjob_" ++ n, "rwork_" ++ n, .ok none, 0⟩
    { sampleRequest with options := [("sections", .arr sections)] }

/-- An accepted submission. -/
def acceptedRun : List Call :=
  [.ledger (.create (sectionsCall "1" [.str "OVERVIEW", .str "PERFORMANCE"]))]

end Sample

theorem idempotent_acceptance_accepted :
    ((run (Ledger.step verbatimDeployment) Ledger.empty acceptedRun).file? "rjob_1").isSome = true ∧
    Idempotent verbatimDeployment acceptedRun
      (run (Ledger.step verbatimDeployment) Ledger.empty acceptedRun) :=
  ⟨by decide +kernel, idempotent_acceptance verbatimDeployment (fun _ _ heq => heq)
    Coercions.rereads_standard acceptedRun⟩

/-- Requests with different intents conflict. -/
def DifferentIntentsConflict (d : Deployment) (s : Ledger) : Prop :=
  ∀ r ∈ s.requests.rows, ∀ c₁ sub₁ c₂ sub₂, AcceptedAs d s c₁ sub₁ r →
    submission d c₂ = .ok sub₂ → SameKey c₁ c₂ → ¬ SameIntent (c₁.client sub₁) (c₂.client sub₂) →
    s.createReportJob d c₂ = .error .idempotencyConflict

/-- The number and the text of one section are different intents with one identity. -/
theorem different_intents_accepted : ¬ DifferentIntentsConflict verbatimDeployment
    (run (Ledger.step verbatimDeployment) Ledger.empty
      [.ledger (.create (sectionsCall "1" [.int 1]))]) := by
  intro h
  have hrows : (run (Ledger.step verbatimDeployment) Ledger.empty
      [.ledger (.create (sectionsCall "1" [.int 1]))]).requests.rows ≠ [] := by
    decide +kernel
  obtain ⟨r, hr⟩ := List.exists_mem_of_ne_nil _ hrows
  obtain ⟨c, sub, hcall, haccepted⟩ := (acceptance_run verbatimDeployment
    [.ledger (.create (sectionsCall "1" [.int 1]))]).origin r hr
  rw [List.mem_singleton, Call.ledger.injEq, LedgerCall.create.injEq] at hcall
  subst hcall
  have hretried : ((run (Ledger.step verbatimDeployment) Ledger.empty
      [.ledger (.create (sectionsCall "1" [.int 1]))]).createReportJob verbatimDeployment
        (sectionsCall "2" [.str "1"])).isOk = true := by
    decide +kernel
  have hsubmits : (submission verbatimDeployment (sectionsCall "2" [.str "1"])).isOk = true := by
    decide +kernel
  cases hsub : submission verbatimDeployment (sectionsCall "2" [.str "1"]) with
  | error error =>
      rw [hsub] at hsubmits
      cases hsubmits
  | ok sub₂ =>
      have hconflict := h r hr _ sub _ sub₂ haccepted hsub ⟨rfl, rfl⟩ ?_
      · rw [hconflict] at hretried
        cases hretried
      · intro hintent
        have hfirst := Except.ok.inj (submission_eq_ok haccepted.submitted).parts
        have hsecond := Except.ok.inj (submission_eq_ok hsub).parts
        have hsame := hintent.options.same "sections"
        simp only [CreateCall.client, ← hfirst, ← hsecond] at hsame
        cases hsame with
        | some hitems => simpa using (hitems (.int 1)).mp (by simp)

end Run

end LotusReport.Jobs
