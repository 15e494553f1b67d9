import LotusReport.Jobs.Calls
import LotusReport.StateMachine.Run

/-!
# Calls as changes of job files

Every successful call is a sequence of file changes, or the acceptance of one
new job, or the write of one relationship. The changes carry the effects that
the call allows, so an invariant of files that every effect keeps is an
invariant of every run.
-/

namespace LotusReport.Jobs

open Encoding Fallible Relational

/-- A change of a file by one of the given effects. -/
def FileChange (allowed : Effect → Prop) (f f' : JobFile) : Prop :=
  ∃ e, allowed e ∧ FileStep e f f'

/-- A file after any number of such changes. -/
abbrev FileRun (allowed : Effect → Prop) : JobFile → JobFile → Prop :=
  Relation.ReflTransGen (FileChange allowed)

theorem FileRun.mono {P Q : Effect → Prop} (h : ∀ e, P e → Q e) {f f' : JobFile}
    (hrun : FileRun P f f') : FileRun Q f f' := by
  induction hrun with
  | refl => exact .refl
  | tail _ hchange ih =>
      obtain ⟨e, he, hstep⟩ := hchange
      exact ih.tail ⟨e, h e he, hstep⟩

namespace Ledger

/-- The ledger after changes of files with the allowed effects. -/
inductive Changes (allowed : String → Effect → Prop) (s : Ledger) : Ledger → Prop where
  | refl : Changes allowed s s
  | tail {t : Ledger} {jobId : String} {f f' : JobFile} {e : Effect} (h : Changes allowed s t)
      (hf : t.file? jobId = some f) (he : allowed jobId e) (hstep : FileStep e f f')
      (hfresh : FreshWork t f f') : Changes allowed s (t.store f')

section Changes

variable {allowed : String → Effect → Prop} {s t u : Ledger} {jobId : String} {f f' : JobFile}

theorem Changes.trans (h : Changes allowed s t) (h' : Changes allowed t u) :
    Changes allowed s u := by
  induction h' with
  | refl => exact h
  | tail _ hf he hstep hfresh ih => exact ih.tail hf he hstep hfresh

theorem Changes.linked (h : Changes allowed s t) (hs : Linked s) : Linked t := by
  induction h with
  | refl => exact hs
  | tail _ hf _ hstep _ ih => exact linked_store ih hf hstep.continues

theorem Changes.requests (h : Changes allowed s t) : t.requests = s.requests := by
  induction h with
  | refl => rfl
  | tail _ _ _ _ _ ih => exact ih

theorem Changes.relationships (h : Changes allowed s t) : t.relationships = s.relationships := by
  induction h with
  | refl => rfl
  | tail _ _ _ _ _ ih => exact ih

/-- Changes neither add nor remove a job, and each file runs through its own changes. -/
theorem Changes.file (h : Changes allowed s t) (jobId : String) :
    s.file? jobId = none ∧ t.file? jobId = none ∨
      ∃ f f', s.file? jobId = some f ∧ t.file? jobId = some f' ∧ FileRun (allowed jobId) f f' := by
  induction h with
  | refl =>
      cases hf : s.file? jobId with
      | none => exact Or.inl ⟨rfl, rfl⟩
      | some f => exact Or.inr ⟨f, f, rfl, rfl, .refl⟩
  | @tail t j g g' e _ hg he hstep hfresh ih =>
      rw [file?_store hg hstep.continues hfresh]
      split
      · rename_i hj
        subst hj
        rcases ih with ⟨-, hnone⟩ | ⟨f, g₁, hf, hg₁, hrun⟩
        · rw [hg] at hnone
          cases hnone
        · rw [hg] at hg₁
          cases hg₁
          exact Or.inr ⟨f, g', hf, rfl, hrun.tail ⟨e, he, hstep⟩⟩
      · exact ih

theorem Changes.file_run (h : Changes allowed s t) (hf : s.file? jobId = some f) :
    ∃ f', t.file? jobId = some f' ∧ FileRun (allowed jobId) f f' := by
  rcases h.file jobId with ⟨hnone, -⟩ | ⟨f₀, f', hf₀, hf', hrun⟩
  · rw [hf] at hnone
    cases hnone
  · rw [hf] at hf₀
    cases hf₀
    exact ⟨f', hf', hrun⟩

theorem work_none_of_ne {e : Effect} (h : FileStep e f f') (he : e ≠ .enqueued)
    (hnone : f.work = none) : f'.work = none := by
  cases h <;> first | exact absurd rfl he | exact hnone | simp_all

theorem freshWork_of_ne {e : Effect} (h : FileStep e f f') (he : e ≠ .enqueued) (s : Ledger) :
    FreshWork s f f' := by
  intro hnone w' hw'
  rw [work_none_of_ne h he hnone] at hw'
  cases hw'

/-- A successful transaction on a job read its file and wrote the changed one back. -/
theorem onJob_eq_ok {α : Type} {missing : LedgerError} {a : α}
    {op : JobFile → Except LedgerError (α × JobFile)} (h : s.onJob jobId missing op = .ok (a, t)) :
    ∃ f f', s.file? jobId = some f ∧ op f = .ok (a, f') ∧ t = s.store f' := by
  unfold onJob at h
  split at h
  · cases h
  · rename_i f hf
    obtain ⟨⟨b, f'⟩, hop, hlast⟩ := bind_eq_ok.mp h
    cases hlast
    exact ⟨f, f', hf, hop, rfl⟩

/-- A transaction on one job whose effects are allowed. -/
theorem onJob_changes {α : Type} {missing : LedgerError} {a : α}
    {op : JobFile → Except LedgerError (α × JobFile)}
    (hop : ∀ f f' b, s.file? jobId = some f → op f = .ok (b, f') →
      f' = f ∨ ∃ e, e ≠ .enqueued ∧ allowed jobId e ∧ FileStep e f f')
    (h : s.onJob jobId missing op = .ok (a, t)) : Changes allowed s t := by
  obtain ⟨f, f', hf, hb, rfl⟩ := onJob_eq_ok h
  rcases hop f f' a hf hb with rfl | ⟨e, hne, he, hstep⟩
  · rw [store_self hf]
    exact .refl
  · exact Changes.refl.tail hf he hstep (freshWork_of_ne hstep hne s)

theorem onWorkItem_changes {α : Type} {missing : LedgerError} {workItemId : String} {a : α}
    {op : JobFile → Except LedgerError (α × JobFile)}
    (hop : ∀ jobId f f' b, s.file? jobId = some f → op f = .ok (b, f') →
      f' = f ∨ ∃ e, e ≠ .enqueued ∧ allowed jobId e ∧ FileStep e f f')
    (h : s.onWorkItem workItemId missing op = .ok (a, t)) : Changes allowed s t := by
  unfold onWorkItem at h
  split at h
  · cases h
  · exact onJob_changes (hop _) h

theorem forEachWorkItem_changes
    {op : Nat → JobFile → Except LedgerError (Option WorkRow × JobFile)}
    (hop : ∀ n jobId f f' b, op n f = .ok (b, f') →
      f' = f ∨ ∃ e, e ≠ .enqueued ∧ allowed jobId e ∧ FileStep e f f')
    {s t : Ledger} {n : Nat} {ids : List String} {rows : List WorkRow}
    (h : forEachWorkItem op s n ids = .ok (rows, t)) : Changes allowed s t := by
  induction ids generalizing s n rows with
  | nil =>
      cases h
      exact .refl
  | cons id ids ih =>
      obtain ⟨⟨row, u⟩, hfirst, hrest⟩ := bind_eq_ok.mp h
      obtain ⟨⟨rows', t'⟩, hnext, hlast⟩ := bind_eq_ok.mp hrest
      cases hlast
      exact (onWorkItem_changes (fun jobId f f' b _ => hop n jobId f f' b) hfirst).trans (ih hnext)

end Changes

end Ledger

section Allows

/-- The effects that a call of the ledger can have on a job. -/
def LedgerCall.Allows : LedgerCall → String → Effect → Prop
  | create _, _, e => e = .enqueued
  | mark target _ _, jobId, e => jobId = target ∧ (e = .parked ∨ e = .moved)
  | cancelJob target _, jobId, e => jobId = target ∧ (e = .parked ∨ e = .cancelled)
  | appendJobEvent target _ _ _ _ _ _, jobId, e => jobId = target ∧ e = .recorded
  | upsertJobRelationship _, _, _ => False
  | claimWorkItems c, _, e =>
      e = .attemptFailed c.retryPolicy.maxAttempts ∨ ∃ n, e = .claimed (c.leaseTokens n)
  | completeWorkItem _ _ _, _, e => e = .settled ∨ e = .parked ∨ e = .completed
  | deferWorkItem _ _ _ _ _, _, e => e = .settled ∨ e = .deferred
  | failWorkItem _ _ _ _ policy _ _, _, e =>
      e = .settled ∨ e = .attemptFailed policy.maxAttempts

/-- The effects that a custody operation can have on its job. -/
def CustodyCall.Allows : CustodyCall → Effect → Prop
  | commitOffer _ _ _, e => e = .offered
  | reserve _ _ _ _, e => e = .parked ∨ e = .reserved
  | disposition _ response _ _, e => e = .parked ∨ e = .refused ∨ e = .waiting ∨
      JobFile.acceptedRequestId response ≠ none ∧ e = .archiveRequested
  | block _ _, e => e = .parked
  | recordOwnerDue _ _ _, e => e = .parked ∨ e = .scheduled
  | confirmFinal _ _ _ _, e => e = .confirmed
  | resume _ _ _, e => e = .resumed

/-- The effects that a call can have on a job. -/
def Call.Allows : Call → String → Effect → Prop
  | ledger c, jobId, e => c.Allows jobId e
  | custody scope c, jobId, e => jobId = scope.jobId ∧ c.Allows e

end Allows

section Custody

/-- The fence that an operation carries; an operator's resume carries none. -/
def CustodyCall.fence? : CustodyCall → Option CustodyLease
  | commitOffer fence _ _ | reserve fence _ _ _ | disposition fence _ _ _ | block fence _
  | recordOwnerDue fence _ _ | confirmFinal fence _ _ _ => some fence
  | resume _ _ _ => none

variable {d : Deployment} {s : Ledger} {f f' : JobFile} {scope : CustodyScope} {c : CustodyCall}

/-- A custody operation acts under its fence and has only its own effects. -/
theorem CustodyCall.transact_fileStep (h : c.transact d s f scope = .ok f') :
    (∀ fence, c.fence? = some fence → ∃ now, Fenced f fence now) ∧
      (f' = f ∨ ∃ e, c.Allows e ∧ FileStep e f f') := by
  cases c with
  | commitOffer fence payload now =>
      obtain ⟨⟨digest, f₁⟩, hcommit, hlast⟩ := bind_eq_ok.mp h
      cases hlast
      obtain ⟨hfenced, hstep⟩ := commitOffer_fileStep hcommit
      refine ⟨fun fence' heq => ?_, hstep.imp_right fun hstep => ⟨_, rfl, hstep⟩⟩
      cases heq
      exact ⟨now, hfenced⟩
  | reserve fence operation jitter now =>
      obtain ⟨⟨granted, f₁⟩, hreserve, hlast⟩ := bind_eq_ok.mp h
      cases hlast
      obtain ⟨hfenced, hstep⟩ := reserve_fileStep hreserve
      refine ⟨fun fence' heq => ?_, hstep.imp_right ?_⟩
      · cases heq
        exact ⟨now, hfenced⟩
      · rintro (hstep | hstep)
        · exact ⟨_, Or.inl rfl, hstep⟩
        · exact ⟨_, Or.inr rfl, hstep⟩
  | disposition fence response httpStatus now =>
      obtain ⟨hfenced, hstep⟩ := disposition_fileStep h
      refine ⟨fun fence' heq => ?_, hstep.imp_right ?_⟩
      · cases heq
        exact ⟨now, hfenced⟩
      · rintro (hstep | hstep | hstep | ⟨haccepted, hstep⟩)
        · exact ⟨_, Or.inl rfl, hstep⟩
        · exact ⟨_, Or.inr (Or.inl rfl), hstep⟩
        · exact ⟨_, Or.inr (Or.inr (Or.inl rfl)), hstep⟩
        · exact ⟨_, Or.inr (Or.inr (Or.inr ⟨haccepted, rfl⟩)), hstep⟩
  | block fence now =>
      obtain ⟨hfenced, hstep⟩ := block_fileStep h
      refine ⟨fun fence' heq => ?_, hstep.imp_right fun hstep => ⟨_, rfl, hstep⟩⟩
      cases heq
      exact ⟨now, hfenced⟩
  | recordOwnerDue fence due now =>
      obtain ⟨⟨recorded, f₁⟩, hdue, hlast⟩ := bind_eq_ok.mp h
      cases hlast
      obtain ⟨hfenced, hstep⟩ := recordOwnerDue_fileStep hdue
      refine ⟨fun fence' heq => ?_, hstep.imp_right ?_⟩
      · cases heq
        exact ⟨now, hfenced⟩
      · rintro (hstep | hstep)
        · exact ⟨_, Or.inl rfl, hstep⟩
        · exact ⟨_, Or.inr rfl, hstep⟩
  | confirmFinal fence response verification now =>
      obtain ⟨identity, -, hchecked⟩ := bind_eq_ok.mp h
      obtain ⟨⟨⟩, -, hconfirm⟩ := bind_eq_ok.mp hchecked
      obtain ⟨hfenced, hstep⟩ := confirmFinal_fileStep hconfirm
      refine ⟨fun fence' heq => ?_, Or.inr ⟨_, rfl, hstep⟩⟩
      cases heq
      exact ⟨now, hfenced⟩
  | resume expectedEpoch expectedDigest now =>
      refine ⟨fun fence heq => ?_, (resume_fileStep h).imp And.left fun hstep => ⟨_, rfl, hstep⟩⟩
      cases heq

theorem CustodyCall.ne_enqueued {e : Effect} (h : c.Allows e) : e ≠ .enqueued := by
  rintro rfl
  cases c <;> simp [CustodyCall.Allows] at h

theorem unvalued_eq_ok {op : Except LedgerError JobFile} {a : Unit} :
    unvalued op = .ok (a, f') ↔ op = .ok f' := by
  cases op <;> simp [unvalued, bind, Except.bind, pure, Except.pure]

theorem CustodyCall.perform_changes {t : Ledger} (h : c.perform d s scope = .ok t) :
    Ledger.Changes (Call.Allows (.custody scope c)) s t := by
  obtain ⟨⟨⟩, -, hauthorized⟩ := bind_eq_ok.mp h
  obtain ⟨⟨a, t'⟩, hjob, hlast⟩ := bind_eq_ok.mp hauthorized
  cases hlast
  refine Ledger.onJob_changes (fun f f' b _ hop => ?_) hjob
  rcases (CustodyCall.transact_fileStep (unvalued_eq_ok.mp hop)).2 with rfl | ⟨e, he, hstep⟩
  · exact Or.inl rfl
  · exact Or.inr ⟨e, CustodyCall.ne_enqueued he, ⟨rfl, he⟩, hstep⟩

end Custody

section Acceptance

/-- The rows of a job that was just accepted. -/
structure Opened (f : JobFile) : Prop where
  status : f.job.status = .accepted
  failure : f.job.failureCategory = none
  custody : f.job.custody = { policy := f.job.custody.policy }
  render : f.job.render.jobId = none
  archiveRequest : f.job.archiveRequestId = none
  archiveDocument : f.job.archiveDocumentId = none
  work : ∀ w, f.work = some w → w.status = .pending ∧ w.attemptCount = 0 ∧ w.leaseToken = none
  history : ∃ e, f.events = [e] ∧ e.fromStatus = none ∧ e.toStatus = .accepted
  keys : ∀ e ∈ f.events, JobFile.KeyNormal e
  created : f.job.createdAt.offset = false
  scope : f.job.portfolioScope = f.request.portfolioScope

/-- A call accepts a new job with the rows `f`. -/
structure Accepts (d : Deployment) (s : Ledger) (c : CreateCall) (sub : Submission)
    (source : Option (JobRow × String)) (f : JobFile) (s' : Ledger) : Prop where
  submitted : submission d c = .ok sub
  novel : s.requests.lookup? (c.callerContext.tenantId, sub.key) = none
  guarded : s.replaySource c = .ok source
  fresh : s.jobs.find? c.jobId = none
  job : f.job.reportJobId = c.jobId
  request : ∃ options, bindAdmission sub.parts.options c.twrAdmission c.requestId c.jobId
    c.callerContext.correlationId c.callerContext.traceId = .ok options ∧
      f.request = c.requestRow sub options
  opened : Opened f
  files : ∀ k, s'.file? k = if c.jobId = k then some f else s.file? k
  requests : s.requests.insert? f.request = some s'.requests
  relationships : s'.relationships = s.relate c source
  linked : s'.Linked
  jobs : s.jobs.insert? f.job = some s'.jobs

namespace Ledger

variable {s t : Ledger} {jobId : String} {record f : JobFile} {c : CreateCall} {d : Deployment}

/-- An ignored insert leaves the ledger as it was. -/
theorem store_of_taken (hf : s.file? jobId = some f) (hnone : f.work = none) {w w₀ : WorkRow}
    (howner : w.reportJobId = jobId) (htaken : s.workItems.find? w.workItemId = some w₀) :
    s.store (f.setWork w) = s := by
  have hlookup : s.workItems.lookup? w.reportJobId = none := by
    rw [howner, ← (file?_eq_some_iff.mp hf).2.2.1, hnone]
  have hins : s.workItems.insert? w = none :=
    (Table.insert?_eq_none_iff _ _).mpr fun hfree => by simp [htaken] at hfree
  have hwork : storeWork s.workItems (some w) = s.workItems := by
    simp [storeWork, hlookup, hins]
  have hself := store_self hf
  have hsame : s.store (f.setWork w) =
      { s.store f with workItems := storeWork s.workItems (some w) } := rfl
  rw [hsame, hwork, hself]

theorem ensureWorkItem_eq (c : CreateCall) (hf : s.file? jobId = some record) :
    s.ensureWorkItem c record = s ∨ ∃ f', FileStep .enqueued record f' ∧ FreshWork s record f' ∧
      s.ensureWorkItem c record = s.store f' := by
  unfold ensureWorkItem
  split
  · rcases ensureWork_fileStep (f := record) c.workItemId c.now with hsame | hstep
    · rw [hsame, store_self hf]
      exact Or.inl rfl
    · generalize hf' : record.ensureWork c.workItemId c.now = f' at hstep ⊢
      cases hstep with
      | @enqueue f₀ w hnone hopen hjob hstatus hattempt htoken =>
          have howner : w.reportJobId = jobId := hjob.trans (jobId_of_file? hf)
          cases hfound : s.workItems.find? w.workItemId with
          | none =>
              refine Or.inr ⟨_, .enqueue hnone hopen hjob hstatus hattempt htoken, ?_, rfl⟩
              intro _ w' hw'
              cases hw'
              exact hfound
          | some w₀ => exact Or.inl (store_of_taken hf hnone howner hfound)
  · exact Or.inl rfl

theorem ensureWorkItem_changes (c : CreateCall) (hf : s.file? jobId = some record) :
    Changes (fun _ e => e = .enqueued) s (s.ensureWorkItem c record) := by
  rcases ensureWorkItem_eq c hf with hsame | ⟨f', hstep, hfresh, hstore⟩
  · rw [hsame]
    exact .refl
  · rw [hstore]
    exact Changes.refl.tail hf rfl hstep hfresh

theorem loadByRequestId_eq_some {requestId : String}
    (h : s.loadByRequestId requestId = some record) :
    s.file? record.job.reportJobId = some record ∧ record.job.reportRequestId = requestId := by
  unfold loadByRequestId at h
  split at h
  · cases h
  · rename_i job hjob
    have hid := jobId_of_file? h
    refine ⟨hid ▸ h, ?_⟩
    have hfound := (file?_eq_some_iff.mp h).1
    rw [Table.find?_key (List.mem_of_find?_eq_some hjob)] at hfound
    cases hfound
    simpa using List.find?_some hjob

/-- A retry under a known key changes no row but the work item it may add. -/
theorem acceptExisting_eq_ok {sub : Submission} {existing : RequestRow}
    (h : s.acceptExisting d c sub existing = .ok (record, t)) :
    s.loadByRequestId existing.reportRequestId = some record ∧
      (existing.requestHash = sub.requestHash ∨
        sub.requestHash = clientIdentityHashFromRecord d.toRuntime record.request) ∧
      requireSameAdmission d.coercions record.request record.job c.twrAdmission = .ok () ∧
      t = s.ensureWorkItem c record := by
  unfold acceptExisting at h
  split at h
  · cases h
  · rename_i record₀ hload
    split at h
    · cases h
    · rename_i hsame
      obtain ⟨⟨⟩, hadmission, hlast⟩ := bind_eq_ok.mp h
      cases hlast
      refine ⟨hload, ?_, hadmission, rfl⟩
      by_cases heq : existing.requestHash = sub.requestHash
      · exact Or.inl heq
      · exact Or.inr (Decidable.not_not.mp fun hne => hsame ⟨heq, hne⟩)

theorem replayGuard_eq_ok {sourceJobId : String} {source : JobRow}
    (h : s.replayGuard sourceJobId = .ok source) :
    s.jobs.find? sourceJobId = some source ∧ source.status = .failed ∧
      source.retryEligible = true ∧ present source.archiveDocumentId = false ∧
      s.liveMember (s.lineageRoot sourceJobId) sourceJobId = false := by
  unfold replayGuard at h
  split at h
  · cases h
  · rename_i row hrow
    split at h
    · cases h
    · rename_i hopen
      split at h
      · cases h
      · rename_i hlive
        cases h
        simp only [Bool.or_eq_true, not_or, decide_eq_true_eq, ne_eq, Decidable.not_not,
          Bool.not_eq_true', Bool.not_eq_true, Bool.not_eq_false] at hopen
        exact ⟨hrow, hopen.1.1, hopen.1.2, hopen.2, by simpa using hlive⟩

theorem replaySource_eq_some {source : JobRow} {reason : String}
    (h : s.replaySource c = .ok (some (source, reason))) :
    ∃ sourceJobId, c.replay = some (sourceJobId, reason) ∧
      s.replayGuard sourceJobId = .ok source := by
  unfold replaySource at h
  split at h
  · cases h
  · rename_i sourceJobId reason' hreplay
    obtain ⟨row, hguard, hlast⟩ := bind_eq_ok.mp h
    cases hlast
    exact ⟨sourceJobId, hreplay, hguard⟩

/-- The edges after an acceptance: those before it, and that of the replay. -/
theorem mem_relate {source : Option (JobRow × String)} {r : RelationshipRow}
    (h : r ∈ (s.relate c source).rows) :
    r ∈ s.relationships.rows ∨
      ∃ job reason, source = some (job, reason) ∧ r = c.relationshipRow job reason := by
  unfold relate at h
  split at h
  · exact Or.inl h
  · rename_i job reason
    cases hins : s.relationships.insert? (c.relationshipRow job reason) with
    | none =>
        rw [hins] at h
        exact Or.inl h
    | some rows =>
        rw [hins, Option.getD_some, ((Table.insert?_eq_some_iff _ _ _).mp hins).2.2,
          List.mem_append, List.mem_singleton] at h
        exact h.imp_right fun heq => ⟨job, reason, rfl, heq⟩

/-- The ledger with the rows of a new job. -/
def opened (s : Ledger) (requests : Table RequestRow.reportRequestId RequestRow.identity)
    (jobs : Table JobRow.reportJobId JobRow.reportJobId)
    (relationships : Table RelationshipRow.pair RelationshipRow.pair) (f : JobFile) : Ledger :=
  { s with
    requests := requests
    jobs := jobs
    relationships := relationships
    events := s.events ++ f.events }

section Opened

variable {requests : Table RequestRow.reportRequestId RequestRow.identity}
  {jobs : Table JobRow.reportJobId JobRow.reportJobId}
  {relationships : Table RelationshipRow.pair RelationshipRow.pair}

/-- The new rows are read as the file of the new job, and every other file is as before. -/
theorem file?_opened (relationships : Table RelationshipRow.pair RelationshipRow.pair)
    (hs : Linked s) (hrequests : s.requests.insert? f.request = some requests)
    (hjobs : s.jobs.insert? f.job = some jobs)
    (hrequest : f.job.reportRequestId = f.request.reportRequestId) (hwork : f.work = none)
    (hevents : ∀ e ∈ f.events, e.reportJobId = f.job.reportJobId) (k : String) :
    (s.opened requests jobs relationships f).file? k =
      if f.job.reportJobId = k then some f else s.file? k := by
  have hfind := Table.find?_insert? hjobs
  have hfreshJob := ((Table.insert?_eq_some_iff _ _ _).mp hjobs).1
  split
  · rename_i hk
    subst hk
    refine file?_eq_some_iff.mpr ⟨?_, ?_, ?_, ?_⟩
    · simp [opened, hfind]
    · simp [opened, hrequest, Table.find?_insert? hrequests]
    · rw [hwork]
      exact (work_eq_none hs hfreshJob).symm
    · have hold : s.eventsOf f.job.reportJobId = [] := eventsOf_eq_nil hs hfreshJob
      have hall : f.events.filter (fun e => e.reportJobId == f.job.reportJobId) = f.events :=
        List.filter_eq_self.mpr fun e he => by simp [hevents e he]
      simp only [eventsOf] at hold
      simp only [eventsOf, opened, List.filter_append, hold, hall, List.nil_append]
  · rename_i hk
    have hnone : f.events.filter (fun e => e.reportJobId == k) = [] :=
      List.filter_eq_nil_iff.mpr fun e he => by simp [hevents e he, hk]
    unfold file?
    simp only [opened, eventsOf, List.filter_append, hnone, List.append_nil, hfind k, if_neg hk]
    cases hjob : s.jobs.find? k with
    | none => rfl
    | some job =>
        obtain ⟨r, hr⟩ := hs.request job (Table.mem_of_find? hjob)
        have hne : f.request.reportRequestId ≠ job.reportRequestId := by
          intro heq
          have hfree := ((Table.insert?_eq_some_iff _ _ _).mp hrequests).1
          rw [heq, hr] at hfree
          cases hfree
        simp [Table.find?_insert? hrequests, hne]

theorem linked_opened (hs : Linked s) (hrequests : s.requests.insert? f.request = some requests)
    (hjobs : s.jobs.insert? f.job = some jobs)
    (hrequest : f.job.reportRequestId = f.request.reportRequestId)
    (hevents : ∀ e ∈ f.events, e.reportJobId = f.job.reportJobId)
    (hsource : ∀ r ∈ relationships.rows, ∃ job, jobs.find? r.sourceReportJobId = some job)
    (hderived : ∀ r ∈ relationships.rows, ∃ job, jobs.find? r.derivedReportJobId = some job) :
    Linked (s.opened requests jobs relationships f) := by
  have hfind := Table.find?_insert? hjobs
  have hkept : ∀ {k}, (∃ job, s.jobs.find? k = some job) → ∃ job, jobs.find? k = some job := by
    rintro k ⟨job, hk⟩
    rw [hfind]
    split
    · exact ⟨_, rfl⟩
    · exact ⟨job, hk⟩
  refine ⟨fun job hjob => ?_, fun w hw => hkept (hs.work w hw), hsource, hderived, fun e he => ?_⟩
  · simp only [opened, Table.find?_insert? hrequests]
    split
    · exact ⟨_, rfl⟩
    · rename_i hne
      simp only [opened, ((Table.insert?_eq_some_iff _ _ _).mp hjobs).2.2, List.mem_append,
        List.mem_singleton] at hjob
      rcases hjob with hold | rfl
      · exact hs.request job hold
      · exact absurd hrequest.symm hne
  · simp only [opened, List.mem_append] at he
    rcases he with he | he
    · exact hkept (hs.event e he)
    · exact ⟨f.job, by simp [opened, hfind, hevents e he]⟩

end Opened

/-- An enqueue adds a pending work item to a job that was just accepted. -/
theorem opened_of_enqueued {f' : JobFile} (h : Opened f) (hstep : FileStep .enqueued f f') :
    Opened f' ∧ f'.job = f.job ∧ f'.request = f.request := by
  cases hstep with
  | enqueue hnone hopen hjob hstatus hattempt htoken =>
      refine ⟨⟨h.status, h.failure, h.custody, h.render, h.archiveRequest, h.archiveDocument, ?_,
        h.history, h.keys, h.created, h.scope⟩, rfl, rfl⟩
      intro w hw
      cases hw
      exact ⟨hstatus, hattempt, htoken⟩

theorem relate_linked (hs : Linked s) {source : Option (JobRow × String)}
    {jobs : Table JobRow.reportJobId JobRow.reportJobId} {job : JobRow}
    (hjob : job.reportJobId = c.jobId) (hsource : s.replaySource c = .ok source)
    (hjobs : s.jobs.insert? job = some jobs) :
    ∀ r ∈ (s.relate c source).rows, (∃ job, jobs.find? r.sourceReportJobId = some job) ∧
      ∃ job, jobs.find? r.derivedReportJobId = some job := by
  have hkept : ∀ {k}, (∃ job, s.jobs.find? k = some job) → ∃ job, jobs.find? k = some job := by
    rintro k ⟨job, hk⟩
    rw [Table.find?_insert? hjobs]
    split
    · exact ⟨_, rfl⟩
    · exact ⟨job, hk⟩
  intro r hr
  rcases mem_relate hr with hold | ⟨row, reason, rfl, rfl⟩
  · exact ⟨hkept (hs.source r hold), hkept (hs.derived r hold)⟩
  · obtain ⟨sourceJobId, -, hguard⟩ := replaySource_eq_some hsource
    have hrow := (replayGuard_eq_ok hguard).1
    refine ⟨hkept ⟨row, ?_⟩, job, ?_⟩
    · rw [← hrow, ← Table.key_of_find? hrow]
      rfl
    · simp [Table.find?_insert? hjobs, CreateCall.relationshipRow, hjob]

/-- The rows of a new job, with the work item that the call may ensure. -/
theorem accepts_opened (hs : Linked s) {sub : Submission} {source : Option (JobRow × String)}
    {requests : Table RequestRow.reportRequestId RequestRow.identity}
    {jobs : Table JobRow.reportJobId JobRow.reportJobId} {options : Fields}
    (hsub : submission d c = .ok sub)
    (hnovel : s.requests.lookup? (c.callerContext.tenantId, sub.key) = none)
    (hsource : s.replaySource c = .ok source)
    (hbind : bindAdmission sub.parts.options c.twrAdmission c.requestId c.jobId
      c.callerContext.correlationId c.callerContext.traceId = .ok options)
    (hrequest : record.request = c.requestRow sub options)
    (hjob : record.job.reportJobId = c.jobId) (hid : record.job.reportRequestId = c.requestId)
    (hwork : record.work = none) (hopened : Opened record)
    (hown : ∀ e ∈ record.events, e.reportJobId = record.job.reportJobId)
    (hrequests : s.requests.insert? record.request = some requests)
    (hjobs : s.jobs.insert? record.job = some jobs) :
    ∃ f, Accepts d s c sub source f
      ((s.opened requests jobs (s.relate c source) record).ensureWorkItem c record) := by
  have hlinks : record.job.reportRequestId = record.request.reportRequestId := by
    rw [hid, hrequest]
    rfl
  have hfile := file?_opened (s.relate c source) hs hrequests hjobs hlinks hwork hown
  have hrelate := relate_linked hs hjob hsource hjobs
  have hlinked := linked_opened hs hrequests hjobs hlinks hown (fun r hr => (hrelate r hr).1)
    (fun r hr => (hrelate r hr).2)
  have hfresh : s.jobs.find? c.jobId = none :=
    hjob ▸ ((Table.insert?_eq_some_iff _ _ _).mp hjobs).1
  rw [hjob] at hfile
  have hrecord := (hfile c.jobId).trans (if_pos rfl)
  rcases ensureWorkItem_eq c hrecord with hsame | ⟨f', hstep, hfreshWork, hstore⟩
  · rw [hsame]
    exact ⟨record, hsub, hnovel, hsource, hfresh, hjob, ⟨options, hbind, hrequest⟩, hopened, hfile,
      hrequests, rfl, hlinked, hjobs⟩
  · rw [hstore]
    obtain ⟨hopened', hjob', hrequest'⟩ := opened_of_enqueued hopened hstep
    refine ⟨f', hsub, hnovel, hsource, hfresh, hjob' ▸ hjob,
      ⟨options, hbind, hrequest'.trans hrequest⟩, hopened', fun k => ?_, hrequest' ▸ hrequests, rfl,
      linked_store hlinked hrecord hstep.continues, ?_⟩
    · rw [file?_store hrecord hstep.continues hfreshWork, hfile k]
      split <;> rfl
    · have hrow : record.job ∈ jobs.rows := by
        rw [((Table.insert?_eq_some_iff _ _ _).mp hjobs).2.2]
        exact List.mem_append_right _ (List.mem_singleton_self _)
      have hstored : ((s.opened requests jobs (s.relate c source) record).store f').jobs =
          jobs.put f'.job := rfl
      rw [hstored, hjob', hjobs, Table.put_self hrow]

/-- A call without a request under its key accepts a new job, under the lineage guard when it
is a replay. -/
theorem acceptNew_eq_ok (hs : Linked s) {sub : Submission} (hsub : submission d c = .ok sub)
    (hnovel : s.requests.lookup? (c.callerContext.tenantId, sub.key) = none)
    (h : s.acceptNew c sub = .ok (record, t)) :
    ∃ source f, Accepts d s c sub source f t := by
  obtain ⟨source, hsource, hguarded⟩ := bind_eq_ok.mp h
  obtain ⟨options, hbind, hbound⟩ := bind_eq_ok.mp hguarded
  split at hbound
  · cases hbound
  · rename_i requests hrequests
    obtain ⟨policy, -, hpolicy⟩ := bind_eq_ok.mp hbound
    split at hpolicy
    · cases hpolicy
    · rename_i jobs hjobs
      obtain ⟨record₀, happend, hlast⟩ := bind_eq_ok.mp hpolicy
      obtain ⟨e, heq, hejob, hefrom, heto, hekey⟩ := JobFile.appendStatusEvent_eq_ok happend
      subst heq
      cases hlast
      refine ⟨source, accepts_opened hs hsub hnovel hsource hbind rfl rfl rfl rfl
        ⟨rfl, rfl, rfl, rfl, rfl, rfl, by simp, ⟨e, rfl, hefrom, heto⟩, ?_, rfl, rfl⟩ ?_ hrequests
        hjobs⟩
      · intro x hx
        rw [List.mem_singleton.mp hx]
        exact JobFile.keyNormal_of_eq hekey
      · intro x hx
        rw [List.mem_singleton.mp hx, hejob]

/-- A successful creation returned a known job or accepted a new one. -/
theorem createReportJob_eq_ok (hs : Linked s) (h : s.createReportJob d c = .ok (record, t)) :
    (∃ sub existing, submission d c = .ok sub ∧
        s.requests.lookup? (c.callerContext.tenantId, sub.key) = some existing ∧
        s.acceptExisting d c sub existing = .ok (record, t)) ∨
      ∃ sub source f, Accepts d s c sub source f t := by
  obtain ⟨sub, hsub, hrest⟩ := bind_eq_ok.mp h
  split at hrest
  · rename_i existing hexisting
    exact Or.inl ⟨sub, existing, hsub, hexisting, hrest⟩
  · rename_i hnovel
    exact Or.inr ⟨sub, acceptNew_eq_ok hs hsub hnovel hrest⟩

end Ledger

end Acceptance

section Perform

variable {d : Deployment} {s t : Ledger}

theorem Mark.transition_plain (m : Mark) (now : Instant) : (m.transition now).Plain := by
  cases m <;> constructor <;> intros <;> first | rfl | contradiction

/-- What a successful call did to the ledger. -/
inductive Performed (d : Deployment) (s : Ledger) : Call → Ledger → Prop where
  | changed {c : Call} {t : Ledger} (h : s.Changes c.Allows t) : Performed d s c t
  | accepted {c : CreateCall} {sub : Submission} {source : Option (JobRow × String)} {f : JobFile}
      {t : Ledger} (h : Accepts d s c sub source f t) : Performed d s (.ledger (.create c)) t
  | related {c : RelationshipCall} {relationships : Table RelationshipRow.pair RelationshipRow.pair}
      (hlinked : Ledger.Linked { s with relationships := relationships })
      (h : relationships.rows = s.relationships.rows ++ [c.row (dtToText c.now)] ∨
        ∃ r, s.relationships.find? c.pair = some r ∧
          relationships = s.relationships.put (c.row r.createdAt)) :
      Performed d s (.ledger (.upsertJobRelationship c)) { s with relationships := relationships }

theorem upsertJobRelationship_performed {c : RelationshipCall} (hs : s.Linked)
    (h : s.upsertJobRelationship c = .ok t) :
    Performed d s (.ledger (.upsertJobRelationship c)) t := by
  unfold Ledger.upsertJobRelationship at h
  split at h
  · rename_i r hr
    cases h
    refine .related ⟨hs.request, hs.work, fun e he => ?_, fun e he => ?_, hs.event⟩
      (Or.inr ⟨r, hr, rfl⟩)
    all_goals
      simp only [Table.rows_put, List.mem_map, Table.written] at he
      obtain ⟨r', hr', heq⟩ := he
      split at heq
      · rename_i hkey
        subst heq
        have hpair := hkey.1
        simp only [RelationshipRow.pair, Prod.mk.injEq] at hpair
        first | exact hpair.1 ▸ hs.source r' hr' | exact hpair.2.1 ▸ hs.derived r' hr'
      · subst heq
        first | exact hs.source r' hr' | exact hs.derived r' hr'
  · split at h
    · cases h
    · rename_i hknown
      split at h
      · rename_i relationships hins
        cases h
        have hrows := ((Table.insert?_eq_some_iff _ _ _).mp hins).2.2
        simp only [Bool.or_eq_true, not_or, Bool.not_eq_true, Option.isNone_eq_false_iff,
          Option.isSome_iff_exists] at hknown
        refine .related ⟨hs.request, hs.work, fun e he => ?_, fun e he => ?_, hs.event⟩
          (Or.inl hrows)
        all_goals
          simp only [hrows, List.mem_append, List.mem_singleton] at he
          rcases he with hold | rfl
          · first | exact hs.source e hold | exact hs.derived e hold
          · first | exact hknown.1 | exact hknown.2
      · cases h

theorem LedgerCall.perform_performed {c : LedgerCall} (hs : s.Linked) (h : c.perform d s = .ok t) :
    Performed d s (.ledger c) t := by
  cases c with
  | create c =>
      obtain ⟨⟨record, t'⟩, hcreate, hlast⟩ := bind_eq_ok.mp h
      cases hlast
      rcases Ledger.createReportJob_eq_ok hs hcreate with
        ⟨sub, existing, -, -, hexisting⟩ | ⟨sub, source, f, haccepts⟩
      · obtain ⟨hload, -, -, rfl⟩ := Ledger.acceptExisting_eq_ok hexisting
        exact .changed (Ledger.ensureWorkItem_changes c (Ledger.loadByRequestId_eq_some hload).1)
      · exact .accepted haccepts
  | mark jobId m context =>
      obtain ⟨⟨a, t'⟩, hjob, hlast⟩ := bind_eq_ok.mp h
      cases hlast
      refine .changed (Ledger.onJob_changes (fun f f' b _ hop => ?_) hjob)
      rcases transitionJob_fileStep (m.transition_plain context.now) (unvalued_eq_ok.mp hop) with
        rfl | hstep | hstep
      · exact Or.inl rfl
      · exact Or.inr ⟨_, by simp, ⟨rfl, Or.inl rfl⟩, hstep⟩
      · exact Or.inr ⟨_, by simp, ⟨rfl, Or.inr rfl⟩, hstep⟩
  | cancelJob jobId context =>
      obtain ⟨⟨a, t'⟩, hjob, hlast⟩ := bind_eq_ok.mp h
      cases hlast
      refine .changed (Ledger.onJob_changes (fun f f' b _ hop => ?_) hjob)
      rcases cancelJob_fileStep (unvalued_eq_ok.mp hop) with rfl | hstep | hstep
      · exact Or.inl rfl
      · exact Or.inr ⟨_, by simp, ⟨rfl, Or.inl rfl⟩, hstep⟩
      · exact Or.inr ⟨_, by simp, ⟨rfl, Or.inr rfl⟩, hstep⟩
  | appendJobEvent jobId eventType message payload key skip context =>
      obtain ⟨⟨a, t'⟩, hjob, hlast⟩ := bind_eq_ok.mp h
      cases hlast
      refine .changed (Ledger.onJob_changes (fun f f' b _ hop => ?_) hjob)
      rcases appendJobEvent_fileStep hop with rfl | hstep
      · exact Or.inl rfl
      · exact Or.inr ⟨_, by simp, ⟨rfl, rfl⟩, hstep⟩
  | upsertJobRelationship c => exact upsertJobRelationship_performed hs h
  | claimWorkItems c =>
      obtain ⟨⟨rows, t'⟩, hclaim, hlast⟩ := bind_eq_ok.mp h
      cases hlast
      unfold Ledger.claimWorkItems at hclaim
      split at hclaim
      · cases hclaim
        exact .changed .refl
      · obtain ⟨u, hsweep, hclaims⟩ := bind_eq_ok.mp hclaim
        obtain ⟨⟨rows', u'⟩, hexpire, hlast⟩ := bind_eq_ok.mp hsweep
        cases hlast
        refine .changed (Ledger.Changes.trans (t := u)
          (Ledger.forEachWorkItem_changes (fun n jobId f f' b hop => ?_) hexpire)
          (Ledger.forEachWorkItem_changes (fun n jobId f f' b hop => ?_) hclaims))
        · obtain ⟨f₁, hstep, hlast⟩ := bind_eq_ok.mp hop
          cases hlast
          exact Or.inr ⟨_, by simp, Or.inl rfl, expireWork_fileStep hstep⟩
        · rcases claimWork_fileStep hop with ⟨-, rfl⟩ | ⟨-, hstep, -⟩
          · exact Or.inl rfl
          · exact Or.inr ⟨_, by simp, Or.inr ⟨n, rfl⟩, hstep⟩
  | completeWorkItem workItemId token now =>
      obtain ⟨⟨a, t'⟩, hitem, hlast⟩ := bind_eq_ok.mp h
      cases hlast
      refine .changed (Ledger.onWorkItem_changes (fun jobId f f' b _ hop => ?_) hitem)
      rcases completeWork_fileStep (unvalued_eq_ok.mp hop) with hstep | hstep | hstep
      · exact Or.inr ⟨_, by simp, Or.inl rfl, hstep⟩
      · exact Or.inr ⟨_, by simp, Or.inr (Or.inl rfl), hstep⟩
      · exact Or.inr ⟨_, by simp, Or.inr (Or.inr rfl), hstep⟩
  | deferWorkItem workItemId token waitReason delaySeconds now =>
      obtain ⟨⟨a, t'⟩, hitem, hlast⟩ := bind_eq_ok.mp h
      cases hlast
      refine .changed (Ledger.onWorkItem_changes (fun jobId f f' b _ hop => ?_) hitem)
      rcases deferWork_fileStep (unvalued_eq_ok.mp hop) with ⟨rfl, -⟩ | hstep | hstep
      · exact Or.inl rfl
      · exact Or.inr ⟨_, by simp, Or.inl rfl, hstep⟩
      · exact Or.inr ⟨_, by simp, Or.inr rfl, hstep⟩
  | failWorkItem workItemId token errorCategory errorSummary policy lease now =>
      obtain ⟨⟨a, t'⟩, hitem, hlast⟩ := bind_eq_ok.mp h
      cases hlast
      refine .changed (Ledger.onWorkItem_changes (fun jobId f f' b _ hop => ?_) hitem)
      rcases failWork_fileStep (unvalued_eq_ok.mp hop) with ⟨rfl, -⟩ | hstep | ⟨-, hstep⟩
      · exact Or.inl rfl
      · exact Or.inr ⟨_, by simp, Or.inl rfl, hstep⟩
      · exact Or.inr ⟨_, by simp, Or.inr rfl, hstep⟩

/-- Every successful call changes files, accepts a job or writes a relationship. -/
theorem Call.perform_performed {c : Call} (hs : s.Linked) (h : c.perform d s = .ok t) :
    Performed d s c t := by
  cases c with
  | ledger c => exact LedgerCall.perform_performed hs h
  | custody scope c => exact .changed (CustodyCall.perform_changes h)

theorem Performed.linked {c : Call} (hs : s.Linked) (h : Performed d s c t) : t.Linked := by
  cases h with
  | changed h => exact h.linked hs
  | accepted h => exact h.linked
  | related hlinked => exact hlinked

theorem Ledger.step_of_error {c : Call} {error : LedgerError} (h : c.perform d s = .error error) :
    s.step d c = s := by
  unfold Ledger.step
  rw [h]

theorem Ledger.step_of_ok {c : Call} (h : c.perform d s = .ok t) : s.step d c = t := by
  unfold Ledger.step
  rw [h]

theorem Ledger.step_cases (d : Deployment) (s : Ledger) (c : Call) (hs : s.Linked) :
    s.step d c = s ∨ Performed d s c (s.step d c) := by
  unfold Ledger.step
  cases h : c.perform d s with
  | error e => exact Or.inl rfl
  | ok t => exact Or.inr (Call.perform_performed hs h)

theorem Ledger.linked_step (d : Deployment) (s : Ledger) (c : Call) (hs : s.Linked) :
    (s.step d c).Linked := by
  rcases Ledger.step_cases d s c hs with hsame | hperformed
  · rwa [hsame]
  · exact hperformed.linked hs

theorem Ledger.linked_run (d : Deployment) (calls : List Call) (hs : s.Linked) :
    (StateMachine.run (Ledger.step d) s calls).Linked :=
  StateMachine.run_induction (fun s c hs => Ledger.linked_step d s c hs) hs calls

end Perform

section Files

open StateMachine

variable {d : Deployment} {s : Ledger} {jobId : String} {f f' : JobFile}

theorem Ledger.step_file (hs : s.Linked) (c : Call) (hf : s.file? jobId = some f) :
    ∃ f', (s.step d c).file? jobId = some f' ∧ FileRun (c.Allows jobId) f f' := by
  rcases Ledger.step_cases d s c hs with hsame | hperformed
  · rw [hsame]
    exact ⟨f, hf, .refl⟩
  · generalize s.step d c = t at hperformed
    cases hperformed with
    | changed h => exact h.file_run hf
    | accepted h =>
        refine ⟨f, ?_, .refl⟩
        rw [h.files, if_neg, hf]
        rintro rfl
        have hknown := (Ledger.file?_eq_some_iff.mp hf).1
        rw [h.fresh] at hknown
        cases hknown
    | related => exact ⟨f, hf, .refl⟩

/-- A file found after a call was there before it, or was accepted by it. -/
theorem Ledger.file_of_step (hs : s.Linked) (c : Call)
    (hf' : (s.step d c).file? jobId = some f') :
    (∃ f, s.file? jobId = some f ∧ FileRun (c.Allows jobId) f f') ∨
      s.file? jobId = none ∧ Opened f' := by
  cases hf : s.file? jobId with
  | some f =>
      obtain ⟨f₁, hf₁, hrun⟩ := Ledger.step_file (d := d) hs c hf
      rw [hf'] at hf₁
      cases hf₁
      exact Or.inl ⟨f, rfl, hrun⟩
  | none =>
      refine Or.inr ⟨rfl, ?_⟩
      rcases Ledger.step_cases d s c hs with hsame | hperformed
      · rw [hsame, hf] at hf'
        cases hf'
      · generalize s.step d c = t at hperformed hf'
        cases hperformed with
        | changed h =>
            rcases h.file jobId with ⟨-, hnone⟩ | ⟨f, f₁, hsome, -, -⟩
            · rw [hf'] at hnone
              cases hnone
            · rw [hf] at hsome
              cases hsome
        | accepted h =>
            rw [h.files] at hf'
            split at hf'
            · cases hf'
              exact h.opened
            · rw [hf] at hf'
              cases hf'
        | related =>
            have hsame : s.file? jobId = some f' := hf'
            rw [hf] at hsame
            cases hsame

theorem Ledger.run_file (hs : s.Linked) (calls : List Call) (hf : s.file? jobId = some f) :
    ∃ f', (run (Ledger.step d) s calls).file? jobId = some f' ∧
      FileRun (fun e => ∃ c ∈ calls, c.Allows jobId e) f f' := by
  induction calls generalizing s f with
  | nil => exact ⟨f, hf, .refl⟩
  | cons c calls ih =>
      obtain ⟨f₁, hf₁, hrun₁⟩ := Ledger.step_file (d := d) hs c hf
      obtain ⟨f₂, hf₂, hrun₂⟩ := ih (Ledger.linked_step d s c hs) hf₁
      refine ⟨f₂, hf₂, (hrun₁.mono fun e he => ⟨c, List.mem_cons_self, he⟩).trans
        (hrun₂.mono fun e ⟨c', hc', he⟩ => ⟨c', List.mem_cons_of_mem c hc', he⟩)⟩

theorem FileRun.invariant {allowed : Effect → Prop} {I : JobFile → Prop}
    (hstep : ∀ e f f', allowed e → FileStep e f f' → I f → I f') (h : FileRun allowed f f')
    (hf : I f) : I f' := by
  induction h with
  | refl => exact hf
  | tail _ hchange ih =>
      obtain ⟨e, he, hs⟩ := hchange
      exact hstep e _ _ he hs ih

/-- An invariant of files that holds at acceptance and that the effects of the calls keep holds of
every file after the calls. -/
theorem Ledger.file_invariant_of_allows {I : JobFile → Prop} {P : Effect → Prop}
    (hopen : ∀ f, Opened f → I f) (hstep : ∀ e f f', P e → FileStep e f f' → I f → I f')
    (d : Deployment) (calls : List Call) (hcalls : ∀ c ∈ calls, ∀ j e, c.Allows j e → P e) (hs : s.Linked)
    (hI : ∀ j f, s.file? j = some f → I f)
    (hf : (run (Ledger.step d) s calls).file? jobId = some f) : I f := by
  induction calls generalizing s with
  | nil => exact hI jobId f hf
  | cons c calls ih =>
      refine ih (fun c' hc' => hcalls c' (List.mem_cons_of_mem c hc')) (Ledger.linked_step d s c hs)
        (fun j g hg => ?_) hf
      rcases Ledger.file_of_step hs c hg with ⟨g₀, hg₀, hrun⟩ | ⟨-, hopened⟩
      · refine hrun.invariant (fun e g g' he => hstep e g g' ?_) (hI j g₀ hg₀)
        exact hcalls c List.mem_cons_self j e he
      · exact hopen g hopened

/-- An invariant of files that holds at acceptance and that every effect keeps holds of every
file in every run. -/
theorem Ledger.file_invariant {I : JobFile → Prop} (hopen : ∀ f, Opened f → I f)
    (hstep : ∀ e f f', FileStep e f f' → I f → I f') (d : Deployment) (calls : List Call)
    (hf : (run (Ledger.step d) Ledger.empty calls).file? jobId = some f) : I f := by
  refine Ledger.file_invariant_of_allows hopen (fun e f f' _ => hstep e f f') d calls
    (fun _ _ _ _ _ => trivial) Ledger.linked_empty (fun j g hg => ?_) hf
  cases hg

end Files

end LotusReport.Jobs
