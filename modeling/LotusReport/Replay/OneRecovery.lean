import LotusReport.Replay.Services

/-!
# One replacement for a failed job

A source that both recovery services can reach may be replaced by either of
them. The guard of a replay looks at `failed_work_replay` relationships only,
and the replay of a batch item is subject to no guard and resolves no archive
outcome. A failed job keeps at most one outstanding replacement as long as no
call finds another one standing beside that which it makes.
-/

namespace LotusReport.Replay

open Encoding Fallible Relational StateMachine Jobs Batch

section Statements

/-- The relationships of the two recoveries. -/
def recoveryTypes : List ReportJobRelationshipType := [.failedWorkReplay, .batchItemReplay]

variable (d : Deployment) (jobs : Jobs.Ledger)

/-- The jobs derived from a source through relationships of the given types. -/
def derivedJobs (types : List ReportJobRelationshipType) (source : String) : List String :=
  (jobs.relationships.rows.filter fun r => decide (r.relationshipType ∈ types) &&
    r.sourceReportJobId == source).map (·.derivedReportJobId)

/-- The job is in flight or archived. -/
def outstanding (jobId : String) : Bool :=
  (jobs.jobs.find? jobId).any fun job => job.status.inFlight || job.status == .archived

/-- No job that either recovery derived from the source is outstanding, one apart. -/
def FreeBeside (source derived : String) : Prop :=
  ∀ b ∈ derivedJobs jobs recoveryTypes source, b ≠ derived → outstanding jobs b = false

/-- A failed job is the source of at most one derived job in flight or archived. -/
def OneOutstanding : Prop :=
  ∀ source b c, b ∈ derivedJobs jobs recoveryTypes source →
    c ∈ derivedJobs jobs recoveryTypes source → outstanding jobs b = true →
    outstanding jobs c = true → b = c

/-- The call carries a key under which its tenant has no request yet. -/
def novelKey (call : CreateCall) : Bool :=
  match submission d call with
  | .ok sub => (jobs.requests.lookup? (call.callerContext.tenantId, sub.key)).isNone
  | .error _ => false

/-- The call finds no outstanding replacement beside the one it makes: a replay that its guard
admits finds none derived by a batch item, the record of a recovery none beside an outstanding
derived job, and the adoption of a document none beside the failed job it archives. -/
def FindsFree : LedgerCall → Prop
  | .create call => novelKey d jobs call = true → ∀ source ∈ call.replay.map Prod.fst,
      (jobs.replayGuard source).isOk = true →
        ∀ b ∈ derivedJobs jobs [.batchItemReplay] source, outstanding jobs b = false
  | .upsertJobRelationship call => call.relationshipType ∈ recoveryTypes →
      outstanding jobs call.derivedJobId = true →
        FreeBeside jobs call.sourceJobId call.derivedJobId
  | .mark jobId (.archived _ _) _ =>
      (jobs.jobs.find? jobId).any (fun job => job.status == .failed) = true →
        ∀ r ∈ jobs.relationships.rows, r.relationshipType ∈ recoveryTypes →
          r.derivedReportJobId = jobId → FreeBeside jobs r.sourceReportJobId jobId
  | _ => True

/-- The calls under which the two recoveries agree: none finds another outstanding replacement, and
the replay of a batch item does not derive a job while the archive outcome of its source is open
and unconfirmed. -/
def Agreeing (s : ReplayState) : ReplayCall → Prop
  | .createDerivedJob sourceJobId call => FindsFree d s.jobs (.create call) ∧
      (call.replay = none → novelKey d s.jobs call = true → s.unresolved sourceJobId = false)
  | .mark jobId mark context => FindsFree d s.jobs (.mark jobId mark context)
  | .ledger call => FindsFree d s.jobs call
  | _ => True

/-- The two recoveries agree on one replacement. -/
structure OneRecovery (s : ReplayState) : Prop where
  /-- No source has two derived jobs in flight or archived. -/
  single : OneOutstanding s.jobs
  /-- No job was derived while the archive outcome of its source was open and unconfirmed. -/
  resolved : s.strayed = []

end Statements

section Ledger

variable {d : Deployment} {s t : Jobs.Ledger} {types : List ReportJobRelationshipType}
  {source a b jobId : String} {f f' : JobFile}

theorem mem_derivedJobs : b ∈ derivedJobs s types source ↔ ∃ r ∈ s.relationships.rows,
    r.relationshipType ∈ types ∧ r.sourceReportJobId = source ∧ r.derivedReportJobId = b := by
  simp only [derivedJobs, List.mem_map, List.mem_filter, Bool.and_eq_true, decide_eq_true_eq,
    beq_iff_eq]
  constructor
  · rintro ⟨r, ⟨hr, htype, hsource⟩, hderived⟩
    exact ⟨r, hr, htype, hsource, hderived⟩
  · rintro ⟨r, hr, htype, hsource, hderived⟩
    exact ⟨r, ⟨hr, htype, hsource⟩, hderived⟩

/-- A status in flight or archived. -/
def Outstanding (status : ReportJobStatus) : Prop := status.inFlight = true ∨ status = .archived

theorem outstanding_iff (hf : s.file? jobId = some f) :
    outstanding s jobId = true ↔ Outstanding f.job.status := by
  simp [outstanding, Outstanding, (Ledger.file?_eq_some_iff.mp hf).1]

theorem exists_file_of_outstanding (hs : s.Linked) (h : outstanding s jobId = true) :
    ∃ f, s.file? jobId = some f := by
  obtain ⟨job, hjob, -⟩ := (Option.any_eq_true _ _).mp h
  obtain ⟨f, hf, -⟩ := hs.file?_of_find? hjob
  exact ⟨f, hf⟩

theorem exists_of_mem_derivedJobs (hs : s.Linked) (h : b ∈ derivedJobs s types source) :
    ∃ job, s.jobs.find? b = some job := by
  obtain ⟨r, hr, -, -, rfl⟩ := mem_derivedJobs.mp h
  exact hs.derived r hr

/-- Where no edge is added and no derived job becomes outstanding, the sources stay as they are. -/
theorem OneOutstanding.of_subset (h : OneOutstanding s)
    (hedges : ∀ a b, b ∈ derivedJobs t recoveryTypes a → b ∈ derivedJobs s recoveryTypes a)
    (hout : ∀ a b, b ∈ derivedJobs s recoveryTypes a → outstanding t b = true →
      outstanding s b = true) : OneOutstanding t := by
  intro source b c hb hc hbout hcout
  apply h source b c (hedges source b hb) (hedges source c hc)
  · exact hout source b (hedges source b hb) hbout
  · exact hout source c (hedges source c hc) hcout

/-- An edge to a job is added: the source has no other outstanding derived job. -/
theorem OneOutstanding.of_edge (h : OneOutstanding s)
    (hedges : ∀ x y, y ∈ derivedJobs t recoveryTypes x →
      y ∈ derivedJobs s recoveryTypes x ∨ x = a ∧ y = b)
    (hout : ∀ x y, y ∈ derivedJobs s recoveryTypes x → outstanding t y = true →
      outstanding s y = true)
    (hfree : outstanding t b = true → FreeBeside s a b) : OneOutstanding t := by
  have hnew : ∀ y, y ∈ derivedJobs s recoveryTypes a → outstanding t b = true →
      outstanding t y = true → y = b := by
    intro y hy hbout hyout
    by_contra hne
    have hquiet := hfree hbout y hy hne
    rw [hout a y hy hyout] at hquiet
    cases hquiet
  intro source x y hx hy hxout hyout
  rcases hedges source x hx with hxold | ⟨rfl, rfl⟩
  · rcases hedges source y hy with hyold | ⟨rfl, rfl⟩
    · exact h source x y hxold hyold (hout source x hxold hxout) (hout source y hyold hyout)
    · exact hnew x hxold hyout hxout
  · rcases hedges source y hy with hyold | ⟨-, rfl⟩
    · exact (hnew y hyold hxout hyout).symm
    · rfl

theorem OneOutstanding.of_revived (h : OneOutstanding s)
    (hedges : ∀ x y, y ∈ derivedJobs t recoveryTypes x → y ∈ derivedJobs s recoveryTypes x)
    (hout : ∀ y, y ≠ jobId → outstanding t y = true → outstanding s y = true)
    (hfree : ∀ source, jobId ∈ derivedJobs s recoveryTypes source → FreeBeside s source jobId) :
    OneOutstanding t := by
  intro source x y hx hy hxout hyout
  have hxold := hedges source x hx
  have hyold := hedges source y hy
  by_cases hxj : x = jobId
  · by_contra hne
    have hyj : y ≠ jobId := fun hyj => hne (hxj.trans hyj.symm)
    have hquiet := hfree source (hxj ▸ hxold) y hyold hyj
    rw [hout y hyj hyout] at hquiet
    cases hquiet
  · by_cases hyj : y = jobId
    · have hquiet := hfree source (hyj ▸ hyold) x hxold hxj
      rw [hout x hxj hxout] at hquiet
      cases hquiet
    · exact h source x y hxold hyold (hout x hxj hxout) (hout y hyj hyout)

theorem derivedJobs_congr (h : t.relationships = s.relationships) :
    derivedJobs t types source = derivedJobs s types source := by
  unfold derivedJobs
  rw [h]

section Effects

variable {e : Effect}

theorem outstanding_of_fileStep (h : FileStep e f f') (he : e.OfLedger) (hmoved : e ≠ .moved)
    (hout : Outstanding f'.job.status) : Outstanding f.job.status := by
  cases h with
  | record | park | claim | claimRequired | complete | settle | defer | retry | exhaustTerminal
  | exhaustSettled | exhaustParked | enqueue => exact hout
  | move => exact absurd rfl hmoved
  | cancel => rcases hout with hflight | harchived <;> contradiction
  | exhaustFailed _ _ _ htarget =>
      have hfailed : Outstanding .failed := htarget ▸ hout
      rcases hfailed with hflight | harchived <;> contradiction
  | offer | reserve | refuse | archiveRequest | wait | schedule | confirm | resume => exact he.elim

theorem outstanding_of_allowed {current target : ReportJobStatus}
    (hallowed : isReportJobTransitionAllowed current target = true) (hout : Outstanding target) :
    Outstanding current ∨ current = .failed ∧ target = .archived := by
  rcases hout with hflight | rfl
  · exact Or.inl (Or.inl (inFlight_of_transitionAllowed hallowed hflight))
  · cases current with
    | completed | archiving => exact Or.inl (Or.inl rfl)
    | failed => exact Or.inr ⟨rfl, rfl⟩
    | _ => cases hallowed

theorem moved_of_allows {c : LedgerCall} (h : c.Allows jobId .moved) :
    ∃ mark context, c = .mark jobId mark context := by
  cases c with
  | mark target mark context => exact ⟨mark, context, by rw [h.1]⟩
  | _ => simp [LedgerCall.Allows] at h

end Effects

/-- Changes without a transition leave every source with what it had. -/
theorem OneOutstanding.changes (h : OneOutstanding s) (hs : s.Linked) {c : LedgerCall}
    (hmark : ∀ jobId mark context, c ≠ .mark jobId mark context)
    (hchanges : s.Changes (Call.Allows (.ledger c)) t) : OneOutstanding t := by
  apply h.of_subset
  · intro a b hb
    rwa [derivedJobs_congr hchanges.relationships] at hb
  · intro a b _ hout
    obtain ⟨f', hf'⟩ := exists_file_of_outstanding (hchanges.linked hs) hout
    rcases hchanges.file b with ⟨-, hnone⟩ | ⟨f, f₁, hf, hf₁, hrun⟩
    · rw [hf'] at hnone
      cases hnone
    · rw [hf'] at hf₁
      cases hf₁
      rw [outstanding_iff hf]
      rw [outstanding_iff hf'] at hout
      refine hrun.invariant (I := fun g => Outstanding g.job.status → Outstanding f.job.status)
        (fun e g g' he hstep hg hg' => ?_) id hout
      apply hg
      apply outstanding_of_fileStep hstep (LedgerCall.ofLedger he) _ hg'
      rintro rfl
      obtain ⟨mark, context, rfl⟩ := moved_of_allows he
      exact hmark b mark context rfl

theorem toStatus_eq_archived {mark : Mark} {now : Instant}
    (h : (mark.transition now).toStatus = .archived) :
    ∃ archiveRequestId archiveDocumentId, mark = .archived archiveRequestId archiveDocumentId := by
  cases mark with
  | archived archiveRequestId archiveDocumentId => exact ⟨_, _, rfl⟩
  | _ => cases h

/-- A transition that finds the other derived jobs settled keeps the sources. -/
theorem OneOutstanding.mark (h : OneOutstanding s) (hs : s.Linked) {mark : Mark}
    {context : CallContext} (hfree : FindsFree d s (.mark jobId mark context))
    (hperform : (LedgerCall.mark jobId mark context).perform d s = .ok t) : OneOutstanding t := by
  obtain ⟨⟨⟨⟩, t'⟩, hjob, hlast⟩ := bind_eq_ok.mp hperform
  cases hlast
  obtain ⟨f, f', hf, hdone, rfl⟩ := Ledger.onJob_eq_ok hjob
  have hfiles : ∀ {e}, FileStep e f f' → e ≠ .enqueued → ∀ k,
      (s.store f').file? k = if jobId = k then some f' else s.file? k := by
    intro e hstep hne k
    exact Ledger.file?_store hf hstep.continues (Ledger.freshWork_of_ne hstep hne s) k
  have hkept : ∀ {e}, FileStep e f f' → e ≠ .enqueued → ∀ y, y ≠ jobId →
      outstanding (s.store f') y = true → outstanding s y = true := by
    intro e hstep hne y hy hout
    obtain ⟨g, hg⟩ := exists_file_of_outstanding (Ledger.linked_store hs hf hstep.continues) hout
    rw [outstanding_iff hg] at hout
    rw [hfiles hstep hne, if_neg (Ne.symm hy)] at hg
    exact (outstanding_iff hg).mpr hout
  have hsame : ∀ {e}, FileStep e f f' → e ≠ .enqueued →
      (Outstanding f'.job.status → Outstanding f.job.status) → OneOutstanding (s.store f') := by
    intro e hstep hne hstatus
    apply h.of_subset
    · exact fun a b hb => hb
    · intro a b _ hout
      by_cases hb : b = jobId
      · subst hb
        have hg : (s.store f').file? b = some f' := by rw [hfiles hstep hne, if_pos rfl]
        rw [outstanding_iff hg] at hout
        exact (outstanding_iff hf).mpr (hstatus hout)
      · exact hkept hstep hne b hb hout
  rcases transitionJob_eq_ok (unvalued_eq_ok.mp hdone) with
    ⟨rfl, -⟩ | ⟨-, hpark⟩ | ⟨hguard, hallowed, hadmitted, e, he, rfl⟩
  · rwa [Ledger.store_self hf]
  · exact hsame hpark (by simp) (outstanding_of_fileStep hpark trivial (by simp))
  · have hstep : FileStep .moved f (f.movedFile (mark.transition context.now) context.now e) :=
      .move (mark.transition_plain context.now) hguard hallowed hadmitted he
    by_cases hrevived : f.job.status = .failed ∧
        (mark.transition context.now).toStatus = .archived
    · obtain ⟨archiveRequestId, archiveDocumentId, rfl⟩ := toStatus_eq_archived hrevived.2
      apply h.of_revived
      · exact fun a b hb => hb
      · exact hkept hstep (by simp)
      · intro source hsource
        obtain ⟨r, hr, htype, rfl, hderived⟩ := mem_derivedJobs.mp hsource
        apply hfree _ r hr htype hderived
        simp [(Ledger.file?_eq_some_iff.mp hf).1, hrevived.1]
    · apply hsame hstep (by simp)
      intro hout
      exact (outstanding_of_allowed hallowed hout).resolve_right hrevived

theorem outstanding_of_accepts {c : CreateCall} {sub : Submission}
    {replayed : Option (JobRow × String)} (hs : s.Linked) (haccepts : Accepts d s c sub replayed f t)
    (hb : b ∈ derivedJobs s types a) (hout : outstanding t b = true) : outstanding s b = true := by
  have hne : c.jobId ≠ b := by
    rintro rfl
    obtain ⟨job, hjob⟩ := exists_of_mem_derivedJobs hs hb
    rw [haccepts.fresh] at hjob
    cases hjob
  obtain ⟨g, hg⟩ := exists_file_of_outstanding haccepts.linked hout
  rw [outstanding_iff hg] at hout
  rw [haccepts.files, if_neg hne] at hg
  exact (outstanding_iff hg).mpr hout

/-- A replay that its guard admits finds no outstanding job that it derived from its source. -/
theorem freeBeside_of_guard {row : JobRow} (hs : s.Linked) (hguard : s.replayGuard source = .ok row)
    (hbatch : ∀ b ∈ derivedJobs s [.batchItemReplay] source, outstanding s b = false) :
    FreeBeside s source jobId := by
  intro b hb _
  obtain ⟨r, hr, htype, hsource, hderived⟩ := mem_derivedJobs.mp hb
  by_cases hreplay : r.relationshipType = .failedWorkReplay
  · have hchild : s.Replays source b := Ledger.replays_iff.mpr ⟨r, hr, hreplay, hsource, hderived⟩
    obtain ⟨job, hjob⟩ := exists_of_mem_derivedJobs hs hb
    have hstatus : job.status = .failed ∨ job.status = .cancelled := by
      by_cases hne : b = source
      · obtain ⟨hfound, hfailed, -⟩ := Ledger.replayGuard_eq_ok hguard
        rw [hne, hfound] at hjob
        cases hjob
        exact Or.inl hfailed
      · exact Ledger.status_of_child hguard hchild hne hjob
    rcases hstatus with hstatus | hstatus <;> simp [outstanding, hjob, hstatus,
      ReportJobStatus.inFlight]
  · apply hbatch
    refine mem_derivedJobs.mpr ⟨r, hr, ?_, hsource, hderived⟩
    simp only [recoveryTypes, List.mem_cons, List.not_mem_nil, or_false] at htype
    exact List.mem_singleton.mpr (htype.resolve_left hreplay)

theorem OneOutstanding.accepts {c : CreateCall} {sub : Submission}
    {replayed : Option (JobRow × String)} (h : OneOutstanding s) (hs : s.Linked)
    (hfree : FindsFree d s (.create c)) (haccepts : Accepts d s c sub replayed f t) :
    OneOutstanding t := by
  have hnovel : novelKey d s c = true := by
    simp [novelKey, haccepts.submitted, haccepts.novel]
  cases replayed with
  | none =>
      apply h.of_subset
      · intro a b hb
        rwa [derivedJobs_congr (haccepts.relationships.trans rfl)] at hb
      · exact fun a b hb => outstanding_of_accepts hs haccepts hb
  | some replayed =>
      obtain ⟨row, reason⟩ := replayed
      obtain ⟨source, hreplay, hguard⟩ := Ledger.replaySource_eq_some haccepts.guarded
      have hid : row.reportJobId = source := Table.key_of_find? (Ledger.replayGuard_eq_ok hguard).1
      apply h.of_edge (a := source) (b := c.jobId)
      · intro x y hy
        obtain ⟨r, hr, htype, hsource, hderived⟩ := mem_derivedJobs.mp hy
        rw [haccepts.relationships] at hr
        rcases Ledger.mem_relate hr with hold | ⟨row', reason', hsome, rfl⟩
        · exact Or.inl (mem_derivedJobs.mpr ⟨r, hold, htype, hsource, hderived⟩)
        · cases hsome
          exact Or.inr ⟨hsource.symm.trans hid, hderived.symm⟩
      · exact fun x y hy => outstanding_of_accepts hs haccepts hy
      · intro _
        exact freeBeside_of_guard hs hguard (hfree hnovel source (by simp [hreplay])
          (by simp [hguard, Except.isOk, Except.toBool]))

/-- The record of a recovery that finds no outstanding replacement keeps the sources. -/
theorem OneOutstanding.related {c : RelationshipCall}
    {relationships : Table RelationshipRow.pair RelationshipRow.pair} (h : OneOutstanding s)
    (hfree : FindsFree d s (.upsertJobRelationship c))
    (hrows : relationships.rows = s.relationships.rows ++ [c.row (dtToText c.now)] ∨
      ∃ r, s.relationships.find? c.pair = some r ∧
        relationships = s.relationships.put (c.row r.createdAt)) :
    OneOutstanding { s with relationships := relationships } := by
  have hpairs : ∀ r ∈ relationships.rows, r.pair = c.pair ∨
      ∃ r' ∈ s.relationships.rows, r'.pair = r.pair := by
    intro r hr
    rcases hrows with hrows | ⟨r₀, -, rfl⟩
    · rw [hrows, List.mem_append, List.mem_singleton] at hr
      rcases hr with hold | rfl
      · exact Or.inr ⟨r, hold, rfl⟩
      · exact Or.inl rfl
    · simp only [Table.rows_put, List.mem_map] at hr
      obtain ⟨r₁, hr₁, rfl⟩ := hr
      exact Or.inr ⟨r₁, hr₁, (Table.key_written _ _).symm⟩
  by_cases htype : c.relationshipType ∈ recoveryTypes
  · apply h.of_edge (a := c.sourceJobId) (b := c.derivedJobId)
    · intro x y hy
      obtain ⟨r, hr, hr_type, rfl, rfl⟩ := mem_derivedJobs.mp hy
      rcases hpairs r hr with hpair | ⟨r', hr', hpair⟩
      · simp only [RelationshipRow.pair, RelationshipCall.pair, Prod.mk.injEq] at hpair
        exact Or.inr ⟨hpair.1, hpair.2.1⟩
      · simp only [RelationshipRow.pair, Prod.mk.injEq] at hpair
        exact Or.inl (mem_derivedJobs.mpr ⟨r', hr', hpair.2.2 ▸ hr_type, hpair.1, hpair.2.1⟩)
    · exact fun x y _ hout => hout
    · exact hfree htype
  · apply h.of_subset
    · intro x y hy
      obtain ⟨r, hr, hr_type, rfl, rfl⟩ := mem_derivedJobs.mp hy
      rcases hpairs r hr with hpair | ⟨r', hr', hpair⟩
      · simp only [RelationshipRow.pair, RelationshipCall.pair, Prod.mk.injEq] at hpair
        exact absurd (hpair.2.2 ▸ hr_type) htype
      · simp only [RelationshipRow.pair, Prod.mk.injEq] at hpair
        exact mem_derivedJobs.mpr ⟨r', hr', hpair.2.2 ▸ hr_type, hpair.1, hpair.2.1⟩
    · exact fun x y _ hout => hout

/-- A call that finds no other outstanding replacement keeps the sources. -/
theorem OneOutstanding.step (h : OneOutstanding s) (hs : s.Linked) {c : LedgerCall}
    (hfree : FindsFree d s c) : OneOutstanding (s.step d (.ledger c)) := by
  by_cases hmark : ∃ jobId mark context, c = .mark jobId mark context
  · obtain ⟨jobId, mark, context, rfl⟩ := hmark
    cases hperform : (Call.ledger (.mark jobId mark context)).perform d s with
    | error error => rwa [Ledger.step_of_error hperform]
    | ok t =>
        rw [Ledger.step_of_ok hperform]
        exact h.mark hs hfree hperform
  · rcases Ledger.step_cases d s (.ledger c) hs with hsame | hperformed
    · rwa [hsame]
    · generalize s.step d (.ledger c) = t at hperformed
      cases hperformed with
      | changed hchanges =>
          exact h.changes hs (fun jobId mark context heq => hmark ⟨jobId, mark, context, heq⟩)
            hchanges
      | accepted haccepts => exact h.accepts hs hfree haccepts
      | related _ hrows => exact h.related hfree hrows

end Ledger

section Settlement

variable {d : Deployment} {s : Jobs.Ledger} {e : Effect} {f f' f'' : JobFile} {jobId : String}

/-- The job has failed, or is archived or cancelled. -/
def Settled (f : JobFile) : Prop := f.job.status ∈ [ReportJobStatus.failed, .archived, .cancelled]

/-- The rows of a settled job later on: if it still is failed, it has failed as before. -/
structure SettledAs (f f' : JobFile) : Prop where
  settled : Settled f'
  failed : f'.job.status = .failed →
    f.job.status = .failed ∧ f'.job.failureCategory = f.job.failureCategory

theorem SettledAs.refl (h : Settled f) : SettledAs f f := ⟨h, fun hfailed => ⟨hfailed, rfl⟩⟩

theorem SettledAs.trans (h : SettledAs f f') (h' : SettledAs f' f'') : SettledAs f f'' := by
  refine ⟨h'.settled, fun hfailed => ?_⟩
  obtain ⟨hfailed', hcategory'⟩ := h'.failed hfailed
  obtain ⟨hfailed, hcategory⟩ := h.failed hfailed'
  exact ⟨hfailed, hcategory'.trans hcategory⟩

theorem settledAs_of_status (hsettled : Settled f') (hstatus : f'.job.status ≠ .failed) :
    SettledAs f f' :=
  ⟨hsettled, fun hfailed => absurd hfailed hstatus⟩

theorem archived_of_settled {current target : ReportJobStatus}
    (hcurrent : current ∈ [ReportJobStatus.failed, .archived, .cancelled])
    (hallowed : isReportJobTransitionAllowed current target = true) : target = .archived := by
  simp only [List.mem_cons, List.not_mem_nil, or_false] at hcurrent
  rcases hcurrent with rfl | hfinal
  · cases target <;> first | rfl | cases hallowed
  · rw [not_transitionAllowed_of_final (by tauto)] at hallowed
    cases hallowed

theorem settledAs_of_fileStep (h : FileStep e f f') (he : e.OfLedger) (hf : Settled f) :
    SettledAs f f' := by
  cases h with
  | record | park | claim | claimRequired | complete | settle | defer | retry | exhaustTerminal
  | exhaustSettled | exhaustParked | enqueue => exact ⟨hf, fun hfailed => ⟨hfailed, rfl⟩⟩
  | @move _ t _ _ _ _ hallowed =>
      have htarget : t.toStatus = .archived := archived_of_settled hf hallowed
      apply settledAs_of_status
      · simp [Settled, JobFile.movedFile, transitionedJob, htarget]
      · simp [JobFile.movedFile, transitionedJob, htarget]
  | cancel =>
      apply settledAs_of_status
      · simp [Settled, cancelledJob]
      · simp [cancelledJob]
  | exhaustFailed _ _ _ htarget _ hallowed => cases archived_of_settled hf hallowed
  | offer | reserve | refuse | archiveRequest | wait | schedule | confirm | resume => exact he.elim

theorem settledAs_step (hs : s.Linked) (c : LedgerCall) (hf : s.file? jobId = some f)
    (hsettled : Settled f) :
    ∃ f', (s.step d (.ledger c)).file? jobId = some f' ∧ SettledAs f f' := by
  obtain ⟨f', hf', hrun⟩ := Ledger.step_file (d := d) hs (.ledger c) hf
  refine ⟨f', hf', hrun.invariant (fun e g g' he hstep hg => ?_) (SettledAs.refl hsettled)⟩
  exact hg.trans (settledAs_of_fileStep hstep (LedgerCall.ofLedger he) hg.settled)

end Settlement

section Calls

variable {d : Deployment} {s t u : ReplayState}

/-- The invariant of the recovery system. -/
structure Recovering (s : ReplayState) : Prop where
  linked : s.jobs.Linked
  single : OneOutstanding s.jobs
  resolved : s.strayed = []

/-- The store goes on: settled jobs stay settled, and the archive's denials stay on record. -/
structure ReplayState.Later (s t : ReplayState) : Prop where
  settled : ∀ jobId f, s.jobs.file? jobId = some f → Settled f →
    ∃ f', t.jobs.file? jobId = some f' ∧ SettledAs f f'
  absent : ∀ jobId ∈ s.confirmedAbsent, jobId ∈ t.confirmedAbsent

theorem ReplayState.Later.refl (s : ReplayState) : s.Later s :=
  ⟨fun _ f hf hsettled => ⟨f, hf, .refl hsettled⟩, fun _ h => h⟩

theorem ReplayState.Later.trans (h : s.Later t) (h' : t.Later u) : s.Later u := by
  refine ⟨fun jobId f hf hsettled => ?_, fun jobId hj => h'.absent jobId (h.absent jobId hj)⟩
  obtain ⟨f', hf', hthen⟩ := h.settled jobId f hf hsettled
  obtain ⟨f'', hf'', hthen'⟩ := h'.settled jobId f' hf' hthen.settled
  exact ⟨f'', hf'', hthen.trans hthen'⟩

/-- The discipline of recovery: calls under which the two services agree. -/
def recovering (d : Deployment) : Discipline ReplayState ReplayCall where
  Inv := Recovering
  Later := ReplayState.Later
  Allowed := Agreeing d
  refl := ReplayState.Later.refl
  trans := ReplayState.Later.trans

theorem later_step (hs : Recovering s) (c : LedgerCall) (strayed : List String) :
    s.Later { s with jobs := s.jobs.step d (.ledger c), strayed := strayed } :=
  ⟨fun _ _ hf hsettled => settledAs_step hs.linked c hf hsettled, fun _ h => h⟩

theorem Recovering.step (hs : Recovering s) {c : LedgerCall} (hfree : FindsFree d s.jobs c) :
    Recovering { s with jobs := s.jobs.step d (.ledger c) } :=
  ⟨Ledger.linked_step d s.jobs (.ledger c) hs.linked, hs.single.step hs.linked hfree, hs.resolved⟩

/-- A creation that returns a job which was not there came under a new key. -/
theorem novelKey_of_create {jobs jobs' : Jobs.Ledger} {call : CreateCall} {record : JobFile}
    (hs : jobs.Linked) (h : jobs.createReportJob d call = .ok (record, jobs'))
    (hnew : (jobs.jobs.find? record.job.reportJobId).isNone = true) :
    novelKey d jobs call = true := by
  rcases Ledger.createReportJob_eq_ok hs h with
    ⟨sub, existing, -, -, hexisting⟩ | ⟨sub, source, f, haccepts⟩
  · obtain ⟨hload, -⟩ := Ledger.acceptExisting_eq_ok hexisting
    have hfile := (Ledger.loadByRequestId_eq_some hload).1
    rw [(Ledger.file?_eq_some_iff.mp hfile).1] at hnew
    cases hnew
  · simp [novelKey, haccepts.submitted, haccepts.novel]

/-- A creation that finds no outstanding replacement, and whose source is resolved where it is
new. -/
theorem create_keeps {sourceJobId : String} {call : CreateCall} (hs : Recovering s)
    (hfree : FindsFree d s.jobs (.create call))
    (hresolved : novelKey d s.jobs call = true → s.unresolved sourceJobId = false) :
    Recovering (s.perform d (.createDerivedJob sourceJobId call)).1 ∧
      s.Later (s.perform d (.createDerivedJob sourceJobId call)).1 := by
  simp only [ReplayState.perform]
  cases hcreate : s.jobs.createReportJob d call with
  | error error => exact ⟨hs, .refl s⟩
  | ok result =>
      obtain ⟨record, jobs⟩ := result
      have hstep : s.jobs.step d (.ledger (.create call)) = jobs := by
        apply Ledger.step_of_ok
        simp [Call.perform, LedgerCall.perform, hcreate]
      have hkept := hs.step hfree
      rw [hstep] at hkept
      refine ⟨⟨hkept.linked, hkept.single, ?_⟩, hstep ▸ later_step hs (.create call) _⟩
      refine (if_neg ?_).trans hs.resolved
      intro hstrayed
      rw [Bool.and_eq_true] at hstrayed
      rw [hresolved (novelKey_of_create hs.linked hcreate hstrayed.1)] at hstrayed
      cases hstrayed.2

/-- The call is not the creation of a guarded replay. -/
def NotReplay : ReplayCall → Prop
  | .createDerivedJob _ call => call.replay = none
  | _ => True

/-- Every agreeing call beside the creations of guarded replays keeps the discipline. -/
theorem call_keeps (op : ReplayCall) (s : ReplayState) (hop : NotReplay op) (hs : Recovering s)
    (hagreeing : Agreeing d s op) :
    Recovering (s.perform d op).1 ∧ s.Later (s.perform d op).1 := by
  cases op with
  | getBatch | getBatchItem | getJob | listStatusEvents => exact ⟨hs, .refl s⟩
  | markItemFailed | relinkFailedItemForReplay | batches =>
      exact ⟨⟨hs.linked, hs.single, hs.resolved⟩,
        ⟨fun _ f hf hsettled => ⟨f, hf, .refl hsettled⟩, fun _ h => h⟩⟩
  | getDocumentByRequestId sourceJobId answer =>
      refine ⟨⟨hs.linked, hs.single, hs.resolved⟩,
        ⟨fun _ f hf hsettled => ⟨f, hf, .refl hsettled⟩, fun jobId hj => ?_⟩⟩
      simp only [ReplayState.perform]
      split
      · exact List.mem_cons_of_mem sourceJobId hj
      · exact hj
  | createDerivedJob sourceJobId call => exact create_keeps hs hagreeing.1 (hagreeing.2 hop)
  | mark | ledger => exact ⟨hs.step hagreeing, later_step hs _ s.strayed⟩

end Calls

section Programs

variable {d : Deployment} {s t : ReplayState} {α : Type}

section ItemCalls

variable (callerContext : ReportCallerContext) (now : Instant)

theorem calls_checked {ε : Type} (failure : ε → ReplayFailure) (outcome : Except ε α) :
    (checked failure outcome).Calls NotReplay := trivial

theorem calls_getJob (jobId : String) : (getJob jobId).Calls NotReplay :=
  ⟨trivial, fun _ => trivial⟩

theorem calls_markJob (jobId : String) (mark : Mark) (context : CallContext) :
    (markJob jobId mark context).Calls NotReplay :=
  ⟨trivial, fun _ => trivial⟩

theorem calls_onLedger (call : LedgerCall) : (onLedger call).Calls NotReplay :=
  ⟨trivial, fun _ => trivial⟩

theorem calls_appendSourceEventOnce (jobId eventType replayedJobId : String)
    (replayedStatus : ReportJobStatus) (message : String) (eventPayload : Fields) :
    (appendSourceEventOnce callerContext now jobId eventType replayedJobId replayedStatus message
      eventPayload).Calls NotReplay := by
  refine Program.calls_call trivial fun events => ?_
  split
  · trivial
  · exact calls_onLedger _

theorem calls_quarantine (item : BatchItemRow) (errorCategory errorSummary : String) :
    (quarantine item errorCategory errorSummary now).Calls NotReplay := by
  refine Program.calls_call trivial fun outcome => ?_
  split <;> trivial

theorem calls_refuseForeignLinkedJob (batch : BatchRow) (item : BatchItemRow)
    (branch : Option ReplayBranch) :
    (refuseForeignLinkedJob batch item branch now).Calls NotReplay := by
  unfold refuseForeignLinkedJob
  split
  · trivial
  · exact ⟨trivial, fun _ => trivial⟩
  · refine Program.calls_call trivial fun found => ?_
    split
    · exact calls_quarantine now item _ _
    · split
      · trivial
      · exact calls_quarantine now item _ _

theorem calls_sourceJobForReplayedJob (batch : BatchRow) (replayed : JobFile) :
    (sourceJobForReplayedJob batch replayed).Calls NotReplay := by
  refine Program.calls_call trivial fun events => ?_
  split
  · trivial
  · apply (calls_getJob _).andThen
    intro source
    split <;> trivial

variable (pass : ItemReplay)

theorem calls_replayedBefore (batch : BatchRow) (item : BatchItemRow)
    (reportJobId replayKey : String) :
    (replayedBefore pass batch item reportJobId replayKey).Calls NotReplay := by
  apply (calls_getJob reportJobId).andThen
  intro replayed
  split
  · trivial
  · apply (calls_sourceJobForReplayedJob batch replayed).andThen
    intro source
    trivial

theorem calls_linkReplayedJob (source replayed : JobFile) :
    (linkReplayedJob pass source replayed).Calls NotReplay := by
  apply (calls_onLedger _).andThen
  intro _
  refine Program.calls_call trivial fun relinked => ?_
  split
  · trivial
  · apply (calls_appendSourceEventOnce _ _ _ _ _ _ _ _).andThen
    intro _
    apply (calls_appendSourceEventOnce _ _ _ _ _ _ _ _).andThen
    intro _
    trivial

theorem calls_replayAnew (batch : BatchRow) (item : BatchItemRow) (replayKey : String) :
    (replayAnew pass batch item replayKey).Calls NotReplay := by
  unfold replayAnew
  split
  · apply (calls_getJob _).andThen
    intro source
    apply (calls_checked _ _).andThen
    intro _
    apply (calls_checked _ _).andThen
    intro request
    -- the job of an item is created without a replay source, hence without the guard
    have hcreate : (createDerivedJob source.job.reportJobId (createPortfolioReviewJob
        pass.callerContext (some replayKey) pass.generated request)).Calls NotReplay :=
      ⟨rfl, fun _ => trivial⟩
    apply hcreate.andThen
    intro replayed
    exact calls_linkReplayedJob pass source replayed
  · trivial

theorem calls_replayItem : (replayItem pass).Calls NotReplay := by
  have hbatch : (getBatch pass.batchId).Calls NotReplay := ⟨trivial, fun _ => trivial⟩
  have hitem : (getBatchItem pass.batchId pass.batchItemId).Calls NotReplay :=
    ⟨trivial, fun _ => trivial⟩
  apply hbatch.andThen
  intro record
  split
  · trivial
  · apply hitem.andThen
    intro item
    apply (calls_checked _ _).andThen
    intro replayKey
    apply (calls_refuseForeignLinkedJob _ _ _ _).andThen
    intro _
    split
    · exact calls_replayedBefore pass _ item _ replayKey
    · exact calls_replayAnew pass _ item replayKey

end ItemCalls

section JobCalls

variable (pass : JobReplay) (source replayed : JobFile)

theorem calls_cloneRetainedSnapshot (snapshot : SnapshotRecord) :
    (cloneRetainedSnapshot pass source snapshot replayed).Calls NotReplay := by
  have hstart : (startCollecting pass replayed).Calls NotReplay := by
    unfold startCollecting
    split
    · trivial
    · exact calls_markJob _ _ _
  apply hstart.andThen
  intro job
  apply (calls_onLedger _).andThen
  intro _
  exact calls_markJob _ _ _

theorem calls_collectReplayInputs (snapshot : Option SnapshotRecord) :
    (collectReplayInputs pass source snapshot replayed).Calls NotReplay := by
  cases snapshot with
  | some snapshot => exact calls_cloneRetainedSnapshot pass source replayed snapshot
  | none => exact calls_getJob _

theorem calls_collectInputs (replayKey : String) :
    (collectInputs pass source replayed replayKey).Calls NotReplay := by
  unfold collectInputs
  split
  · apply (calls_checked _ _).andThen
    intro snapshot
    apply (calls_onLedger _).andThen
    intro _
    exact calls_collectReplayInputs pass source replayed snapshot
  · split
    · apply (calls_checked _ _).andThen
      intro snapshot
      exact calls_collectReplayInputs pass source replayed snapshot
    · trivial

theorem calls_renderReplay : (renderReplay replayed).Calls NotReplay := by
  unfold renderReplay
  split
  · apply (calls_checked _ _).andThen
    intro format
    cases format with
    | some _ => exact calls_getJob _
    | none => trivial
  · trivial

theorem calls_recordFingerprintComparison :
    (recordFingerprintComparison pass source replayed).Calls NotReplay := by
  have happend : (appendFingerprintComparison pass source replayed).Calls NotReplay :=
    calls_onLedger _
  unfold recordFingerprintComparison
  split
  · trivial
  · split
    · exact happend
    · refine Program.calls_call trivial fun events => ?_
      split
      · exact happend
      · trivial

theorem calls_recordReplay : (recordReplay pass source replayed).Calls NotReplay := by
  unfold recordReplay
  apply Program.Calls.andThen
  · split
    · exact calls_recordFingerprintComparison pass source replayed
    · trivial
  · intro _
    apply Program.Calls.andThen
    · split
      · exact calls_appendSourceEventOnce _ _ _ _ _ _ _ _
      · trivial
    · intro _
      apply (calls_onLedger _).andThen
      intro _
      trivial

end JobCalls

section Safety

variable {pass : JobReplay} {source : JobFile} {jobId : String}

theorem safe_notReplay {p : ReplayProgram α} (h : p.Calls NotReplay) :
    (recovering d).Safe (ReplayState.perform d) (Discipline.OnSuccess fun _ _ => True) p s := by
  rw [Discipline.onSuccess_true]
  exact Discipline.safe_of_calls h call_keeps

theorem safe_checked {ε : Type} (failure : ε → ReplayFailure) (outcome : Except ε α) :
    (recovering d).Safe (ReplayState.perform d)
      (Discipline.OnSuccess fun a _ => outcome = .ok a) (checked failure outcome) s := by
  intro t _ _
  cases outcome with
  | error error => trivial
  | ok a => exact rfl

/-- The rows were read of the job; if they are settled, the job is settled so since. -/
def ReadOf (jobId : String) (f : JobFile) (s : ReplayState) : Prop :=
  f.job.reportJobId = jobId ∧
    (Settled f → ∃ f', s.jobs.file? jobId = some f' ∧ SettledAs f f')

theorem ReadOf.later {f : JobFile} (h : ReadOf jobId f s) (hst : s.Later t) :
    ReadOf jobId f t := by
  refine ⟨h.1, fun hsettled => ?_⟩
  obtain ⟨f', hf', hthen⟩ := h.2 hsettled
  obtain ⟨f'', hf'', hthen'⟩ := hst.settled jobId f' hf' hthen.settled
  exact ⟨f'', hf'', hthen.trans hthen'⟩

theorem safe_getJob (jobId : String) :
    (recovering d).Safe (ReplayState.perform d) (Discipline.OnSuccess (ReadOf jobId))
      (getJob jobId) s := by
  refine Discipline.safe_read (fun _ => rfl) fun t _ _ => ?_
  intro u htu _
  change Discipline.OnSuccess (ReadOf jobId) ((jobOf t.jobs jobId).mapError ReplayFailure.jobs) u
  unfold jobOf
  cases hf : t.jobs.file? jobId with
  | none => trivial
  | some f =>
      have hread : ReadOf jobId f t :=
        ⟨Ledger.jobId_of_file? hf, fun hsettled => ⟨f, hf, .refl hsettled⟩⟩
      exact hread.later htu

/-- The failed job left no open outcome, or the archive has denied its document. -/
def ResolvedSource (source : JobFile) (s : ReplayState) : Prop :=
  ReadOf source.job.reportJobId source s ∧ source.job.status = .failed ∧
    (failedAs source ReportFailureCategory.archiveAmbiguousCategories = false ∨
      source.job.reportJobId ∈ s.confirmedAbsent)

theorem ResolvedSource.later (h : ResolvedSource source s) (hst : s.Later t) :
    ResolvedSource source t :=
  ⟨h.1.later hst, h.2.1, h.2.2.imp_right (hst.absent _)⟩

/-- The archive outcome of a resolved source is not open and unconfirmed. -/
theorem ResolvedSource.not_unresolved (h : ResolvedSource source s) :
    s.unresolved source.job.reportJobId = false := by
  obtain ⟨hread, hfailed, hresolved⟩ := h
  by_contra hopen
  simp only [ReplayState.unresolved, Bool.not_eq_false, Bool.and_eq_true, decide_eq_true_eq] at hopen
  obtain ⟨hopen, habsent⟩ := hopen
  obtain ⟨f', hf', hthen⟩ := hread.2 (by simp [Settled, hfailed])
  rw [(Ledger.file?_eq_some_iff.mp hf').1, Option.any_some, outcomeOpen, Bool.and_eq_true,
    beq_iff_eq] at hopen
  obtain ⟨-, hcategory⟩ := hthen.failed hopen.1
  rw [hcategory] at hopen
  have hambiguous := hresolved.resolve_right habsent
  rw [failedAs, hopen.2] at hambiguous
  cases hambiguous

theorem status_of_eligible (h : assertReplayEligible source = .ok ()) :
    source.job.status = .failed := by
  unfold assertReplayEligible at h
  split_ifs at h with _ _ hstatus
  simp only [Bool.or_eq_true, decide_eq_true_eq, not_or, ne_eq, Decidable.not_not] at hstatus
  exact hstatus.1

theorem safe_adoptDocument (archiveRequestId documentId : String) (hs : Recovering s) :
    (recovering d).Safe (ReplayState.perform d)
      (Discipline.OnSuccess fun _ t => ResolvedSource source t)
      (adoptDocument pass source archiveRequestId documentId) s := by
  apply (safe_notReplay (calls_markJob _ _ _)).andThen hs
  intro resolved t _ ht _
  apply (safe_notReplay (calls_onLedger _)).andThen ht
  intro _ u _ _ _
  exact fun _ _ _ => trivial

/-- The answer of the archive lets the replay go on only where it has denied the document. -/
theorem safe_concludeLookup {archiveRequestId : String} {answer : ArchiveAnswer} (hs : Recovering s)
    (hread : ReadOf source.job.reportJobId source s) (hfailed : source.job.status = .failed)
    (habsent : answer.absent = true → source.job.reportJobId ∈ s.confirmedAbsent) :
    (recovering d).Safe (ReplayState.perform d)
      (Discipline.OnSuccess fun _ t => ResolvedSource source t)
      (concludeLookup d.toRuntime pass source archiveRequestId answer) s := by
  cases answer with
  | none => exact fun _ _ _ => trivial
  | some answer =>
      obtain ⟨statusCode, payload⟩ := answer
      simp only [concludeLookup]
      split_ifs with hcode hconfirmed
      · have hresolved : ResolvedSource source s := by
          refine ⟨hread, hfailed, Or.inr (habsent ?_)⟩
          simp [ArchiveAnswer.absent, hcode, hconfirmed]
        exact fun t hst _ => hresolved.later hst
      · exact fun _ _ _ => trivial
      · exact fun _ _ _ => trivial
      · apply (safe_checked _ _).andThen hs
        intro _ t _ ht _
        exact safe_adoptDocument _ _ ht
      · exact safe_adoptDocument _ _ hs

/-- A resolution that does not refuse leaves the source resolved. -/
theorem safe_resolveArchiveAmbiguity (hread : ReadOf source.job.reportJobId source s)
    (hfailed : source.job.status = .failed) :
    (recovering d).Safe (ReplayState.perform d)
      (Discipline.OnSuccess fun _ t => ResolvedSource source t)
      (resolveArchiveAmbiguity d.toRuntime pass source) s := by
  unfold resolveArchiveAmbiguity
  split
  · rename_i hclear
    intro t hst _
    exact ⟨hread.later hst, hfailed, Or.inl (by simpa using hclear)⟩
  · split
    · exact fun _ _ _ => trivial
    · rename_i resolver archiveRequestId _
      intro t hst ht hagreeing
      obtain ⟨hinv, hlater⟩ := call_keeps (.getDocumentByRequestId source.job.reportJobId
        (resolver archiveRequestId)) t trivial ht hagreeing
      refine ⟨hinv, hlater, safe_concludeLookup hinv ((hread.later hst).later hlater) hfailed ?_⟩
      intro (habsent : (resolver archiveRequestId).absent = true)
      simp [ReplayState.perform, habsent]

theorem safe_createReplay {replayKey : String} {request : ReportJobRequest} (hs : Recovering s)
    (hresolved : ResolvedSource source s) :
    (recovering d).Safe (ReplayState.perform d) (Discipline.OnSuccess fun _ _ => True)
      (createReplay pass source replayKey request) s := by
  apply (safe_getJob source.job.reportJobId).andThen hs
  intro current t hst ht _
  apply (safe_checked _ _).andThen ht
  intro call u htu _ _ v huv hv hagreeing
  have hv_resolved : ResolvedSource source v := ((hresolved.later hst).later htu).later huv
  obtain ⟨hinv, hlater⟩ := create_keeps hv hagreeing.1 fun _ => hv_resolved.not_unresolved
  refine ⟨hinv, hlater, ?_⟩
  rw [Discipline.onSuccess_true]
  exact fun _ _ _ => trivial

theorem safe_replayResolved {replayKey : String} (hs : Recovering s)
    (hresolved : ResolvedSource source s) :
    (recovering d).Safe (ReplayState.perform d) (Discipline.OnSuccess fun _ _ => True)
      (replayResolved pass source replayKey) s := by
  apply (safe_checked _ _).andThen hs
  intro _ t hst ht _
  apply (safe_checked _ _).andThen ht
  intro request u htu hu _
  apply (safe_createReplay hu ((hresolved.later hst).later htu)).andThen hu
  intro replayed v _ hv _
  apply (safe_notReplay (calls_collectInputs pass source replayed replayKey)).andThen hv
  intro collected w _ hw _
  apply (safe_notReplay (calls_renderReplay collected)).andThen hw
  intro rendered x _ _ _
  exact safe_notReplay (calls_recordReplay pass source rendered)

theorem safe_replayJob (hs : Recovering s) :
    (recovering d).Safe (ReplayState.perform d) (Discipline.OnSuccess fun _ _ => True)
      (replayJob d.toRuntime pass) s := by
  apply (safe_getJob pass.jobId).andThen hs
  intro source t _ ht hread
  apply (safe_checked _ _).andThen ht
  intro _ u htu hu _
  apply (safe_checked _ _).andThen hu
  intro _ v huv hv heligible
  apply (safe_checked _ _).andThen hv
  intro replayKey w hvw hw _
  have hread' : ReadOf source.job.reportJobId source w := by
    rw [hread.1]
    exact ((hread.later htu).later huv).later hvw
  apply (safe_resolveArchiveAmbiguity hread' (status_of_eligible heligible)).andThen hw
  intro _ x _ hx hresolved
  exact safe_replayResolved hx hresolved

theorem safe_replayActivity (activity : ReplayActivity) (hs : Recovering s) :
    (recovering d).Safe (ReplayState.perform d) (fun _ _ => True)
      (activity.program d.toRuntime) s := by
  have hdone : ∀ (outcome : ReplayOutcome) t, (recovering d).Safe (ReplayState.perform d) (fun _ _ => True)
      (.done outcome) t := fun _ _ _ _ _ => trivial
  cases activity with
  | replayItem pass =>
      exact (safe_notReplay (calls_replayItem pass)).bind hs fun _ t _ _ _ => hdone _ t
  | replayJob pass => exact (safe_replayJob hs).bind hs fun _ t _ _ _ => hdone _ t
  | jobs call =>
      exact Discipline.safe_of_calls (Program.calls_call trivial fun _ => trivial) call_keeps
  | batches call =>
      exact Discipline.safe_of_calls (Program.calls_call trivial fun _ => trivial) call_keeps

end Safety

theorem recovering_empty : Recovering ReplayState.empty := by
  refine ⟨Ledger.linked_empty, ?_, rfl⟩
  intro source b c hb
  obtain ⟨r, hr, -⟩ := mem_derivedJobs.mp hb
  cases hr

/-- Along every interleaving of the two recoveries, and of the calls of other components, in which
no call finds another outstanding replacement and no batch item is replayed from a source whose
archive outcome is open and unconfirmed, a failed job is the source of at most one derived job in
flight or archived, and no job is derived from an unresolved source. -/
theorem one_recovery {events : List (Event ReplayActivity)}
    (h : Along (replayStep d) (fun c e => c.Permitted (Agreeing d) e) .empty events) :
    ∀ before after, events = before ++ after →
      OneRecovery (run (replayStep d) .empty before).store := by
  rintro before after rfl
  have hgoverned : (recovering d).Governs (ReplayState.perform d)
      (run (replayStep d) ReplaySystem.empty before) :=
    ((Discipline.governs_initial recovering_empty).run
      (fun activity _ _ hs => safe_replayActivity activity hs) (along_append.mp h).1).1
  exact ⟨hgoverned.inv.single, hgoverned.inv.resolved⟩

end Programs

section Sample

instance (jobs : Jobs.Ledger) (source derived : String) : Decidable (FreeBeside jobs source derived) :=
  inferInstanceAs (Decidable (∀ b ∈ derivedJobs jobs recoveryTypes source, b ≠ derived →
    outstanding jobs b = false))

instance (d : Deployment) (jobs : Jobs.Ledger) : (call : LedgerCall) →
    Decidable (FindsFree d jobs call)
  | .create call =>
      inferInstanceAs (Decidable (novelKey d jobs call = true → ∀ source ∈ call.replay.map Prod.fst,
        (jobs.replayGuard source).isOk = true →
          ∀ b ∈ derivedJobs jobs [.batchItemReplay] source, outstanding jobs b = false))
  | .upsertJobRelationship call =>
      inferInstanceAs (Decidable (call.relationshipType ∈ recoveryTypes →
        outstanding jobs call.derivedJobId = true →
          FreeBeside jobs call.sourceJobId call.derivedJobId))
  | .mark jobId (.archived _ _) _ =>
      inferInstanceAs (Decidable
        ((jobs.jobs.find? jobId).any (fun job => job.status == .failed) = true →
          ∀ r ∈ jobs.relationships.rows, r.relationshipType ∈ recoveryTypes →
            r.derivedReportJobId = jobId → FreeBeside jobs r.sourceReportJobId jobId))
  | .mark _ .collectingData _ => isTrue trivial
  | .mark _ .dataReady _ => isTrue trivial
  | .mark _ (.rendering _ _ _ _) _ => isTrue trivial
  | .mark _ (.completed _ _ _ _ _ _ _ _ _ _) _ => isTrue trivial
  | .mark _ (.archiving _) _ => isTrue trivial
  | .mark _ (.failed _ _ _) _ => isTrue trivial
  | .cancelJob _ _ => isTrue trivial
  | .appendJobEvent _ _ _ _ _ _ _ => isTrue trivial
  | .claimWorkItems _ => isTrue trivial
  | .completeWorkItem _ _ _ => isTrue trivial
  | .deferWorkItem _ _ _ _ _ => isTrue trivial
  | .failWorkItem _ _ _ _ _ _ _ => isTrue trivial

instance (d : Deployment) (s : ReplayState) : (call : ReplayCall) → Decidable (Agreeing d s call)
  | .createDerivedJob sourceJobId call =>
      inferInstanceAs (Decidable (FindsFree d s.jobs (.create call) ∧ (call.replay = none →
        novelKey d s.jobs call = true → s.unresolved sourceJobId = false)))
  | .mark jobId mark context =>
      inferInstanceAs (Decidable (FindsFree d s.jobs (.mark jobId mark context)))
  | .ledger call => inferInstanceAs (Decidable (FindsFree d s.jobs call))
  | .getBatch _ => isTrue trivial
  | .getBatchItem _ _ => isTrue trivial
  | .markItemFailed _ _ _ _ => isTrue trivial
  | .relinkFailedItemForReplay _ _ _ _ => isTrue trivial
  | .getJob _ => isTrue trivial
  | .listStatusEvents _ => isTrue trivial
  | .getDocumentByRequestId _ _ => isTrue trivial
  | .batches _ => isTrue trivial

/-- The identifiers of a job with a number. -/
def sampleGenerated (n : String) : Generated :=
  ⟨"rrq_" ++ n, "rjob_" ++ n, "rwork_" ++ n, .ok none, 0⟩

/-- The transitions that take a job to a failed delivery. -/
def lostDelivery (jobId : String) : List LedgerCall :=
  [ .mark jobId .collectingData sampleOperator,
    .mark jobId .dataReady sampleOperator,
    .mark jobId (.rendering "rdr_1" "pdf" "portfolio-review" "v2") sampleOperator,
    .mark jobId (.completed "rdr_1" "pdf" "portfolio-review" "v2" none none none none none none)
      sampleOperator,
    .mark jobId (.archiving "areq_1") sampleOperator,
    .mark jobId (.failed .archiveOutcomeUnknown "archive timed out" true) sampleOperator ]

/-- The calls of other components that leave an item whose job failed at the archive. -/
def failedDelivery : List ReplayCall :=
  [ .batches (sampleBatch ["PF_1"]),
    .batches (.acquireDispatchItems "rbch_1" "worker-1" 60 10 "lease_1" 1000000),
    .ledger (.create (createPortfolioReviewJob Batch.sampleCaller (some "key-1") (sampleGenerated "1")
      { portfolioScope := [("portfolio_ids", Json.ofTexts ["PF_1"])]
        asOfDate := "2026-04-22"
        requestedOutputFormats := ["pdf"] })),
    .batches (.markItemWaitingOnReportJob "rbit_1" "lease_1" "rjob_1" 2000000) ] ++
  (lostDelivery "rjob_1").map .ledger ++
  [ .batches (.markItemFailed "rbit_1" "archive_outcome_unknown" "Archive timed out." true 3 none
      3000000) ]

/-- Other components make calls one after the other, from a position of the pool on. -/
def otherCalls : Nat → List ReplayCall → List (Event ReplayActivity)
  | position, .ledger call :: calls =>
      if h : besidesReplay call = true then
        .start (.jobs ⟨call, h⟩) :: .advance position :: otherCalls (position + 1) calls
      else otherCalls position calls
  | position, .batches call :: calls =>
      .start (.batches call) :: .advance position :: otherCalls (position + 1) calls
  | position, _ :: calls => otherCalls position calls
  | _, [] => []

/-- A recovery starts and runs to its end. -/
def recover (position : Nat) (activity : ReplayActivity) : List (Event ReplayActivity) :=
  .start activity :: List.replicate 16 (.advance position)

/-- The replay of the failed item. -/
def sampleItemReplay : ReplayActivity :=
  .replayItem
    { batchId := "rbch_1"
      batchItemId := "rbit_1"
      reason := "Retry item."
      callerContext := Batch.sampleCaller
      idempotencyKey := some "op-1"
      generated := sampleGenerated "2"
      clock := fun _ => 4000000 }

/-- The replay of the failed job; the archive denies the document. -/
def sampleJobReplay : ReplayActivity :=
  .replayJob
    { jobId := "rjob_1"
      reason := "Retry job."
      callerContext := Batch.sampleCaller
      idempotencyKey := some "op-2"
      generated := sampleGenerated "3"
      services :=
        { archiveResolver := some fun _ =>
            some (404, [("error", .obj [("code", .str "document_not_found")])])
          snapshotStore := some fun _ => some ⟨"snap_1", "portfolio_review.v1"⟩
          compositeArchiveCustody := fun _ _ => .error cannotBeReplayed
          coercions := Coercions.standard
          compositeReplayRequest := fun _ => .error cannotBeReplayed
          clonedSnapshotId := fun _ => "snap_2" }
      clock := fun _ => 4000000 }

/-- An item whose job failed at the archive. -/
def failedItemRun : List (Event ReplayActivity) := otherCalls 0 failedDelivery

/-- The item is replayed, and then its failed job. -/
def bothRecoveriesRun : List (Event ReplayActivity) :=
  failedItemRun ++ recover 11 sampleItemReplay ++ recover 12 sampleJobReplay

/-- The job is replayed; when its replacement has failed too, the item is replayed. -/
def oneAfterTheOtherRun : List (Event ReplayActivity) :=
  failedItemRun ++ recover 11 sampleJobReplay ++
    otherCalls 12 [.ledger (.mark "rjob_3" (.failed .renderExecutionFailed "render failed" true)
      sampleOperator)] ++
    recover 13 sampleItemReplay

/-- The ledgers after the events. -/
def storeAfter (events : List (Event ReplayActivity)) : ReplayState :=
  (run (replayStep Jobs.sampleDeployment) .empty events).store

theorem one_recovery_one_after_the_other :
    derivedJobs (storeAfter oneAfterTheOtherRun).jobs recoveryTypes "rjob_1" = ["rjob_3", "rjob_2"] ∧
      outstanding (storeAfter oneAfterTheOtherRun).jobs "rjob_2" = true ∧
      ∀ before after, oneAfterTheOtherRun = before ++ after →
        OneRecovery (run (replayStep Jobs.sampleDeployment) .empty before).store :=
  ⟨by decide +kernel, by decide +kernel, one_recovery (by decide +kernel)⟩

/-- The failed job of an item, retry-eligible and with an open archive outcome, is replayed through
the item while nobody has asked the archive, and once more through the job: two derived jobs are in
flight. -/
theorem not_oneRecovery_bothRecoveries :
    (storeAfter failedItemRun).batches.items.rows.any
        (fun i => i.reportJobId == some "rjob_1") = true ∧
      ((storeAfter failedItemRun).jobs.jobs.find? "rjob_1").any
        (fun job => job.status == .failed && job.retryEligible) = true ∧
      (storeAfter bothRecoveriesRun).strayed = ["rjob_2"] ∧
      ¬ OneOutstanding (storeAfter bothRecoveriesRun).jobs := by
  refine ⟨by decide +kernel, by decide +kernel, by decide +kernel, fun h => ?_⟩
  have hsame := h "rjob_1" "rjob_2" "rjob_3" (by decide +kernel) (by decide +kernel)
    (by decide +kernel) (by decide +kernel)
  exact absurd hsame (by decide)

end Sample

end LotusReport.Replay
