import LotusReport.Corrections.OneCorrection
import LotusReport.Corrections.OutstandingPairs

/-!
# No lost linkage

A correction and a replacement are archived by one transaction, and the linkage
of their documents is written by a later one, after a call of the archive. In
between, and for good when the process stops there or when the work queue
finishes the replacement, no event says that the linkage is owed. The linkage is
kept in every state of the runs in which a document is archived only when an
event of its pair stands already.
-/

namespace LotusReport.Corrections

open Encoding Fallible Relational StateMachine Jobs Replay

section Statements

variable (py : Runtime)

/-- An event of the job states that the linkage of the pair is recorded, refused or pending. -/
def HasLineage (jobs : Jobs.Ledger) (jobId : String) (pair : DocumentPair) : Prop :=
  ∃ e ∈ jobs.events, e.reportJobId = jobId ∧ Names py lineageEventTypes e pair

/-- The archived document of a job row, whatever its status. -/
def documentOf (jobs : Jobs.Ledger) (jobId : String) : Option String :=
  (jobs.jobs.find? jobId).bind (·.archiveDocumentId)

/-- The document of an archived job. -/
def archivedDocument (jobs : Jobs.Ledger) (jobId : String) : Option String :=
  (jobs.jobs.find? jobId).bind fun job =>
    if job.status = .archived then job.archiveDocumentId else none

/-- A correction that is archived in the place of another document. -/
def correctionPair (row : AttemptRow) (pair : DocumentPair) : Prop :=
  row.status = .archived ∧ row.previousArchiveDocumentId = some pair.sourceDocumentId ∧
    row.archiveDocumentId = some pair.targetDocumentId ∧
    pair.sourceDocumentId ≠ pair.targetDocumentId ∧ pair.transitionType = "correct"

/-- No correction and no replacement has lost its linkage. -/
structure LinkageKept (s : CorrectionState) : Prop where
  /-- An archived correction has an event of its pair, or the query still returns it. -/
  corrections : ∀ row ∈ s.attempts.rows, ∀ pair, correctionPair row pair →
    HasLineage py s.jobs row.reportJobId pair ∨
      row ∈ listUnresolvedArchiveAmbiguousAttempts s.attempts row.reportJobId
  /-- An archived replacement of a document has an event of its pair. -/
  replacements : ∀ r ∈ s.jobs.relationships.rows, r.relationshipType = .regenerateReplacement →
    ∀ source ∈ documentOf s.jobs r.sourceReportJobId,
      ∀ target ∈ archivedDocument s.jobs r.derivedReportJobId,
        HasLineage py s.jobs r.sourceReportJobId ⟨source, target, "supersede"⟩
  /-- The next settlement asks the archive for every such pair whose text has no outcome. -/
  attempted : ∀ jobId pair, HasLineage py s.jobs jobId pair →
    (∃ e ∈ s.jobs.events, e.reportJobId = jobId ∧
      ∃ other, Names py finalTypes e other ∧ pairKey other = pairKey pair) ∨
    ∃ request ∈ outstandingRequests py (Replay.listStatusEvents s.jobs jobId),
      pairKey request.pair = pairKey pair

/-- The job and the document that a call archives. -/
def archives : Call → Option (String × String)
  | .ledger (.mark jobId (.archived _ archiveDocumentId) _) => some (jobId, archiveDocumentId)
  | .custody scope (.confirmFinal _ response _ _) =>
      (finalIdentity response).toOption.map fun identity =>
        (scope.jobId, identity.archiveDocumentId)
  | _ => none

/-- The document is archived for the job only where every replacement it belongs to has an event of
its pair. -/
def LinksDocument (jobs : Jobs.Ledger) (jobId document : String) : Prop :=
  ∀ r ∈ jobs.relationships.rows, r.relationshipType = .regenerateReplacement →
    (r.derivedReportJobId = jobId → ∀ source ∈ documentOf jobs r.sourceReportJobId,
      HasLineage py jobs r.sourceReportJobId ⟨source, document, "supersede"⟩) ∧
    (r.sourceReportJobId = jobId → ∀ target ∈ archivedDocument jobs r.derivedReportJobId,
      HasLineage py jobs r.sourceReportJobId ⟨document, target, "supersede"⟩) ∧
    (r.derivedReportJobId = jobId → r.sourceReportJobId = jobId →
      HasLineage py jobs r.sourceReportJobId ⟨document, document, "supersede"⟩)

/-- The edge of an archived replacement is written only where it has an event of its pair. -/
def LinksEdge (jobs : Jobs.Ledger) : Call → Prop
  | .ledger (.upsertJobRelationship c) => c.relationshipType = .regenerateReplacement →
      ∀ source ∈ documentOf jobs c.sourceJobId, ∀ target ∈ archivedDocument jobs c.derivedJobId,
        HasLineage py jobs c.sourceJobId ⟨source, target, "supersede"⟩
  | _ => True

/-- The call archives no replacement, and relates no archived one, before an event of its pair is
written. -/
def LinksReplacement (jobs : Jobs.Ledger) (call : Call) : Prop :=
  (∀ written ∈ archives call, LinksDocument py jobs written.1 written.2) ∧ LinksEdge py jobs call

/-- The call archives no correction and no replacement before an event of its pair is written. -/
def LinksFirst (s : CorrectionState) : CorrectionCall → Prop
  | .markRerenderArchived attemptId document _ => ∀ row ∈ s.attempts.rows,
      row.rerenderAttemptId = attemptId → ∀ previous ∈ row.previousArchiveDocumentId,
        previous ≠ document → HasLineage py s.jobs row.reportJobId ⟨previous, document, "correct"⟩
  | .recordAdoptedRerenderOutcome call =>
      ∀ previous ∈ call.adopted.previousArchiveDocumentId, previous ≠ call.archiveDocumentId →
        HasLineage py s.jobs call.job.job.reportJobId
          ⟨previous, call.archiveDocumentId, "correct"⟩
  | .ledger call => LinksReplacement py s.jobs (.ledger call)
  | .jobs call => LinksReplacement py s.jobs call
  | _ => True

end Statements

section Documents

variable {f f' : JobFile}

/-- The row names the document it named before, and is not archived anew. -/
structure DocumentKept (old new : JobRow) : Prop where
  status : new.status = .archived → old.status = .archived
  document : new.archiveDocumentId = old.archiveDocumentId

theorem DocumentKept.refl (job : JobRow) : DocumentKept job job := ⟨id, rfl⟩

/-- Only a transition and a confirmation archive a document. -/
theorem documentKept_of_fileStep {e : Effect} (h : FileStep e f f') (hmoved : e ≠ .moved)
    (hconfirmed : e ≠ .confirmed) : DocumentKept f.job f'.job := by
  cases h with
  | move => exact absurd rfl hmoved
  | confirm => exact absurd rfl hconfirmed
  | cancel => exact ⟨fun h => (by cases h), rfl⟩
  | exhaustFailed _ _ ht hfailed =>
      refine ⟨fun h => ?_, ?_⟩
      · have hstatus : ReportJobStatus.failed = .archived := hfailed.symm.trans h
        cases hstatus
      · have hnone := ht.archiveDocument (by rw [hfailed]; decide)
        simp [JobFile.movedFile, JobFile.setWork, transitionedJob, hnone]
  | offer => exact ⟨fun h => (by cases h), rfl⟩
  | archiveRequest => exact ⟨fun h => (by cases h), rfl⟩
  | _ => exact ⟨id, rfl⟩

theorem documentKept_of_fileRun {allowed : Effect → Prop} (h : FileRun allowed f f')
    (hmoved : ¬ allowed .moved) (hconfirmed : ¬ allowed .confirmed) :
    DocumentKept f.job f'.job := by
  refine h.invariant (I := fun g => DocumentKept f.job g.job) (fun e g g' he hstep hg => ?_)
    (DocumentKept.refl f.job)
  have hkept := documentKept_of_fileStep hstep (fun h => hmoved (h ▸ he))
    (fun h => hconfirmed (h ▸ he))
  exact ⟨fun h => hg.status (hkept.status h), hkept.document.trans hg.document⟩

end Documents

section Jobs

variable {py : Runtime} {d : Deployment} {s t : Jobs.Ledger} {jobId : String} {job' : JobRow}
  {pair : DocumentPair}

theorem toStatus_ne_archived {m : Mark} {context : CallContext}
    (h : archives (.ledger (.mark jobId m context)) = none) :
    (m.transition context.now).toStatus ≠ .archived := by
  cases m with
  | archived requestId document => cases h
  | _ => exact fun h => by cases h

theorem documentKept_of_transition {f f' : JobFile} {m : Mark} {context : CallContext}
    (h : f.transitionJob (m.transition context.now) context = .ok f') :
    DocumentKept f.job f'.job ∨
      ∃ document, archives (.ledger (.mark jobId m context)) = some (jobId, document) ∧
        f'.job.archiveDocumentId = some document := by
  rcases transitionJob_eq_ok h with ⟨rfl, -⟩ | ⟨-, hpark⟩ | hmoved
  · exact Or.inl (DocumentKept.refl _)
  · exact Or.inl (documentKept_of_fileStep hpark (by decide) (by decide))
  · obtain ⟨e, -, rfl⟩ := hmoved.moved
    cases harchives : archives (.ledger (.mark jobId m context)) with
    | none =>
        have hstatus := toStatus_ne_archived harchives
        have hnone := (m.transition_plain context.now).archiveDocument hstatus
        refine Or.inl ⟨fun h => absurd h hstatus, ?_⟩
        simp [JobFile.movedFile, transitionedJob, hnone]
    | some written =>
        cases m with
        | archived requestId document =>
            cases harchives
            exact Or.inr ⟨document, rfl, rfl⟩
        | _ => cases harchives

theorem document_of_confirmFinal {f f' : JobFile} {scope : CustodyScope} {fence : CustodyLease}
    {response : Fields} {verification : Except LedgerError Unit} {now : Instant}
    (h : CustodyCall.transact d s f scope (.confirmFinal fence response verification now) = .ok f') :
    ∃ document, archives (.custody scope (.confirmFinal fence response verification now)) =
        some (scope.jobId, document) ∧ f'.job.archiveDocumentId = some document := by
  obtain ⟨identity, hidentity, hchecked⟩ := bind_eq_ok.mp h
  obtain ⟨⟨⟩, -, hconfirm⟩ := bind_eq_ok.mp hchecked
  refine ⟨identity.archiveDocumentId, ?_, ?_⟩
  · simp [archives, hidentity, Except.toOption]
  · obtain ⟨-, hrest⟩ := fenced_of_checks hconfirm
    split at hrest
    · cases hrest
    · obtain ⟨f₁, hupdate, happend⟩ := bind_eq_ok.mp hrest
      obtain ⟨rfl, -⟩ := updateJob_admitted hupdate
      obtain ⟨e, rfl, -⟩ := JobFile.appendStatusEvent_eq_ok happend
      rfl

/-- A transaction on one job: the row of another job stays as it is. -/
theorem find?_of_onJob {α : Type} {target : String} {missing : LedgerError} {a : α}
    {op : JobFile → Except LedgerError (α × JobFile)}
    (hid : ∀ f f' b, op f = .ok (b, f') → f'.job.reportJobId = f.job.reportJobId)
    (h : s.onJob target missing op = .ok (a, t)) (hjob : t.jobs.find? jobId = some job') :
    s.jobs.find? jobId = some job' ∨
      jobId = target ∧ ∃ f f' b, s.jobs.find? jobId = some f.job ∧ op f = .ok (b, f') ∧
        job' = f'.job := by
  obtain ⟨f, f', hf, hop, rfl⟩ := Ledger.onJob_eq_ok h
  rw [Ledger.find?_store hf (hid f f' a hop)] at hjob
  split at hjob
  · rename_i htarget
    cases hjob
    exact Or.inr ⟨htarget.symm, f, f', a, htarget ▸ (Ledger.file?_eq_some_iff.mp hf).1, hop, rfl⟩
  · exact Or.inl hjob

/-- A job found after a call: it kept its document, the call archived it, or it has none. -/
def JobOfStep (s : Jobs.Ledger) (call : Call) (jobId : String) (job' : JobRow) : Prop :=
  (∃ job, s.jobs.find? jobId = some job ∧ DocumentKept job job') ∨
    (∃ document, archives call = some (jobId, document) ∧
      job'.archiveDocumentId = some document) ∨
    job'.archiveDocumentId = none

/-- A call that neither moves nor confirms a job keeps the documents. -/
theorem jobOfStep_of_allows (hs : s.Linked) {call : Call}
    (hmoved : ¬ call.Allows jobId .moved) (hconfirmed : ¬ call.Allows jobId .confirmed)
    (hjob : (s.step d call).jobs.find? jobId = some job') : JobOfStep s call jobId job' := by
  obtain ⟨f', hf', rfl⟩ := (Ledger.linked_step d s call hs).file?_of_find? hjob
  rcases Ledger.file_of_step hs call hf' with ⟨f, hf, hrun⟩ | ⟨-, hopened⟩
  · exact Or.inl ⟨f.job, (Ledger.file?_eq_some_iff.mp hf).1,
      documentKept_of_fileRun hrun hmoved hconfirmed⟩
  · exact Or.inr (Or.inr hopened.archiveDocument)

theorem jobId_of_transition {f f' : JobFile} {transition : Transition} {context : CallContext}
    (h : f.transitionJob transition context = .ok f') : f'.job.reportJobId = f.job.reportJobId := by
  rcases transitionJob_eq_ok h with ⟨rfl, -⟩ | ⟨-, hpark⟩ | hmoved
  · rfl
  · exact hpark.continues.job
  · obtain ⟨e, -, rfl⟩ := hmoved.moved
    rfl

theorem jobId_of_transact {f f' : JobFile} {scope : CustodyScope} {c : CustodyCall}
    (h : c.transact d s f scope = .ok f') : f'.job.reportJobId = f.job.reportJobId := by
  rcases (CustodyCall.transact_fileStep h).2 with rfl | ⟨e, -, hstep⟩
  · rfl
  · exact hstep.continues.job

theorem jobOfStep_mark {target : String} {m : Mark} {context : CallContext}
    (hjob : (s.step d (.ledger (.mark target m context))).jobs.find? jobId = some job') :
    JobOfStep s (.ledger (.mark target m context)) jobId job' := by
  unfold Ledger.step at hjob
  split at hjob
  · rename_i t hperform
    obtain ⟨⟨a, t'⟩, htransact, hlast⟩ := bind_eq_ok.mp hperform
    cases hlast
    rcases find?_of_onJob (fun f f' b h => jobId_of_transition (unvalued_eq_ok.mp h)) htransact hjob
      with hsame | ⟨rfl, f, f', b, hfound, hop, rfl⟩
    · exact Or.inl ⟨job', hsame, DocumentKept.refl _⟩
    · rcases documentKept_of_transition (unvalued_eq_ok.mp hop) with hkept | harchived
      · exact Or.inl ⟨f.job, hfound, hkept⟩
      · exact Or.inr (Or.inl harchived)
  · exact Or.inl ⟨job', hjob, DocumentKept.refl _⟩

theorem jobOfStep_confirmFinal {scope : CustodyScope} {fence : CustodyLease}
    {response : Fields} {verification : Except LedgerError Unit} {now : Instant}
    (hjob : (s.step d (.custody scope (.confirmFinal fence response verification
      now))).jobs.find? jobId = some job') :
    JobOfStep s (.custody scope (.confirmFinal fence response verification now)) jobId job' := by
  unfold Ledger.step at hjob
  split at hjob
  · rename_i t hperform
    obtain ⟨⟨⟩, -, hauthorized⟩ := bind_eq_ok.mp hperform
    obtain ⟨⟨a, t'⟩, htransact, hlast⟩ := bind_eq_ok.mp hauthorized
    cases hlast
    rcases find?_of_onJob (fun f f' b h => jobId_of_transact (unvalued_eq_ok.mp h)) htransact hjob
      with hsame | ⟨rfl, f, f', b, -, hop, rfl⟩
    · exact Or.inl ⟨job', hsame, DocumentKept.refl _⟩
    · exact Or.inr (Or.inl (document_of_confirmFinal (unvalued_eq_ok.mp hop)))
  · exact Or.inl ⟨job', hjob, DocumentKept.refl _⟩

theorem jobOfStep (hs : s.Linked) (call : Call)
    (hjob : (s.step d call).jobs.find? jobId = some job') : JobOfStep s call jobId job' := by
  cases call with
  | ledger c =>
      cases c with
      | mark target m context => exact jobOfStep_mark hjob
      | _ => refine jobOfStep_of_allows hs ?_ ?_ hjob <;> simp [Call.Allows, LedgerCall.Allows]
  | custody scope c =>
      cases c with
      | confirmFinal fence response verification now => exact jobOfStep_confirmFinal hjob
      | _ => refine jobOfStep_of_allows hs ?_ ?_ hjob <;> simp [Call.Allows, CustodyCall.Allows]

theorem mem_events_of_changes {allowed : String → Effect → Prop} (h : s.Changes allowed t)
    {e : EventRow} (he : e ∈ s.events) : e ∈ t.events := by
  induction h with
  | refl => exact he
  | tail _ _ _ _ _ ih => exact List.mem_append_left _ ih

/-- The events of a ledger are never removed. -/
theorem mem_events_of_step (hs : s.Linked) (call : Call) {e : EventRow} (he : e ∈ s.events) :
    e ∈ (s.step d call).events := by
  rcases Ledger.step_cases d s call hs with hsame | hperformed
  · rwa [hsame]
  · generalize s.step d call = t at hperformed
    cases hperformed with
    | changed h => exact mem_events_of_changes h he
    | related => exact he
    | accepted h =>
        obtain ⟨job, hjob⟩ := hs.event e he
        obtain ⟨f, hf, -⟩ := hs.file?_of_find? hjob
        have hkept := h.files e.reportJobId
        rw [if_neg, hf] at hkept
        · have hevents := (Ledger.file?_eq_some_iff.mp hf).2.2.2
          rw [(Ledger.file?_eq_some_iff.mp hkept).2.2.2] at hevents
          have hmem : e ∈ t.eventsOf e.reportJobId := by
            rw [hevents]
            exact List.mem_filter.mpr ⟨he, beq_self_eq_true _⟩
          exact (List.mem_filter.mp hmem).1
        · intro hnew
          rw [← hnew, h.fresh] at hjob
          cases hjob

/-- An edge found after a call was there before it, or the call wrote it. -/
theorem relationship_of_step (hs : s.Linked) (call : Call) {r : RelationshipRow}
    (hr : r ∈ (s.step d call).relationships.rows)
    (htype : r.relationshipType = .regenerateReplacement) :
    r ∈ s.relationships.rows ∨
      ∃ c createdAt, call = .ledger (.upsertJobRelationship c) ∧ r = c.row createdAt ∧
        (s.step d call).jobs = s.jobs := by
  rcases Ledger.step_cases d s call hs with hsame | hperformed
  · rw [hsame] at hr
    exact Or.inl hr
  · generalize s.step d call = t at hperformed hr
    cases hperformed with
    | changed h =>
        rw [h.relationships] at hr
        exact Or.inl hr
    | accepted h =>
        rw [h.relationships] at hr
        rcases Ledger.mem_relate hr with hold | ⟨job, reason, -, rfl⟩
        · exact Or.inl hold
        · cases htype
    | @related c relationships hlinked h =>
        rcases h with hrows | ⟨old, hold, rfl⟩
        · have hmem : r ∈ relationships.rows := hr
          rw [hrows] at hmem
          rcases List.mem_append.mp hmem with hold | hnew
          · exact Or.inl hold
          · exact Or.inr ⟨c, _, rfl, List.mem_singleton.mp hnew, rfl⟩
        · have hpair : (c.row old.createdAt).pair = old.pair := (Table.key_of_find? hold).symm
          rcases (Table.mem_rows_put (Table.mem_of_find? hold) hpair hpair).mp hr with
            rfl | ⟨hkept, -⟩
          · exact Or.inr ⟨c, _, rfl, rfl, rfl⟩
          · exact Or.inl hkept

/-- No replacement has lost its linkage. -/
def LinkedReplacements (py : Runtime) (s : Jobs.Ledger) : Prop :=
  ∀ r ∈ s.relationships.rows, r.relationshipType = .regenerateReplacement →
    ∀ source ∈ documentOf s r.sourceReportJobId,
      ∀ target ∈ archivedDocument s r.derivedReportJobId,
        HasLineage py s r.sourceReportJobId ⟨source, target, "supersede"⟩

theorem documentOf_eq_some {document : String} :
    document ∈ documentOf s jobId ↔
      ∃ job, s.jobs.find? jobId = some job ∧ job.archiveDocumentId = some document := by
  simp only [documentOf, Option.mem_def, Option.bind_eq_some_iff]

theorem archivedDocument_eq_some {document : String} :
    document ∈ archivedDocument s jobId ↔
      ∃ job, s.jobs.find? jobId = some job ∧ job.status = .archived ∧
        job.archiveDocumentId = some document := by
  simp only [archivedDocument, Option.mem_def, Option.bind_eq_some_iff,
    Option.ite_none_right_eq_some]

/-- A document found after a call was there before it, or the call archived it. -/
theorem documentOf_step (hs : s.Linked) (call : Call) {document : String}
    (h : document ∈ documentOf (s.step d call) jobId) :
    document ∈ documentOf s jobId ∨ archives call = some (jobId, document) := by
  obtain ⟨job', hjob', hdocument⟩ := documentOf_eq_some.mp h
  rcases jobOfStep hs call hjob' with ⟨job, hjob, hkept⟩ | ⟨other, harchives, hother⟩ | hnone
  · exact Or.inl (documentOf_eq_some.mpr ⟨job, hjob, hkept.document ▸ hdocument⟩)
  · rw [hdocument] at hother
    cases hother
    exact Or.inr harchives
  · rw [hdocument] at hnone
    cases hnone

theorem archivedDocument_step (hs : s.Linked) (call : Call) {document : String}
    (h : document ∈ archivedDocument (s.step d call) jobId) :
    document ∈ archivedDocument s jobId ∨ archives call = some (jobId, document) := by
  obtain ⟨job', hjob', hstatus, hdocument⟩ := archivedDocument_eq_some.mp h
  rcases jobOfStep hs call hjob' with ⟨job, hjob, hkept⟩ | ⟨other, harchives, hother⟩ | hnone
  · exact Or.inl (archivedDocument_eq_some.mpr
      ⟨job, hjob, hkept.status hstatus, hkept.document ▸ hdocument⟩)
  · rw [hdocument] at hother
    cases hother
    exact Or.inr harchives
  · rw [hdocument] at hnone
    cases hnone

theorem HasLineage.mono (h : HasLineage py s jobId pair) (hevents : ∀ e ∈ s.events, e ∈ t.events) :
    HasLineage py t jobId pair := by
  obtain ⟨e, he, hnames⟩ := h
  exact ⟨e, hevents e he, hnames⟩

/-- A call that writes the lineage first keeps the linkage of the replacements. -/
theorem replacements_step (hs : s.Linked) (h : LinkedReplacements py s) {call : Call}
    (hlinks : LinksReplacement py s call) : LinkedReplacements py (s.step d call) := by
  intro r hr htype source hsource target htarget
  suffices hlineage : HasLineage py s r.sourceReportJobId ⟨source, target, "supersede"⟩ from
    hlineage.mono fun e he => mem_events_of_step hs call he
  rcases relationship_of_step hs call hr htype with hold | ⟨c, createdAt, rfl, rfl, hjobs⟩
  · -- the two ends of an old edge have kept their documents, or the call archived one
    rcases documentOf_step hs call hsource with hsource | hsource <;>
      rcases archivedDocument_step hs call htarget with htarget | htarget
    · exact h r hold htype source hsource target htarget
    · exact (hlinks.1 _ htarget r hold htype).1 rfl source hsource
    · exact (hlinks.1 _ hsource r hold htype).2.1 rfl target htarget
    · have hsame := hsource.symm.trans htarget
      simp only [Option.some.injEq, Prod.mk.injEq] at hsame
      obtain ⟨hid, rfl⟩ := hsame
      exact (hlinks.1 _ htarget r hold htype).2.2 rfl hid
  · refine hlinks.2 htype source ?_ target ?_
    · rw [documentOf, hjobs] at hsource
      exact hsource
    · rw [archivedDocument, hjobs] at htarget
      exact htarget

theorem appendRerenderEvent_eq_ok {status : ReportJobStatus} {eventType message : String}
    {payload : Fields} {key : Option String} {c : CallContext} (hs : s.Linked)
    (h : appendRerenderEvent s jobId status eventType message payload key c = .ok t) :
    t.Linked ∧ (∀ e ∈ s.events, e ∈ t.events) ∧ t.relationships = s.relationships ∧
      t.jobs.find? = s.jobs.find? := by
  obtain ⟨⟨a, t'⟩, htransact, hlast⟩ := bind_eq_ok.mp h
  cases hlast
  obtain ⟨f, f', hf, hop, rfl⟩ := Ledger.onJob_eq_ok htransact
  obtain ⟨e, rfl, hjob, -⟩ := JobFile.appendStatusEvent_eq_ok (unvalued_eq_ok.mp hop)
  have hcontinues : f.Continues { f with events := f.events ++ [e] } :=
    JobFile.continues_of_job rfl rfl rfl rfl (JobFile.appended_one rfl hjob)
  refine ⟨Ledger.linked_store hs hf hcontinues, fun e he => List.mem_append_left _ he, rfl, ?_⟩
  funext k
  show (s.store { f with events := f.events ++ [e] }).jobs.find? k = s.jobs.find? k
  rw [Ledger.find?_store hf hcontinues.job]
  split
  · rename_i hk
    rw [← hk]
    exact (Ledger.file?_eq_some_iff.mp hf).1.symm
  · rfl

end Jobs

section Attempts

variable {py : Runtime} {d : Deployment} {s t : CorrectionState}

/-- Every archived correction has its lineage. -/
def LinkedCorrections (py : Runtime) (attempts : Attempts) (jobs : Jobs.Ledger) : Prop :=
  ∀ row ∈ attempts.rows, ∀ pair, correctionPair row pair →
    HasLineage py jobs row.reportJobId pair

/-- What a call keeps. -/
structure Linking (py : Runtime) (s : CorrectionState) : Prop where
  linked : s.jobs.Linked
  corrections : LinkedCorrections py s.attempts s.jobs
  replacements : LinkedReplacements py s.jobs

variable {attempts attempts' : Attempts} {jobs jobs' : Jobs.Ledger}

theorem LinkedCorrections.mono (h : LinkedCorrections py attempts jobs)
    (hevents : ∀ e ∈ jobs.events, e ∈ jobs'.events) : LinkedCorrections py attempts jobs' :=
  fun row hrow pair hpair => (h row hrow pair hpair).mono hevents

theorem LinkedCorrections.insert {row : AttemptRow} (h : LinkedCorrections py attempts jobs)
    (hinsert : attempts.insert? row = some attempts')
    (hrow : ∀ pair, correctionPair row pair → HasLineage py jobs row.reportJobId pair) :
    LinkedCorrections py attempts' jobs := by
  obtain ⟨-, -, hrows⟩ := (Table.insert?_eq_some_iff _ _ _).mp hinsert
  intro other hother
  rw [hrows] at hother
  rcases List.mem_append.mp hother with hold | hnew
  · exact h other hold
  · rw [List.mem_singleton.mp hnew]
    exact hrow

theorem LinkedCorrections.update {attemptId : String} {u : AttemptUpdate} {now : Instant}
    {row' : AttemptRow} (h : LinkedCorrections py attempts jobs)
    (hupdate : updateRerenderAttempt attempts attemptId u now = .ok (row', attempts'))
    (hrow : ∀ pair, correctionPair row' pair → HasLineage py jobs row'.reportJobId pair) :
    LinkedCorrections py attempts' jobs := by
  intro other hother
  rcases (mem_rows_of_update hupdate).mp hother with rfl | ⟨hold, -⟩
  · exact hrow
  · exact h other hold

/-- The attempts may change with a status event, where every archived one keeps its lineage. -/
theorem Linking.event (h : Linking py s) (hevent : RerenderEvent s.jobs jobs')
    (hattempts : LinkedCorrections py attempts' s.jobs) :
    Linking py { s with jobs := jobs', attempts := attempts' } := by
  obtain ⟨jobId, status, eventType, message, payload, key, c, happend⟩ := hevent
  obtain ⟨hlinked, hevents, hrelationships, hfind⟩ := appendRerenderEvent_eq_ok h.linked happend
  refine ⟨hlinked, hattempts.mono hevents, ?_⟩
  intro r hr htype source hsource target htarget
  dsimp only at hr hsource htarget ⊢
  rw [hrelationships] at hr
  rw [documentOf, hfind] at hsource
  rw [archivedDocument, hfind] at htarget
  exact (h.replacements r hr htype source hsource target htarget).mono hevents

/-- A call on the job ledger that writes the lineage first keeps the linkage. -/
theorem Linking.ledger (h : Linking py s) {call : Call} (hlinks : LinksReplacement py s.jobs call) :
    Linking py { s with jobs := s.jobs.step d call } :=
  ⟨Ledger.linked_step d s.jobs call h.linked,
    h.corrections.mono fun _ he => mem_events_of_step h.linked call he,
    replacements_step h.linked h.replacements hlinks⟩

theorem not_correctionPair {row : AttemptRow} {pair : DocumentPair} (h : row.status ≠ .archived) :
    ¬ correctionPair row pair := fun hpair => h hpair.1

theorem Linking.onAttempts (h : Linking py s) {outcome : Except LedgerError (AttemptRow × Attempts)}
    {attemptId : String} {u : AttemptUpdate} {now : Instant}
    (hupdate : outcome = updateRerenderAttempt s.attempts attemptId u now)
    (hstatus : u.status ≠ .archived) : Linking py (s.commit (s.onAttempts outcome)) := by
  cases hcase : outcome with
  | error e => exact h
  | ok result =>
      obtain ⟨row, attempts'⟩ := result
      rw [hcase] at hupdate
      obtain ⟨old, -, -, hrow, -⟩ := updateRerenderAttempt_eq_ok hupdate.symm
      refine ⟨h.linked, h.corrections.update hupdate.symm fun pair hpair => ?_, h.replacements⟩
      exact absurd hpair (not_correctionPair (by rw [hrow]; exact hstatus))

/-- The creation of a job is a call of the ledger that archives nothing. -/
theorem Linking.createJob (h : Linking py s) {call : CreateCall} {record : JobFile}
    (hcreate : s.jobs.createReportJob d call = .ok (record, jobs')) :
    Linking py { s with jobs := jobs' } := by
  have hstep : s.jobs.step d (.ledger (.create call)) = jobs' := by
    apply Ledger.step_of_ok
    show (do return (← s.jobs.createReportJob d call).2) = _
    rw [hcreate]
    rfl
  rw [← hstep]
  exact h.ledger ⟨fun _ harchives => (by cases harchives), trivial⟩

/-- A call that writes the lineage first keeps the linkage. -/
theorem linking_perform (h : Linking py s) {op : CorrectionCall} (hlinks : LinksFirst py s op) :
    Linking py (s.perform d op).1 := by
  cases op with
  | getJob | listStatusEvents | listPendingArchiveLineage | recordLifecycleTransition
  | listUnresolvedArchiveAmbiguousAttempts | submitRenderPackage => exact h
  | getDocumentByRequestId => exact ⟨h.linked, h.corrections, h.replacements⟩
  | createRerenderAttempt lookedUp call =>
      simp only [CorrectionState.perform]
      cases houtcome : createRerenderAttempt d.toRuntime s.jobs s.attempts call with
      | error e => exact ⟨h.linked, h.corrections, h.replacements⟩
      | ok result =>
          obtain ⟨⟨row, created⟩, jobs', attempts'⟩ := result
          rcases createRerenderAttempt_eq_ok houtcome with
            ⟨-, rfl, rfl⟩ | ⟨-, -, hstatus, -, hinsert, hevent⟩
          · exact ⟨h.linked, h.corrections, h.replacements⟩
          · have hkept := h.event hevent (h.corrections.insert hinsert fun pair hpair =>
              absurd hpair (not_correctionPair (by rw [hstatus]; decide)))
            exact ⟨hkept.linked, hkept.corrections, hkept.replacements⟩
  | recordAdoptedRerenderOutcome call =>
      simp only [CorrectionState.perform]
      cases houtcome : recordAdoptedRerenderOutcome s.jobs s.attempts call with
      | error e => exact h
      | ok result =>
          obtain ⟨row, jobs', attempts'⟩ := result
          rcases recordAdoptedRerenderOutcome_eq_ok houtcome with ⟨rfl, rfl⟩ | ⟨hinsert, hevent⟩
          · exact h
          · refine h.event hevent (h.corrections.insert hinsert fun pair hpair => ?_)
            obtain ⟨source, target, transition⟩ := pair
            obtain ⟨-, hprevious, hdocument, hne, rfl⟩ := hpair
            cases hdocument
            exact hlinks source hprevious hne
  | markRerenderRendered => exact h.onAttempts rfl (by simp)
  | markRerenderArchiving => exact h.onAttempts rfl (by simp)
  | markRerenderArchived attemptId document context =>
      simp only [CorrectionState.perform]
      cases houtcome : markRerenderArchived s.jobs s.attempts attemptId document context with
      | error e => exact h
      | ok result =>
          obtain ⟨row, jobs', attempts'⟩ := result
          obtain ⟨hupdate, hevent⟩ := markRerenderArchived_eq_ok houtcome
          obtain ⟨old, hold, hid, hrow, -⟩ := updateRerenderAttempt_eq_ok hupdate
          refine h.event hevent (h.corrections.update hupdate fun pair hpair => ?_)
          obtain ⟨source, target, transition⟩ := pair
          obtain ⟨-, hprevious, hdocument, hne, rfl⟩ := hpair
          rw [hrow] at hprevious hdocument ⊢
          cases hdocument
          exact hlinks old hold hid source hprevious hne
  | markRerenderFailed attemptId failure cause context =>
      simp only [CorrectionState.perform]
      cases houtcome : markRerenderFailed s.jobs s.attempts attemptId failure context with
      | error e => exact ⟨h.linked, h.corrections, h.replacements⟩
      | ok result =>
          obtain ⟨row, jobs', attempts'⟩ := result
          obtain ⟨hupdate, hevent⟩ := markRerenderFailed_eq_ok houtcome
          obtain ⟨old, -, -, hrow, -⟩ := updateRerenderAttempt_eq_ok hupdate
          have hkept := h.event hevent (h.corrections.update hupdate fun pair hpair =>
            absurd hpair (not_correctionPair (by simp [hrow, AttemptRow.updated])))
          exact ⟨hkept.linked, hkept.corrections, hkept.replacements⟩
  | createJob call =>
      simp only [CorrectionState.perform]
      split
      · rename_i hcreate
        exact h.createJob hcreate
      · exact h
  | ledger call => exact h.ledger hlinks
  | jobs call => exact h.ledger hlinks

end Attempts

section Runs

variable {py : Runtime}

/-- The settlement asks for a pair with an event, unless an outcome has its text. -/
theorem attempted_of_hasLineage {jobs : Jobs.Ledger} {jobId : String} {pair : DocumentPair}
    (h : HasLineage py jobs jobId pair) :
    (∃ e ∈ jobs.events, e.reportJobId = jobId ∧
      ∃ other, Names py finalTypes e other ∧ pairKey other = pairKey pair) ∨
    ∃ request ∈ outstandingRequests py (Replay.listStatusEvents jobs jobId),
      pairKey request.pair = pairKey pair := by
  obtain ⟨e, he, hjob, htype, hpair⟩ := h
  by_cases hfinal : ∃ e ∈ jobs.events, e.reportJobId = jobId ∧
      ∃ other, Names py finalTypes e other ∧ pairKey other = pairKey pair
  · exact Or.inl hfinal
  · have hpending : e.eventType ∈ [lineagePendingEvent] := by
      by_contra hnot
      have houtcome : e.eventType ∈ finalTypes := by
        simp only [lineageEventTypes, finalTypes, List.mem_cons, List.not_mem_nil, or_false]
          at htype hnot ⊢
        rcases htype with h | h | h
        · exact Or.inl h
        · exact Or.inr h
        · exact absurd h hnot
      exact hfinal ⟨e, he, hjob, pair, ⟨houtcome, hpair⟩, rfl⟩
    refine Or.inr (exists_outstandingRequest (mem_listStatusEvents.mpr ⟨he, hjob⟩)
      ⟨hpending, hpair⟩ fun e' he' other hother hkey => ?_)
    obtain ⟨hmem, hjob'⟩ := mem_listStatusEvents.mp he'
    exact hfinal ⟨e', hmem, hjob', other, hother, hkey⟩

/-- In every run whose calls write the lineage first, no linkage is lost in any state. -/
theorem linkage_kept_where_written_first (d : Deployment) (events : List (Event CorrectionActivity))
    (hlinks : Along (correctionStep d) (fun c e => c.Permitted (LinksFirst d.toRuntime) e)
      (CorrectionSystem.initial Ledger.empty) events)
    (before after : List (Event CorrectionActivity)) (hsplit : events = before ++ after) :
    LinkageKept d.toRuntime
      (run (correctionStep d) (CorrectionSystem.initial Ledger.empty) before).store := by
  rw [hsplit] at hlinks
  have hinitial : Linking d.toRuntime (CorrectionState.initial Ledger.empty) :=
    ⟨Ledger.linked_empty, fun row hrow => absurd hrow List.not_mem_nil,
      fun r hr => absurd hr List.not_mem_nil⟩
  have hcall : ∀ s op, Linking d.toRuntime s → LinksFirst d.toRuntime s op →
      Linking d.toRuntime (CorrectionState.perform d s op).1 :=
    fun s op hs hop => linking_perform hs hop
  have hkept := System.store_invariant hcall hinitial (along_append.mp hlinks).1
  exact ⟨fun row hrow pair hpair => Or.inl (hkept.corrections row hrow pair hpair),
    hkept.replacements, fun jobId pair => attempted_of_hasLineage⟩

end Runs

section Samples

instance (row : AttemptRow) (pair : DocumentPair) : Decidable (correctionPair row pair) :=
  inferInstanceAs (Decidable (_ ∧ _ ∧ _ ∧ _ ∧ _))

instance (py : Runtime) (jobs : Jobs.Ledger) (jobId : String) (pair : DocumentPair) :
    Decidable (HasLineage py jobs jobId pair) :=
  inferInstanceAs (Decidable (∃ e ∈ jobs.events, e.reportJobId = jobId ∧
    e.eventType ∈ lineageEventTypes ∧ pairOf? py (payloadOf e) = some pair))

instance (py : Runtime) (jobs : Jobs.Ledger) (jobId document : String) :
    Decidable (LinksDocument py jobs jobId document) :=
  inferInstanceAs (Decidable (∀ r ∈ jobs.relationships.rows, _))

instance (py : Runtime) (jobs : Jobs.Ledger) : (call : Call) → Decidable (LinksEdge py jobs call)
  | .ledger (.upsertJobRelationship c) =>
      inferInstanceAs (Decidable (c.relationshipType = .regenerateReplacement →
        ∀ source ∈ documentOf jobs c.sourceJobId, ∀ target ∈ archivedDocument jobs c.derivedJobId,
          HasLineage py jobs c.sourceJobId ⟨source, target, "supersede"⟩))
  | .ledger (.create _) => isTrue trivial
  | .ledger (.mark _ _ _) => isTrue trivial
  | .ledger (.cancelJob _ _) => isTrue trivial
  | .ledger (.appendJobEvent _ _ _ _ _ _ _) => isTrue trivial
  | .ledger (.claimWorkItems _) => isTrue trivial
  | .ledger (.completeWorkItem _ _ _) => isTrue trivial
  | .ledger (.deferWorkItem _ _ _ _ _) => isTrue trivial
  | .ledger (.failWorkItem _ _ _ _ _ _ _) => isTrue trivial
  | .custody _ _ => isTrue trivial

instance (py : Runtime) (jobs : Jobs.Ledger) (call : Call) :
    Decidable (LinksReplacement py jobs call) :=
  inferInstanceAs (Decidable ((∀ written ∈ archives call, _) ∧ _))

instance (py : Runtime) (s : CorrectionState) : (op : CorrectionCall) →
    Decidable (LinksFirst py s op)
  | .markRerenderArchived attemptId document _ =>
      inferInstanceAs (Decidable (∀ row ∈ s.attempts.rows, row.rerenderAttemptId = attemptId →
        ∀ previous ∈ row.previousArchiveDocumentId, previous ≠ document →
          HasLineage py s.jobs row.reportJobId ⟨previous, document, "correct"⟩))
  | .recordAdoptedRerenderOutcome call =>
      inferInstanceAs (Decidable (∀ previous ∈ call.adopted.previousArchiveDocumentId,
        previous ≠ call.archiveDocumentId → HasLineage py s.jobs call.job.job.reportJobId
          ⟨previous, call.archiveDocumentId, "correct"⟩))
  | .ledger call => inferInstanceAs (Decidable (LinksReplacement py s.jobs (.ledger call)))
  | .jobs call => inferInstanceAs (Decidable (LinksReplacement py s.jobs call))
  | .getJob _ => isTrue trivial
  | .listStatusEvents _ => isTrue trivial
  | .listPendingArchiveLineage _ => isTrue trivial
  | .recordLifecycleTransition _ _ => isTrue trivial
  | .listUnresolvedArchiveAmbiguousAttempts _ => isTrue trivial
  | .getDocumentByRequestId _ _ _ => isTrue trivial
  | .createRerenderAttempt _ _ => isTrue trivial
  | .submitRenderPackage _ _ _ => isTrue trivial
  | .markRerenderRendered _ _ _ _ _ _ _ _ => isTrue trivial
  | .markRerenderArchiving _ _ _ => isTrue trivial
  | .markRerenderFailed _ _ _ _ => isTrue trivial
  | .createJob _ => isTrue trivial

/-- Calls of other components, each in a process of its own. -/
def componentCalls (position : Nat) : List Call → List (Event CorrectionActivity)
  | [] => []
  | call :: calls =>
      .start (.jobs call) :: .advance position :: componentCalls (position + 1) calls

/-- A rerender whose document `doc-2` the archive has verified. -/
def verifiedRerender : CorrectionActivity :=
  sampleRerender "1" (sampleRendered "areq_2" "archived_verified"
    [("archive_document_id", .str "doc-2")])

/-- The pending event of the pair is written before the rerender archives its document. -/
def writtenFirstRun : List (Event CorrectionActivity) :=
  componentCalls 0 (archivedJobCalls ++
    [.ledger (lineageEventCall "rjob_1" ⟨⟨"doc-1", "doc-2", "correct"⟩, "Rerender correction"⟩ none
      sampleOperator)]) ++
    .start verifiedRerender :: List.replicate 10 (.advance 8)

/-- The corrections of a state: the document of each attempt with the one it corrects. -/
def correctedDocuments (s : CorrectionState) : List (Option String × Option String) :=
  s.attempts.rows.map fun row => (row.previousArchiveDocumentId, row.archiveDocumentId)

theorem linkage_kept_where_written_first_pending :
    correctedDocuments (run (correctionStep sampleDeployment)
        (CorrectionSystem.initial Ledger.empty) writtenFirstRun).store =
        [(some "doc-1", some "doc-2")] ∧
      LinkageKept sampleDeployment.toRuntime (run (correctionStep sampleDeployment)
        (CorrectionSystem.initial Ledger.empty) writtenFirstRun).store :=
  ⟨by decide +kernel, linkage_kept_where_written_first sampleDeployment writtenFirstRun
    (by decide +kernel) writtenFirstRun [] (List.append_nil _).symm⟩

/-- The process of the rerender stops when the correction is archived; the reconciliation then
finds nothing to do. -/
def unlinkedRun : List (Event CorrectionActivity) :=
  componentCalls 0 archivedJobCalls ++ .start verifiedRerender :: List.replicate 8 (.advance 7) ++
    [.start (.reconcile (fun _ => (none, 0)) 10), .advance 8]

/-- The archived correction `doc-2` of `doc-1` has no event of its pair, and the query for
unresolved attempts does not return it. -/
theorem not_linkageKept_stopped :
    correctedDocuments (run (correctionStep sampleDeployment)
        (CorrectionSystem.initial Ledger.empty) unlinkedRun).store =
        [(some "doc-1", some "doc-2")] ∧
      ¬ LinkageKept sampleDeployment.toRuntime (run (correctionStep sampleDeployment)
        (CorrectionSystem.initial Ledger.empty) unlinkedRun).store := by
  refine ⟨by decide +kernel, fun h => ?_⟩
  have hlost : ∃ row ∈ (run (correctionStep sampleDeployment)
      (CorrectionSystem.initial Ledger.empty) unlinkedRun).store.attempts.rows,
      correctionPair row ⟨"doc-1", "doc-2", "correct"⟩ ∧
        ¬ HasLineage sampleDeployment.toRuntime (run (correctionStep sampleDeployment)
          (CorrectionSystem.initial Ledger.empty) unlinkedRun).store.jobs row.reportJobId
          ⟨"doc-1", "doc-2", "correct"⟩ ∧
        row ∉ listUnresolvedArchiveAmbiguousAttempts (run (correctionStep sampleDeployment)
          (CorrectionSystem.initial Ledger.empty) unlinkedRun).store.attempts row.reportJobId := by
    decide +kernel
  obtain ⟨row, hrow, hpair, hnone, hunlisted⟩ := hlost
  exact (h.corrections row hrow _ hpair).elim hnone hunlisted

end Samples

end LotusReport.Corrections
