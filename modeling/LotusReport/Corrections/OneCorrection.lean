import LotusReport.Corrections.Services

/-!
# One correction at a time

The resolution pass of a rerender looks up the failed attempts with an
ambiguous category and the retry flag, and no others. A fresh attempt is
created beside an unresolved one when the process stops before the outcome of
an attempt is recorded, when two calls overlap, when the renderer's answer
leaves the delivery open without an ambiguous category, or when an absence is
not the archive's own. Where none of this happens, every earlier attempt is
resolved before a fresh one is created.
-/

namespace LotusReport.Corrections

open Encoding Fallible Relational StateMachine Jobs Replay

section Statements

/-- The payload of a rendered response says what became of the document. -/
def custodyKnown (payload : Fields) : Bool :=
  let requested := (optionalStr payload "archive_request_id").isSome ||
    (optionalStr payload "artifact_sha256").isSome
  if optionalStr payload "archive_state" = some "archived_verified" then
    requested && (optionalStr payload "archive_document_id").isSome
  else if optionalStr payload "archive_state" = some "archive_pending" then requested
  else terminallyRefused payload ||
    (optionalStr payload "archive_state" == some "archive_failed" && requested)

/-- The renderer's answer is conclusive: it excludes a delivery, or it renders the ordered template
and says what became of the document. -/
def conclusive (package : RenderPackage) : Option RenderResponse → Bool
  | none => true
  | some response =>
      if rendered response then
        (templateContractMismatch package response.2).isNone && custodyKnown response.2
      else excludesDelivery response

/-- The calls under which attempts are resolved before a fresh one is created: where one is
created, no attempt of the job is still open and every ambiguous one was looked up; the renderer's
answers are conclusive; and an absence is the archive's own. -/
def Settling (s : CorrectionState) : CorrectionCall → Prop
  | .createRerenderAttempt lookedUp call =>
      s.attempts.lookup? (call.job.job.reportJobId, strip call.idempotencyKey) = none →
        ∀ row ∈ s.attempts.rows, row.reportJobId = call.job.job.reportJobId →
          (row.status = .archived ∨ row.status = .failed) ∧
            (row.ambiguous = true → row.rerenderAttemptId ∈ lookedUp)
  | .submitRenderPackage _ package answer => conclusive package answer = true
  | .getDocumentByRequestId _ _ answer => ∀ response ∈ answer, response.1 = 404 →
      archiveAbsenceConfirmed response.2 = true
  | _ => True

/-- No correction is duplicated through an ambiguous attempt: of two attempts, the earlier was
resolved before the later was created. -/
def OneCorrection (s : CorrectionState) : Prop := s.strayed = []

end Statements

section Invariant

/-- A failed attempt is accounted for: no delivery could have been made, it was refused for good,
or the query for ambiguous attempts returns it with its archive request. -/
def Accounted (s : CorrectionState) (row : AttemptRow) : Prop :=
  row.status = .failed → row.rerenderAttemptId ∈ s.undelivered ∨
    row.rerenderAttemptId ∈ s.refused ∨
    row.ambiguous = true ∧ present row.archiveRequestId = true

/-- The archive request of the attempt is recorded. -/
def Requested (s : CorrectionState) (attemptId : String) : Prop :=
  ∃ row ∈ s.attempts.rows, row.rerenderAttemptId = attemptId ∧ present row.archiveRequestId = true

/-- Nothing can come of the attempt, as far as the answers go. -/
def Cleared (s : CorrectionState) (attemptId : String) : Prop :=
  attemptId ∈ s.undelivered ∨ attemptId ∈ s.refused ∨ attemptId ∈ s.absent

/-- What the calls keep, and how the state develops. -/
def correctionDiscipline : Discipline CorrectionState CorrectionCall where
  Inv s := s.strayed = [] ∧ ∀ row ∈ s.attempts.rows, Accounted s row
  Later s t := s.undelivered ⊆ t.undelivered ∧ s.refused ⊆ t.refused ∧ s.absent ⊆ t.absent ∧
    ∀ attemptId, Requested s attemptId → Requested t attemptId
  Allowed := Settling
  refl _ := ⟨List.Subset.refl _, List.Subset.refl _, List.Subset.refl _, fun _ h => h⟩
  trans h h' := ⟨List.Subset.trans h.1 h'.1, List.Subset.trans h.2.1 h'.2.1,
    List.Subset.trans h.2.2.1 h'.2.2.1, fun attemptId hs => h'.2.2.2 attemptId (h.2.2.2 attemptId hs)⟩

variable {s t : CorrectionState} {attemptId : String} {row : AttemptRow}

theorem Cleared.later (h : Cleared s attemptId) (hlater : correctionDiscipline.Later s t) :
    Cleared t attemptId := by
  rcases h with h | h | h
  · exact Or.inl (hlater.1 h)
  · exact Or.inr (Or.inl (hlater.2.1 h))
  · exact Or.inr (Or.inr (hlater.2.2.1 h))

/-- A change of the state that keeps the attempts and the records, or adds to the records. -/
theorem keeps_of_attempts (hInv : correctionDiscipline.Inv s) (hattempts : t.attempts = s.attempts)
    (hundelivered : s.undelivered ⊆ t.undelivered) (hrefused : s.refused ⊆ t.refused)
    (habsent : s.absent ⊆ t.absent) (hstrayed : t.strayed = s.strayed) :
    correctionDiscipline.Inv t ∧ correctionDiscipline.Later s t := by
  refine ⟨⟨hstrayed.trans hInv.1, fun row hrow hfailed => ?_⟩, hundelivered, hrefused, habsent, ?_⟩
  · rw [hattempts] at hrow
    rcases hInv.2 row hrow hfailed with h | h | h
    · exact Or.inl (hundelivered h)
    · exact Or.inr (Or.inl (hrefused h))
    · exact Or.inr (Or.inr h)
  · rintro attemptId ⟨row, hrow, hfound⟩
    exact ⟨row, hattempts ▸ hrow, hfound⟩

section Update

variable {attempts attempts' : Attempts} {u : AttemptUpdate} {now : Instant} {row' : AttemptRow}

/-- An update of one attempt, with records that may have grown, keeps the discipline where the
updated row is accounted for. -/
theorem keeps_of_update (hInv : correctionDiscipline.Inv s)
    (hupdate : updateRerenderAttempt s.attempts attemptId u now = .ok (row', t.attempts))
    (haccounted : Accounted t row')
    (hundelivered : s.undelivered ⊆ t.undelivered) (hrefused : s.refused ⊆ t.refused)
    (habsent : t.absent = s.absent) (hstrayed : t.strayed = s.strayed)
    (hrequest : ∀ requestId ∈ u.archiveRequestId, requestId ≠ "") :
    correctionDiscipline.Inv t ∧ correctionDiscipline.Later s t := by
  refine ⟨⟨hstrayed.trans hInv.1, fun row hrow => ?_⟩, hundelivered, hrefused,
    habsent ▸ List.Subset.refl _, ?_⟩
  · rcases (mem_rows_of_update hupdate).mp hrow with rfl | ⟨hold, -⟩
    · exact haccounted
    · intro hfailed
      rcases hInv.2 row hold hfailed with h | h | h
      · exact Or.inl (hundelivered h)
      · exact Or.inr (Or.inl (hrefused h))
      · exact Or.inr (Or.inr h)
  · rintro otherId ⟨row, hrow, rfl, hpresent⟩
    by_cases hsame : row.rerenderAttemptId = attemptId
    · obtain ⟨old, hold, hid, rfl, -⟩ := updateRerenderAttempt_eq_ok hupdate
      have heq : old = row := List.inj_on_of_nodup_map s.attempts.key_nodup hold hrow
        (hid.trans hsame.symm)
      refine ⟨_, (mem_rows_of_update hupdate).mpr (Or.inl rfl), by rw [heq]; rfl, ?_⟩
      cases hnew : u.archiveRequestId with
      | none => simpa [AttemptRow.updated, coalesce, hnew, heq] using hpresent
      | some requestId =>
          simpa [AttemptRow.updated, coalesce, hnew, present] using hrequest requestId hnew
    · exact ⟨row, (mem_rows_of_update hupdate).mpr (Or.inr ⟨hrow, hsame⟩), rfl, hpresent⟩

theorem accounted_of_status (h : row.status ≠ .failed) : Accounted s row :=
  fun hfailed => absurd hfailed h

end Update

theorem keeps_of_insert (hInv : correctionDiscipline.Inv s) (hstatus : row.status ≠ .failed)
    (hinsert : s.attempts.insert? row = some t.attempts)
    (hundelivered : t.undelivered = s.undelivered) (hrefused : t.refused = s.refused)
    (habsent : t.absent = s.absent) (hstrayed : t.strayed = s.strayed) :
    correctionDiscipline.Inv t ∧ correctionDiscipline.Later s t := by
  obtain ⟨-, -, hrows⟩ := (Table.insert?_eq_some_iff _ _ _).mp hinsert
  refine ⟨⟨hstrayed.trans hInv.1, fun row' hrow' => ?_⟩, hundelivered ▸ List.Subset.refl _,
    hrefused ▸ List.Subset.refl _, habsent ▸ List.Subset.refl _, ?_⟩
  · rw [hrows] at hrow'
    rcases List.mem_append.mp hrow' with hold | hnew
    · have haccounted := hInv.2 row' hold
      unfold Accounted at haccounted ⊢
      rw [hundelivered, hrefused]
      exact haccounted
    · rw [List.mem_singleton.mp hnew]
      exact accounted_of_status hstatus
  · rintro attemptId ⟨row', hrow', hfound⟩
    exact ⟨row', hrows ▸ List.mem_append_left _ hrow', hfound⟩

end Invariant

section Calls

variable {d : Deployment} {s : CorrectionState}

/-- The calls that keep the discipline whatever led to them. -/
def Benign : CorrectionCall → Prop
  | .createRerenderAttempt _ _ => False
  | .markRerenderFailed _ _ _ _ => False
  | .markRerenderArchiving _ archiveRequestId _ => archiveRequestId ≠ ""
  | _ => True

theorem value_eq_ok {α : Type} {outcome : Except LedgerError (α × Jobs.Ledger × Attempts)} {a : α}
    (h : CorrectionState.value outcome = .ok a) :
    ∃ jobs attempts, outcome = .ok (a, jobs, attempts) := by
  cases outcome with
  | error e => cases h
  | ok result =>
      obtain ⟨b, jobs, attempts⟩ := result
      cases h
      exact ⟨jobs, attempts, rfl⟩

/-- A transaction that is rolled back or that updates one attempt which has not failed. -/
theorem keeps_of_commit {outcome : Except LedgerError (AttemptRow × Jobs.Ledger × Attempts)}
    {attemptId : String} {u : AttemptUpdate} {now : Instant} (hInv : correctionDiscipline.Inv s)
    (hupdate : ∀ row jobs attempts, outcome = .ok (row, jobs, attempts) →
      updateRerenderAttempt s.attempts attemptId u now = .ok (row, attempts))
    (hstatus : u.status ≠ .failed) (hrequest : ∀ requestId ∈ u.archiveRequestId, requestId ≠ "") :
    correctionDiscipline.Inv (s.commit outcome) ∧
      correctionDiscipline.Later s (s.commit outcome) := by
  cases houtcome : outcome with
  | error e => exact ⟨hInv, correctionDiscipline.refl s⟩
  | ok result =>
      obtain ⟨row, jobs, attempts⟩ := result
      have hdone := hupdate row jobs attempts houtcome
      obtain ⟨old, -, -, hrow, -⟩ := updateRerenderAttempt_eq_ok hdone
      refine keeps_of_update (t := { s with jobs := jobs, attempts := attempts }) hInv hdone
        (accounted_of_status ?_) (List.Subset.refl _) (List.Subset.refl _) rfl rfl hrequest
      rw [hrow]
      exact hstatus

theorem onAttempts_eq_ok {α : Type} {outcome : Except LedgerError (α × Attempts)} {a : α}
    {jobs : Jobs.Ledger} {attempts : Attempts}
    (h : s.onAttempts outcome = .ok (a, jobs, attempts)) : outcome = .ok (a, attempts) := by
  cases outcome with
  | error e => cases h
  | ok result =>
      cases h
      rfl

theorem keeps_of_benign {op : CorrectionCall} (hop : Benign op)
    (hInv : correctionDiscipline.Inv s) :
    correctionDiscipline.Inv (s.perform d op).1 ∧
      correctionDiscipline.Later s (s.perform d op).1 := by
  have hsame : correctionDiscipline.Inv s ∧ correctionDiscipline.Later s s :=
    ⟨hInv, correctionDiscipline.refl s⟩
  cases op with
  | createRerenderAttempt | markRerenderFailed => exact hop.elim
  | getJob | listStatusEvents | listPendingArchiveLineage | recordLifecycleTransition
  | listUnresolvedArchiveAmbiguousAttempts | submitRenderPackage => exact hsame
  | getDocumentByRequestId attempt archiveRequestId answer =>
      refine keeps_of_attempts hInv rfl (List.Subset.refl _) (List.Subset.refl _) ?_ rfl
      simp only [CorrectionState.perform]
      split
      · exact List.subset_cons_self _ _
      · exact List.Subset.refl _
  | recordAdoptedRerenderOutcome call =>
      simp only [CorrectionState.perform]
      cases houtcome : recordAdoptedRerenderOutcome s.jobs s.attempts call with
      | error e => exact hsame
      | ok result =>
          obtain ⟨row, jobs, attempts⟩ := result
          rcases recordAdoptedRerenderOutcome_eq_ok houtcome with ⟨rfl, -⟩ | ⟨hinsert, -⟩
          · exact keeps_of_attempts hInv rfl (List.Subset.refl _) (List.Subset.refl _)
              (List.Subset.refl _) rfl
          · exact keeps_of_insert (t := { s with jobs := jobs, attempts := attempts }) hInv
              (by simp [adoptedAttempt]) hinsert rfl rfl rfl rfl
  | markRerenderRendered attemptId renderJobId artifact fingerprint engine engineVersion duration
      now =>
      refine keeps_of_commit hInv (fun row jobs attempts h => onAttempts_eq_ok h) (by simp) ?_
      intro requestId hrequest
      cases hrequest
  | markRerenderArchiving attemptId archiveRequestId now =>
      refine keeps_of_commit hInv (fun row jobs attempts h => onAttempts_eq_ok h) (by simp) ?_
      intro requestId hrequest
      cases hrequest
      exact hop
  | markRerenderArchived attemptId documentId context =>
      refine keeps_of_commit hInv (fun row jobs attempts h => (markRerenderArchived_eq_ok h).1)
        (by simp) ?_
      intro requestId hrequest
      cases hrequest
  | createJob call =>
      simp only [CorrectionState.perform]
      split
      · exact keeps_of_attempts hInv rfl (List.Subset.refl _) (List.Subset.refl _)
          (List.Subset.refl _) rfl
      · exact hsame
  | ledger | jobs =>
      exact keeps_of_attempts hInv rfl (List.Subset.refl _) (List.Subset.refl _)
        (List.Subset.refl _) rfl

theorem safe_benign {α : Type} {op : CorrectionCall}
    {next : op.Result → Program CorrectionCall CorrectionCall.Result α}
    {Q : α → CorrectionState → Prop} (hop : Benign op)
    (h : ∀ t, correctionDiscipline.Later s t → correctionDiscipline.Inv t → Settling t op →
      correctionDiscipline.Inv (t.perform d op).1 →
      correctionDiscipline.Later t (t.perform d op).1 →
      correctionDiscipline.Safe (CorrectionState.perform d) Q (next (t.perform d op).2)
        (t.perform d op).1) :
    correctionDiscipline.Safe (CorrectionState.perform d) Q (.call op next) s := by
  intro t hst hInv hallowed
  obtain ⟨hkept, hlater⟩ := keeps_of_benign (d := d) hop hInv
  exact ⟨hkept, hlater, h t hst hInv hallowed hkept hlater⟩

theorem safe_of_benign {α : Type}
    {p : Program CorrectionCall CorrectionCall.Result (Except CorrectionFailure α)}
    (h : p.Calls Benign) :
    correctionDiscipline.Safe (CorrectionState.perform d)
      (Discipline.OnSuccess fun _ _ => True) p s := by
  rw [Discipline.onSuccess_true]
  exact Discipline.safe_of_calls h fun op t hop hInv _ => keeps_of_benign hop hInv

end Calls

section Others

variable {py : Runtime} {answers : LineageAnswers} {callerContext : ReportCallerContext}

theorem require_benign {α : Type} (outcome : Except LedgerError α) :
    (require outcome).Calls Benign := trivial

theorem recordArchiveLineage_benign (eventJobId : String) (request : LineageRequest) :
    (recordArchiveLineage answers callerContext eventJobId request).Calls Benign :=
  ⟨trivial, fun _ => ⟨trivial, fun _ => trivial⟩⟩

theorem settleRequests_benign (eventJobId : String) (requests : List LineageRequest) :
    (settleRequests answers callerContext eventJobId requests).Calls Benign := by
  induction requests with
  | nil => trivial
  | cons request requests ih =>
      exact (recordArchiveLineage_benign eventJobId request).andThen fun _ => ih

theorem settlePendingArchiveLineage_benign (eventJobId : String) :
    (settlePendingArchiveLineage py answers callerContext eventJobId).Calls Benign :=
  ⟨trivial, fun _ => settleRequests_benign eventJobId _⟩

theorem readJob_benign (jobId : String) : (readJob jobId).Calls Benign :=
  ⟨trivial, fun _ => trivial⟩

theorem reconcile_benign (limit : Int) :
    (reconcilePendingArchiveLineage py answers limit).Calls Benign := by
  refine ⟨trivial, fun outstanding => ?_⟩
  show (settleJobs py answers outstanding).Calls Benign
  have hall : ∀ jobs : List PendingArchiveLineage, (settleJobs py answers jobs).Calls Benign := by
    intro jobs
    induction jobs with
    | nil => trivial
    | cons pending rest ih =>
        apply (readJob_benign pending.jobId).andThen
        intro job
        apply (settlePendingArchiveLineage_benign job.job.reportJobId).andThen
        exact fun _ => ih
  exact hall outstanding

theorem linkReplacement_benign (pass : RegeneratePass) (source regenerated : JobFile) :
    (linkReplacement pass source regenerated).Calls Benign := by
  unfold linkReplacement
  split
  · trivial
  · split
    · trivial
    · apply Program.Calls.andThen
      · refine ⟨trivial, fun events => ?_⟩
        beta_reduce
        split
        · trivial
        · exact ⟨trivial, fun _ => trivial⟩
      · intro _
        split
        · split
          · trivial
          · exact recordArchiveLineage_benign _ _
        · trivial

theorem regenerateJob_benign (pass : RegeneratePass) : (regenerateJob pass).Calls Benign := by
  have hupsert : ∀ source regenerated now,
      (upsertRegenerateRelationship pass source regenerated now).Calls Benign :=
    fun _ _ _ => ⟨trivial, fun _ => trivial⟩
  apply (readJob_benign pass.jobId).andThen
  intro source
  apply (require_benign _).andThen
  intro _
  apply (require_benign _).andThen
  intro _
  apply (require_benign _).andThen
  intro regenerateKey
  split
  · trivial
  · refine ⟨trivial, fun outcome => ?_⟩
    apply (require_benign _).andThen
    intro regenerated
    apply (hupsert source regenerated _).andThen
    intro _
    have hcapture : (captureRegenerated pass source regenerated regenerateKey).Calls Benign := by
      unfold captureRegenerated
      split
      · exact Program.Calls.andThen ⟨trivial, fun _ => trivial⟩ fun _ => readJob_benign _
      · trivial
    apply hcapture.andThen
    intro regenerated
    have hrender : (renderRegenerated regenerated).Calls Benign := by
      unfold renderRegenerated
      split
      · exact readJob_benign _
      · trivial
    apply hrender.andThen
    intro regenerated
    apply (linkReplacement_benign pass source regenerated).andThen
    intro _
    apply (hupsert source regenerated _).andThen
    exact fun _ => trivial

theorem linkCorrection_benign (pass : RerenderPass) (attempt : AttemptRow)
    (documentId transitionReason : String) :
    (linkCorrection pass attempt documentId transitionReason).Calls Benign := by
  unfold linkCorrection
  split
  · split
    · trivial
    · exact recordArchiveLineage_benign _ _
  · trivial

end Others

section Rerender

variable {d : Deployment} {pass : RerenderPass} {s : CorrectionState} {job : JobFile}

/-- The safety of a program whose success has a consequence. -/
abbrev SafeCorrection (d : Deployment) {α : Type} (Q : α → CorrectionState → Prop)
    (p : CorrectionProgram α) (s : CorrectionState) : Prop :=
  correctionDiscipline.Safe (CorrectionState.perform d) (Discipline.OnSuccess Q) p s

theorem adoptCorrection_benign (attempt : AttemptRow) (documentId : String)
    (adopted : Option AttemptRow) :
    (adoptCorrection pass job attempt documentId adopted).Calls Benign := by
  refine ⟨trivial, fun archived => ?_⟩
  apply (require_benign _).andThen
  intro _
  apply (linkCorrection_benign pass attempt documentId _).andThen
  intro _
  split
  · trivial
  · exact ⟨trivial, fun _ => trivial⟩

/-- What is known of a listed attempt: its archive request is recorded, unless nothing can come of
it anyway. -/
def Listed (s : CorrectionState) (attempt : AttemptRow) : Prop :=
  present attempt.archiveRequestId = true ∨ attempt.rerenderAttemptId ∈ s.undelivered ∨
    attempt.rerenderAttemptId ∈ s.refused

theorem Listed.later {t : CorrectionState} {attempt : AttemptRow} (h : Listed s attempt)
    (hlater : correctionDiscipline.Later s t) : Listed t attempt := by
  rcases h with h | h | h
  · exact Or.inl h
  · exact Or.inr (Or.inl (hlater.1 h))
  · exact Or.inr (Or.inr (hlater.2.1 h))

theorem cleared_of_absence {t : CorrectionState} {attempt : AttemptRow} {archiveRequestId : String}
    {answer : ArchiveAnswer} {response : Int × Fields} (hlisted : Listed t attempt)
    (hanswer : answer = some response) (hstatus : response.1 = 404)
    (hsettling : Settling t (.getDocumentByRequestId attempt archiveRequestId answer)) :
    Cleared (t.perform d (.getDocumentByRequestId attempt archiveRequestId answer)).1
      attempt.rerenderAttemptId := by
  have hconfirmed := hsettling response (by rw [hanswer]; rfl) hstatus
  rcases hlisted with hpresent | hundelivered | hrefused
  · have hdenied : CorrectionState.deniesRecorded attempt answer = true := by
      rw [hanswer]
      simp [CorrectionState.deniesRecorded, hpresent, ArchiveAnswer.absent, hstatus, hconfirmed]
    refine Or.inr (Or.inr ?_)
    simp [CorrectionState.perform, hdenied]
  · exact Or.inl hundelivered
  · exact Or.inr (Or.inl hrefused)

theorem resolveEach_safe (attempts : List AttemptRow) (adopted : Option AttemptRow)
    (hlisted : ∀ a ∈ attempts, Listed s a) (hInv : correctionDiscipline.Inv s) :
    SafeCorrection d (fun result t => result = none →
      adopted = none ∧ ∀ a ∈ attempts, Cleared t a.rerenderAttemptId)
      (resolveEach pass job attempts adopted) s := by
  induction attempts generalizing s adopted with
  | nil =>
      intro t _ _ hnone
      exact ⟨hnone, fun a ha => by cases ha⟩
  | cons attempt attempts ih =>
      unfold resolveEach
      refine safe_benign trivial fun t hst hInvt hsettling hkept hlater => ?_
      have hothers : ∀ a ∈ attempts, Listed (t.perform d (.getDocumentByRequestId attempt
          (lookupRequestId attempt) (pass.resolution attempt).document)).1 a := fun a ha =>
        ((hlisted a (List.mem_cons_of_mem _ ha)).later hst).later hlater
      show SafeCorrection d _ (concludeLookup pass job attempt adopted _
        (pass.resolution attempt).document) _
      cases hanswer : (pass.resolution attempt).document with
      | none => exact fun _ _ _ => trivial
      | some response =>
          rw [hanswer] at hsettling hkept hothers
          unfold concludeLookup
          dsimp only
          split
          · rename_i documentId _
            apply Discipline.Safe.andThen
              (safe_of_benign (adoptCorrection_benign attempt documentId adopted)) hkept
            intro outcome u htu hInvu _
            apply (ih (some outcome) (fun a ha => (hothers a ha).later htu) hInvu).weaken
            intro result v _ hQ hnone
            cases (hQ hnone).1
          · split
            · exact fun _ _ _ => trivial
            · rename_i hstatus
              have hcleared := cleared_of_absence (d := d)
                ((hlisted attempt List.mem_cons_self).later hst) rfl (not_not.mp hstatus) hsettling
              apply (ih adopted hothers hkept).weaken
              intro result u hlater hQ hnone
              obtain ⟨hadopted, hrest⟩ := hQ hnone
              refine ⟨hadopted, fun a ha => ?_⟩
              rcases List.mem_cons.mp ha with rfl | ha
              · exact hcleared.later hlater
              · exact hrest a ha

theorem mem_listUnresolved {attempts : Attempts} {jobId : String} {row : AttemptRow} :
    row ∈ listUnresolvedArchiveAmbiguousAttempts attempts jobId ↔
      row ∈ attempts.rows ∧ row.reportJobId = jobId ∧ row.ambiguous = true := by
  simp [listUnresolvedArchiveAmbiguousAttempts]

theorem failed_of_ambiguous {row : AttemptRow} (h : row.ambiguous = true) : row.status = .failed := by
  simp only [AttemptRow.ambiguous, Bool.and_eq_true, beq_iff_eq] at h
  exact h.1.1

/-- Where the resolution pass adopts nothing, it has cleared every attempt it listed. -/
theorem resolveAmbiguousAttempts_safe :
    SafeCorrection d (fun result t => result.1 = none → ∀ id ∈ result.2, Cleared t id)
      (resolveAmbiguousAttempts pass job) s := by
  unfold resolveAmbiguousAttempts
  refine safe_benign trivial fun t _ hInvt _ _ _ => ?_
  show SafeCorrection d _ ((resolveEach pass job
    (listUnresolvedArchiveAmbiguousAttempts t.attempts job.job.reportJobId) none).andThen _) t
  have hlisted : ∀ a ∈ listUnresolvedArchiveAmbiguousAttempts t.attempts job.job.reportJobId,
      Listed t a := by
    intro a ha
    obtain ⟨hrow, -, hambiguous⟩ := mem_listUnresolved.mp ha
    rcases hInvt.2 a hrow (failed_of_ambiguous hambiguous) with h | h | ⟨-, h⟩
    · exact Or.inr (Or.inl h)
    · exact Or.inr (Or.inr h)
    · exact Or.inl h
  apply (resolveEach_safe _ none hlisted hInvt).andThen hInvt
  intro adopted u _ _ hQ
  apply Discipline.safe_done
  intro v huv _ hnone id hid
  obtain ⟨a, ha, rfl⟩ := List.mem_map.mp hid
  exact ((hQ hnone).2 a ha).later huv

section Failure

variable {attemptId : String} {failure : RerenderFailure} {cause : RenderResponse}

/-- The failure leaves its attempt accounted for: the answer excludes a delivery, or the archive
refused the document for good, or the category is ambiguous and the archive request is recorded. -/
def FailsAccounted (s : CorrectionState) (attemptId : String) (failure : RerenderFailure)
    (cause : RenderResponse) : Prop :=
  (rendered cause = false ∧ excludesDelivery cause = true) ∨
    (rendered cause = true ∧ terminallyRefused cause.2 = true) ∨
    (failure.failureCategory ∈ ambiguousCategories ∧ failure.retryEligible = true ∧
      Requested s attemptId)

theorem FailsAccounted.later {t : CorrectionState} (h : FailsAccounted s attemptId failure cause)
    (hlater : correctionDiscipline.Later s t) : FailsAccounted t attemptId failure cause :=
  h.imp_right (Or.imp_right fun ⟨hcategory, hretry, hrequested⟩ =>
    ⟨hcategory, hretry, hlater.2.2.2 attemptId hrequested⟩)

theorem keeps_of_failure (context : CallContext) (hInv : correctionDiscipline.Inv s)
    (hfails : FailsAccounted s attemptId failure cause) :
    correctionDiscipline.Inv (s.perform d (.markRerenderFailed attemptId failure cause context)).1 ∧
      correctionDiscipline.Later s
        (s.perform d (.markRerenderFailed attemptId failure cause context)).1 := by
  have hundelivered : s.undelivered ⊆ if (!rendered cause && excludesDelivery cause) = true then
      attemptId :: s.undelivered else s.undelivered := by
    split
    · exact List.subset_cons_self _ _
    · exact List.Subset.refl _
  have hrefused : s.refused ⊆ if (rendered cause && terminallyRefused cause.2) = true then
      attemptId :: s.refused else s.refused := by
    split
    · exact List.subset_cons_self _ _
    · exact List.Subset.refl _
  simp only [CorrectionState.perform]
  cases houtcome : markRerenderFailed s.jobs s.attempts attemptId failure context with
  | error e =>
      exact keeps_of_attempts hInv rfl hundelivered hrefused (List.Subset.refl _) rfl
  | ok result =>
      obtain ⟨row, jobs, attempts⟩ := result
      have hupdate := (markRerenderFailed_eq_ok houtcome).1
      obtain ⟨old, hold, hid, hrow, -⟩ := updateRerenderAttempt_eq_ok hupdate
      have hrowid : row.rerenderAttemptId = attemptId := by
        rw [hrow]
        exact hid
      refine keeps_of_update hInv hupdate (fun _ => ?_) hundelivered hrefused rfl rfl ?_
      · rcases hfails with ⟨hrendered, hexcluded⟩ | ⟨hrendered, hterminal⟩ |
          ⟨hcategory, hretry, other, hother, hotherid, hpresent⟩
        · refine Or.inl ?_
          simp [hrendered, hexcluded, hrowid]
        · refine Or.inr (Or.inl ?_)
          simp [hrendered, hterminal, hrowid]
        · have hsame : old = other := List.inj_on_of_nodup_map s.attempts.key_nodup hold hother
            (hid.trans hotherid.symm)
          refine Or.inr (Or.inr ⟨?_, ?_⟩)
          · rw [hrow]
            simp [AttemptRow.ambiguous, AttemptRow.updated, coalesce, hcategory, hretry]
          · rw [hrow, hsame]
            exact hpresent
      · intro requestId hrequest
        cases hrequest

theorem failAttempt_safe (pass : RerenderPass) {attempt : AttemptRow}
    (hfails : FailsAccounted s attempt.rerenderAttemptId failure cause) :
    SafeCorrection d (fun _ _ => True) (failAttempt pass attempt failure cause) s := by
  intro t hst hInv _
  obtain ⟨hkept, hlater⟩ := keeps_of_failure (d := d) (pass.context 4) hInv
    (hfails.later hst)
  refine ⟨hkept, hlater, Discipline.safe_done fun u _ _ => ?_⟩
  rw [Discipline.onSuccess_true]
  trivial

end Failure

section Delivery

variable {attempt : AttemptRow} {package : RenderPackage} {response : RenderResponse}
  {payload : Fields} {archiveRequestId : Option String}

theorem optionalStr_ne_empty {name text : String} (h : optionalStr payload name = some text) :
    text ≠ "" := by
  unfold optionalStr at h
  split at h
  · split at h
    · cases h
    · rename_i hne
      cases h
      exact hne
  · cases h

/-- The archive request of a response is never blank. -/
theorem archiveRequestIdOf_ne_empty {py : Runtime} {requestId : String}
    (h : archiveRequestIdOf py pass package payload = some requestId) : requestId ≠ "" := by
  unfold archiveRequestIdOf at h
  split at h
  · rename_i hstated
    cases h
    exact optionalStr_ne_empty hstated
  · obtain ⟨artifact, -, rfl⟩ := Option.map_eq_some_iff.mp h
    intro hempty
    have hlength := congrArg String.length hempty
    simp [deriveArchiveRequestId, String.length_append] at hlength

theorem archiveRequestIdOf_isSome (py : Runtime) (pass : RerenderPass) (package : RenderPackage)
    (payload : Fields) :
    (archiveRequestIdOf py pass package payload).isSome =
      ((optionalStr payload "archive_request_id").isSome ||
        (optionalStr payload "artifact_sha256").isSome) := by
  unfold archiveRequestIdOf
  cases optionalStr payload "archive_request_id" with
  | some requestId => rfl
  | none => simp

/-- A delivery that is not archived leaves its attempt accounted for, where the payload says what
became of the document and the archive request is recorded. -/
theorem fails_archiveFailure (py : Runtime) {attemptId : String}
    (hrendered : rendered response = true) (hknown : custodyKnown response.2 = true)
    (hrequest : archiveRequestId.isSome = ((optionalStr response.2 "archive_request_id").isSome ||
      (optionalStr response.2 "artifact_sha256").isSome))
    (hrequested : archiveRequestId.isSome = true → Requested s attemptId)
    (hopen : optionalStr response.2 "archive_state" = some "archived_verified" →
      archiveRequestId.isSome = true → optionalStr response.2 "archive_document_id" = none) :
    FailsAccounted s attemptId (archiveFailure py archiveRequestId response.2) response := by
  unfold custodyKnown at hknown
  dsimp only at hknown
  rw [← hrequest] at hknown
  split at hknown
  · rename_i hstate
    obtain ⟨hsome, hdocument⟩ := Bool.and_eq_true_iff.mp hknown
    rw [hopen hstate hsome] at hdocument
    cases hdocument
  · split at hknown
    · rename_i hstate
      have hne : archiveRequestId ≠ none := Option.isSome_iff_ne_none.mp hknown
      refine Or.inr (Or.inr ⟨?_, ?_, hrequested hknown⟩)
      · simp [archiveFailure, hstate, hne, ambiguousCategories]
      · simp [archiveFailure, hstate, hne]
    · by_cases hterminal : terminallyRefused response.2 = true
      · exact Or.inr (Or.inl ⟨hrendered, hterminal⟩)
      · simp only [Bool.not_eq_true] at hterminal
        rw [hterminal, Bool.false_or, Bool.and_eq_true_iff, beq_iff_eq] at hknown
        obtain ⟨hstate, hsome⟩ := hknown
        simp only [terminallyRefused, hstate, beq_self_eq_true, Bool.true_and] at hterminal
        refine Or.inr (Or.inr ⟨?_, ?_, hrequested hsome⟩)
        · simp [archiveFailure, hstate, ambiguousCategories]
        · simp [archiveFailure, hstate, hterminal]

theorem recordVerified_benign (documentId : String) :
    (Program.call (.markRerenderArchived attempt.rerenderAttemptId documentId (pass.context 3))
      fun archived => (require archived).andThen fun row =>
        (linkCorrection pass attempt documentId
          ("Rerender correction " ++ attempt.rerenderAttemptId)).andThen fun _ =>
        .done (.ok row) : CorrectionProgram AttemptRow).Calls Benign := by
  refine ⟨trivial, fun archived => ?_⟩
  apply (require_benign _).andThen
  intro row
  apply (linkCorrection_benign pass attempt documentId _).andThen
  exact fun _ => trivial

/-- The outcome of a delivery that the payload tells is safe to record. -/
theorem concludeDelivery_safe {py : Runtime} (hrendered : rendered response = true)
    (hknown : custodyKnown response.2 = true)
    (hrequest : archiveRequestId.isSome = ((optionalStr response.2 "archive_request_id").isSome ||
      (optionalStr response.2 "artifact_sha256").isSome))
    (hrequested : archiveRequestId.isSome = true → Requested s attempt.rerenderAttemptId) :
    SafeCorrection d (fun _ _ => True) (concludeDelivery py pass attempt archiveRequestId response)
      s := by
  have hfails (hopen : optionalStr response.2 "archive_state" = some "archived_verified" →
      archiveRequestId.isSome = true → optionalStr response.2 "archive_document_id" = none) :=
    failAttempt_safe (d := d) pass
      (fails_archiveFailure py hrendered hknown hrequest hrequested hopen)
  unfold concludeDelivery
  split
  · split
    · exact safe_of_benign (recordVerified_benign _)
    · rename_i hstate
      exact hfails fun hverified => absurd hverified hstate
  · rename_i hother
    apply hfails
    intro _ hsome
    obtain ⟨requestId, hid⟩ := Option.isSome_iff_exists.mp hsome
    cases hdocument : optionalStr response.2 "archive_document_id" with
    | none => rfl
    | some documentId => exact (hother documentId requestId hdocument hid).elim

theorem requested_of_archiving {t : CorrectionState} {attemptId requestId : String} {now : Instant}
    {row : AttemptRow} (hne : requestId ≠ "")
    (h : (t.perform d (.markRerenderArchiving attemptId requestId now)).2 = .ok row) :
    Requested (t.perform d (.markRerenderArchiving attemptId requestId now)).1 attemptId := by
  obtain ⟨jobs, attempts, houtcome⟩ := value_eq_ok h
  have hupdate := onAttempts_eq_ok houtcome
  obtain ⟨old, -, hid, hrow, -⟩ := updateRerenderAttempt_eq_ok hupdate
  have hstate : (t.perform d (.markRerenderArchiving attemptId requestId now)).1.attempts =
      attempts := by
    simp only [CorrectionState.perform, houtcome, CorrectionState.commit]
  refine ⟨row, ?_, ?_, ?_⟩
  · rw [hstate]
    exact (mem_rows_of_update hupdate).mpr (Or.inl rfl)
  · rw [hrow]
    exact hid
  · rw [hrow]
    simpa [AttemptRow.updated, coalesce, present] using hne

/-- The check of a transaction's outcome, and what follows its value. -/
theorem require_safe {α β : Type} {outcome : Except LedgerError α} {Q : β → CorrectionState → Prop}
    {next : α → CorrectionProgram β}
    (h : ∀ a, outcome = .ok a → SafeCorrection d Q (next a) s) :
    SafeCorrection d Q ((require outcome).andThen next) s := by
  cases outcome with
  | error e => exact fun _ _ _ => trivial
  | ok a => exact h a rfl

theorem recordRerenderArchiveOutcome_safe {py : Runtime} (hrendered : rendered response = true)
    (hknown : custodyKnown response.2 = true) :
    SafeCorrection d (fun _ _ => True)
      (recordRerenderArchiveOutcome py pass attempt package response) s := by
  have hrequest := archiveRequestIdOf_isSome py pass package response.2
  unfold recordRerenderArchiveOutcome
  split
  · rename_i hnone
    rw [hnone] at hrequest
    exact concludeDelivery_safe hrendered hknown hrequest fun h => by cases h
  · rename_i requestId hsome
    rw [hsome] at hrequest
    refine safe_benign (archiveRequestIdOf_ne_empty hsome) fun t _ _ _ _ _ => ?_
    apply require_safe
    intro row hrow
    apply concludeDelivery_safe hrendered hknown hrequest
    intro _
    exact requested_of_archiving (archiveRequestIdOf_ne_empty hsome) hrow

theorem concludeRender_safe {py : Runtime}
    (hconclusive : conclusive package (some response) = true) :
    SafeCorrection d (fun _ _ => True) (concludeRender py pass attempt package response) s := by
  unfold conclusive at hconclusive
  dsimp only at hconclusive
  unfold concludeRender
  split
  · rename_i hrendered
    rw [if_pos hrendered, Bool.and_eq_true_iff] at hconclusive
    split
    · rename_i hmismatch
      rw [hmismatch] at hconclusive
      cases hconclusive.1
    · refine safe_benign trivial fun t _ _ _ _ _ => ?_
      apply require_safe
      intro row _
      exact recordRerenderArchiveOutcome_safe hrendered hconclusive.2
  · rename_i hrendered
    rw [if_neg hrendered] at hconclusive
    exact failAttempt_safe pass (Or.inl ⟨Bool.not_eq_true _ ▸ hrendered, hconclusive⟩)

theorem renderAttempt_safe {py : Runtime} :
    SafeCorrection d (fun _ _ => True) (renderAttempt py pass job attempt) s := by
  unfold renderAttempt
  split
  · exact fun _ _ _ => trivial
  · refine safe_benign trivial fun t _ _ hsettling _ _ => ?_
    show SafeCorrection d _ (concludeSubmission py pass attempt _ (pass.renderAnswer _)) _
    cases hanswer : pass.renderAnswer _ with
    | none => exact fun _ _ _ => trivial
    | some response =>
        apply concludeRender_safe
        rw [← hanswer]
        exact hsettling

end Delivery

section Creation

variable {py : Runtime} {lookedUp : List String} {call : AttemptCall}

/-- Where a fresh attempt may be created, every attempt of the job is resolved. -/
theorem unresolved_eq_nil {t : CorrectionState} {jobId : String}
    (hInv : correctionDiscipline.Inv t) (hcleared : ∀ id ∈ lookedUp, Cleared t id)
    (hsettled : ∀ row ∈ t.attempts.rows, row.reportJobId = jobId →
      (row.status = .archived ∨ row.status = .failed) ∧
        (row.ambiguous = true → row.rerenderAttemptId ∈ lookedUp)) :
    t.unresolved jobId = [] := by
  unfold CorrectionState.unresolved
  rw [List.map_eq_nil_iff, List.filter_eq_nil_iff]
  intro row hrow
  simp only [Bool.and_eq_true, beq_iff_eq, Bool.not_eq_true', not_and, Bool.not_eq_false]
  intro hjob
  obtain ⟨harchived | hfailed, hlookedUp⟩ := hsettled row hrow hjob
  · simp [CorrectionState.resolved, harchived]
  · -- a failed attempt is accounted for; an ambiguous one was looked up and cleared
    have hCleared : Cleared t row.rerenderAttemptId := by
      rcases hInv.2 row hrow hfailed with h | h | h
      · exact Or.inl h
      · exact Or.inr (Or.inl h)
      · exact hcleared _ (hlookedUp h.1)
    rcases hCleared with h | h | h
    · simp [CorrectionState.resolved, hfailed, h]
    · simp [CorrectionState.resolved, h]
    · simp [CorrectionState.resolved, h]

/-- The creation of a fresh attempt keeps the discipline where the listed attempts are cleared. -/
theorem keeps_of_creation (hInv : correctionDiscipline.Inv s)
    (hcleared : ∀ id ∈ lookedUp, Cleared s id)
    (hsettling : Settling s (.createRerenderAttempt lookedUp call)) :
    correctionDiscipline.Inv (s.perform d (.createRerenderAttempt lookedUp call)).1 ∧
      correctionDiscipline.Later s (s.perform d (.createRerenderAttempt lookedUp call)).1 := by
  simp only [CorrectionState.perform]
  cases houtcome : createRerenderAttempt d.toRuntime s.jobs s.attempts call with
  | error e =>
      exact keeps_of_attempts hInv rfl (List.Subset.refl _) (List.Subset.refl _)
        (List.Subset.refl _) (List.append_nil _)
  | ok result =>
      obtain ⟨⟨row, created⟩, jobs, attempts⟩ := result
      rcases createRerenderAttempt_eq_ok houtcome with
        ⟨rfl, rfl, -⟩ | ⟨rfl, hnone, hstatus, hjob, hinsert, -⟩
      · exact keeps_of_attempts hInv rfl (List.Subset.refl _) (List.Subset.refl _)
          (List.Subset.refl _) (List.append_nil _)
      · have hresolved : s.unresolved row.reportJobId = [] := by
          rw [hjob]
          exact unresolved_eq_nil hInv hcleared (hsettling hnone)
        refine keeps_of_insert hInv (by rw [hstatus]; decide) hinsert rfl rfl rfl ?_
        simp [CorrectionState.value, Except.map, hresolved]

theorem rerenderAfresh_safe {snapshot : RetainedSnapshot}
    (hcleared : ∀ id ∈ lookedUp, Cleared s id) :
    SafeCorrection d (fun _ _ => True) (rerenderAfresh py pass job snapshot lookedUp) s := by
  unfold rerenderAfresh
  intro t hst hInv hsettling
  obtain ⟨hkept, hlater⟩ := keeps_of_creation (d := d) hInv
    (fun id hid => (hcleared id hid).later hst) hsettling
  refine ⟨hkept, hlater, ?_⟩
  apply require_safe
  rintro ⟨attempt, created⟩ _
  dsimp only
  split
  · exact renderAttempt_safe
  · exact fun _ _ _ => trivial

theorem rerenderAccepted_safe {snapshot : RetainedSnapshot} (hInv : correctionDiscipline.Inv s) :
    SafeCorrection d (fun _ _ => True) (rerenderAccepted py pass job snapshot) s := by
  unfold rerenderAccepted
  apply (safe_of_benign (settlePendingArchiveLineage_benign _)).andThen hInv
  intro _ t _ hInvt _
  apply resolveAmbiguousAttempts_safe.andThen hInvt
  rintro ⟨adopted, lookedUp⟩ u _ _ hcleared
  cases adopted with
  | some outcome => exact fun _ _ _ => trivial
  | none => exact rerenderAfresh_safe (hcleared rfl)

theorem rerenderJob_safe (hInv : correctionDiscipline.Inv s) :
    SafeCorrection d (fun _ _ => True) (rerenderJob py pass) s := by
  unfold rerenderJob
  split
  · exact fun _ _ _ => trivial
  · apply (safe_of_benign (readJob_benign pass.jobId)).andThen hInv
    intro job t _ hInvt _
    apply require_safe
    intro _ _
    apply require_safe
    intro _ _
    split
    · exact fun _ _ _ => trivial
    · exact rerenderAccepted_safe hInvt

end Creation

end Rerender

section Runs

variable {d : Deployment}

theorem activity_safe (a : CorrectionActivity) {s : CorrectionState}
    (hInv : correctionDiscipline.Inv s) :
    correctionDiscipline.Safe (CorrectionState.perform d) (fun _ _ => True)
      (a.program d.toRuntime) s := by
  cases a with
  | rerender pass =>
      exact (rerenderJob_safe hInv).bind hInv fun _ _ _ _ _ => fun _ _ _ => trivial
  | regenerate pass =>
      exact (safe_of_benign (regenerateJob_benign pass)).bind hInv
        fun _ _ _ _ _ => fun _ _ _ => trivial
  | reconcile answers limit =>
      exact (safe_of_benign (reconcile_benign limit)).bind hInv
        fun _ _ _ _ _ => fun _ _ _ => trivial
  | jobs call =>
      exact safe_benign trivial fun _ _ _ _ _ _ => fun _ _ _ => trivial

/-- In every run whose calls settle earlier attempts, no correction is duplicated in any state. -/
theorem rerender_creates_no_duplicate_correction (d : Deployment) (jobs : Jobs.Ledger)
    (events : List (Event CorrectionActivity))
    (hsettling : Along (correctionStep d) (fun c e => c.Permitted Settling e)
      (CorrectionSystem.initial jobs) events)
    (before after : List (Event CorrectionActivity)) (hsplit : events = before ++ after) :
    OneCorrection (run (correctionStep d) (CorrectionSystem.initial jobs) before).store := by
  rw [hsplit] at hsettling
  have hinitial : correctionDiscipline.Governs (CorrectionState.perform d)
      (CorrectionSystem.initial jobs) :=
    Discipline.governs_initial ⟨rfl, fun row hrow => absurd hrow List.not_mem_nil⟩
  obtain ⟨hgoverned, -⟩ := hinitial.run (fun a _ _ hInv => activity_safe a hInv)
    (along_append.mp hsettling).1
  exact hgoverned.inv.1

end Runs

section Samples

instance (s : CorrectionState) : (call : CorrectionCall) → Decidable (Settling s call)
  | .createRerenderAttempt lookedUp call =>
      inferInstanceAs (Decidable
        (s.attempts.lookup? (call.job.job.reportJobId, strip call.idempotencyKey) = none →
          ∀ row ∈ s.attempts.rows, row.reportJobId = call.job.job.reportJobId →
            (row.status = .archived ∨ row.status = .failed) ∧
              (row.ambiguous = true → row.rerenderAttemptId ∈ lookedUp)))
  | .submitRenderPackage _ package answer =>
      inferInstanceAs (Decidable (conclusive package answer = true))
  | .getDocumentByRequestId _ _ answer =>
      inferInstanceAs (Decidable (∀ response ∈ answer, response.1 = 404 →
        archiveAbsenceConfirmed response.2 = true))
  | .getJob _ => isTrue trivial
  | .listStatusEvents _ => isTrue trivial
  | .listPendingArchiveLineage _ => isTrue trivial
  | .recordLifecycleTransition _ _ => isTrue trivial
  | .listUnresolvedArchiveAmbiguousAttempts _ => isTrue trivial
  | .recordAdoptedRerenderOutcome _ => isTrue trivial
  | .markRerenderRendered _ _ _ _ _ _ _ _ => isTrue trivial
  | .markRerenderArchiving _ _ _ => isTrue trivial
  | .markRerenderArchived _ _ _ => isTrue trivial
  | .markRerenderFailed _ _ _ _ => isTrue trivial
  | .createJob _ => isTrue trivial
  | .ledger _ => isTrue trivial
  | .jobs _ => isTrue trivial

/-- The calls that take the job `rjob_1` to its archived document. -/
def archivedJobCalls : List Call :=
  [ sampleSubmit none,
    .ledger (.mark "rjob_1" .collectingData sampleOperator),
    .ledger (.mark "rjob_1" .dataReady sampleOperator),
    .ledger (.mark "rjob_1" (.rendering "rdr_1" "pdf" "portfolio-review" "v1") sampleOperator),
    .ledger (.mark "rjob_1"
      (.completed "rdr_1" "pdf" "portfolio-review" "v1" none none none none none none)
      sampleOperator),
    .ledger (.mark "rjob_1" (.archiving "areq_1") sampleOperator),
    .ledger (.mark "rjob_1" (.archived "areq_1" "doc-1") sampleOperator) ]

/-- The ledger with the archived job `rjob_1`. -/
def archivedJobLedger : Jobs.Ledger :=
  run (Ledger.step sampleDeployment) Ledger.empty archivedJobCalls

/-- A response of the renderer that states what became of the document. -/
def sampleRendered (archiveRequestId archiveState : String) (more : Fields) :
    RenderResponse :=
  (201, [ ("status", .str "rendered"),
    ("template_id", .str "portfolio-review"),
    ("template_version", .str "v1"),
    ("archive_request_id", .str archiveRequestId),
    ("archive_state", .str archiveState) ] ++ more)

/-- A rerender of the archived job; the archive denies the document of an earlier attempt. -/
def sampleRerender (n : String) (answer : RenderResponse) : CorrectionActivity :=
  .rerender
    { jobId := "rjob_1"
      reason := "Correct the footer."
      callerContext := sampleCaller
      idempotencyKey := some ("op-" ++ n)
      attemptId := "rra_" ++ n
      adoptedAttemptId := "rra_adopted_" ++ n
      snapshot := some ⟨"snap_1", "hash-1"⟩
      renderPackage := fun _ _ => .ok ⟨"portfolio-review", "v1", "PB-1"⟩
      renderAnswer := fun _ => some answer
      resolution := fun _ =>
        { document := some (404, [("error", .obj [("code", .str "document_not_found")])])
          archivedAt := 0
          adoptedAt := 0 }
      lineage := fun _ => (some (201, [("relationship_id", .str "rel-1")]), 0)
      lower := id
      parseInt := fun _ => none
      clock := fun _ => 0 }

/-- The first attempt is left with an unknown outcome, and the second is archived. -/
def oneCorrectionRun : List (Event CorrectionActivity) :=
  .start (sampleRerender "1" (sampleRendered "areq_2" "archive_pending" [])) ::
    List.replicate 8 (.advance 0) ++
    .start (sampleRerender "2" (sampleRendered "areq_3" "archived_verified"
      [("archive_document_id", .str "doc-3")])) ::
    List.replicate 11 (.advance 1)

theorem rerender_creates_no_duplicate_correction_after_absence :
    (run (correctionStep sampleDeployment) (CorrectionSystem.initial archivedJobLedger)
        oneCorrectionRun).store.attempts.rows.map (fun row => (row.rerenderAttemptId, row.status)) =
        [("rra_1", .failed), ("rra_2", .archived)] ∧
      OneCorrection (run (correctionStep sampleDeployment)
        (CorrectionSystem.initial archivedJobLedger) oneCorrectionRun).store :=
  ⟨by decide +kernel, rerender_creates_no_duplicate_correction sampleDeployment archivedJobLedger
    oneCorrectionRun (by decide +kernel) oneCorrectionRun [] (List.append_nil _).symm⟩

/-- The process of the first rerender stops when the archive has verified `doc-2` and the archive
request is recorded; the second rerender runs to its end. -/
def stoppedRun : List (Event CorrectionActivity) :=
  .start (sampleRerender "1" (sampleRendered "areq_2" "archived_verified"
      [("archive_document_id", .str "doc-2")])) ::
    List.replicate 7 (.advance 0) ++
    .start (sampleRerender "2" (sampleRendered "areq_3" "archived_verified"
      [("archive_document_id", .str "doc-3")])) ::
    List.replicate 10 (.advance 1)

/-- The second attempt is created, and archives a second correction, while the first stands at its
archive request. -/
theorem not_oneCorrection_stopped :
    (run (correctionStep sampleDeployment) (CorrectionSystem.initial archivedJobLedger)
        stoppedRun).store.attempts.rows.map
          (fun row => (row.rerenderAttemptId, row.status, row.archiveRequestId)) =
        [("rra_1", .archiving, some "areq_2"), ("rra_2", .archived, some "areq_3")] ∧
      ¬ OneCorrection (run (correctionStep sampleDeployment)
        (CorrectionSystem.initial archivedJobLedger) stoppedRun).store := by
  refine ⟨by decide +kernel, ?_⟩
  unfold OneCorrection
  decide +kernel

end Samples

end LotusReport.Corrections
