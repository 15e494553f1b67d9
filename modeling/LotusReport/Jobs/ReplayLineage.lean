import LotusReport.Jobs.Refinement
import LotusReport.Relational.Forest

/-!
# One replacement per failed work lineage

The `failed_work_replay` edges form a forest, since only the creation of a job
writes an edge to it. The guard of a replay finds the root of the source and
from there the whole lineage, and refuses the replay while another member is
live. So a lineage has at most one job in flight.
-/

namespace LotusReport.Jobs

open Encoding Fallible StateMachine Relational Relation JobFile

section Guard

variable {s : Ledger} {a b sourceJobId member : String} {job : JobRow}

/-- The job `b` replays the job `a`. -/
def Ledger.Replays (s : Ledger) (a b : String) : Prop := (a, b) ∈ s.replayEdges

theorem Ledger.replays_iff : s.Replays a b ↔ ∃ r ∈ s.relationships.rows,
    r.relationshipType = .failedWorkReplay ∧ r.sourceReportJobId = a ∧
      r.derivedReportJobId = b := by
  simp only [Ledger.Replays, Ledger.replayEdges, List.mem_map, List.mem_filter, beq_iff_eq,
    Prod.mk.injEq]
  constructor
  · rintro ⟨r, ⟨hr, htype⟩, hsource, hderived⟩
    exact ⟨r, hr, htype, hsource, hderived⟩
  · rintro ⟨r, hr, htype, hsource, hderived⟩
    exact ⟨r, ⟨hr, htype⟩, hsource, hderived⟩

/-- The query for ancestors finds the jobs from which the source descends. -/
theorem Ledger.mem_ancestors_iff {ancestor : String} :
    ancestor ∈ recursiveUnion (s.replayEdges.map Prod.swap) sourceJobId ↔
      ReflTransGen s.Replays ancestor sourceJobId := by
  rw [mem_recursiveUnion_iff, ← reflTransGen_swap]
  have hedge : (fun a b => (a, b) ∈ s.replayEdges.map Prod.swap) = Function.swap s.Replays := by
    funext a b
    simp [Function.swap, Ledger.Replays]
  rw [hedge]

/-- The source descends from the job that the query for the root finds. -/
theorem Ledger.reaches_of_lineageRoot (sourceJobId : String) :
    ReflTransGen s.Replays (s.lineageRoot sourceJobId) sourceJobId := by
  unfold Ledger.lineageRoot
  cases hroot : (recursiveUnion (s.replayEdges.map Prod.swap) sourceJobId).find? fun ancestor =>
      !s.replayEdges.any fun e => e.2 == ancestor with
  | none => exact .refl
  | some root => exact Ledger.mem_ancestors_iff.mp (List.mem_of_find?_eq_some hroot)

/-- The query for the root finds an ancestor that replays no job. -/
theorem Ledger.lineageRoot_spec (hf : Forest s.Replays) (sourceJobId : String) :
    ReflTransGen s.Replays (s.lineageRoot sourceJobId) sourceJobId ∧
      ∀ a, ¬ s.Replays a (s.lineageRoot sourceJobId) := by
  refine ⟨Ledger.reaches_of_lineageRoot sourceJobId, fun a ha => ?_⟩
  obtain ⟨r, hr, hroot⟩ := hf.exists_root sourceJobId
  have hfound : ∃ x ∈ recursiveUnion (s.replayEdges.map Prod.swap) sourceJobId,
      (!s.replayEdges.any fun e => e.2 == x) = true := by
    refine ⟨r, Ledger.mem_ancestors_iff.mpr hr, ?_⟩
    simp only [Bool.not_eq_true', List.any_eq_false, beq_iff_eq]
    rintro ⟨a, b⟩ he heq
    exact hroot a (heq ▸ he)
  obtain ⟨x, hx⟩ := Option.isSome_iff_exists.mp (List.find?_isSome.mpr hfound)
  have hspec := List.find?_some hx
  simp only [Bool.not_eq_true', List.any_eq_false, beq_iff_eq] at hspec
  unfold Ledger.lineageRoot at ha
  rw [hx, Option.getD_some] at ha
  exact hspec (a, x) ha rfl

/-- The guard looks at every other job that descends from the root. -/
theorem Ledger.liveMember_of_reaches
    (hreach : ReflTransGen s.Replays (s.lineageRoot sourceJobId) member) (hne : member ≠ sourceJobId)
    (hjob : s.jobs.find? member = some job) (hblocks : s.blocksReplay job = true) :
    s.liveMember (s.lineageRoot sourceJobId) sourceJobId = true := by
  unfold Ledger.liveMember
  refine List.any_eq_true.mpr ⟨member, (mem_recursiveUnion_iff _ _ _).mpr hreach, ?_⟩
  simp [hne, hjob, hblocks]

/-- The guard looks at every other member of the lineage. -/
theorem Ledger.liveMember_of_lineage (hf : Forest s.Replays)
    (hlineage : SameLineage s.Replays sourceJobId member) (hne : member ≠ sourceJobId)
    (hjob : s.jobs.find? member = some job) (hblocks : s.blocksReplay job = true) :
    s.liveMember (s.lineageRoot sourceJobId) sourceJobId = true := by
  obtain ⟨hroot, htop⟩ := Ledger.lineageRoot_spec hf sourceJobId
  exact Ledger.liveMember_of_reaches (hf.reaches_lineage_of_root htop hroot hlineage) hne hjob
    hblocks

/-- A member that is neither failed nor cancelled refuses a replay. -/
theorem Ledger.blocksReplay_of_open (hcancelled : job.status ≠ .cancelled)
    (hfailed : job.status ≠ .failed) : s.blocksReplay job = true := by
  unfold Ledger.blocksReplay
  rw [Condition.holds_neg_iff, Condition.or_eq_false_iff, Condition.and_eq_false_iff]
  simp [hcancelled, hfailed]

/-- A failed member whose archive outcome is open and that was not replayed refuses a replay. -/
theorem Ledger.blocksReplay_of_ambiguous (hfailed : job.status = .failed)
    {category : ReportFailureCategory} (hcategory : job.failureCategory = some category)
    (hambiguous : category ∈ ReportFailureCategory.archiveAmbiguousCategories)
    (hsource : ∀ b, ¬ s.Replays job.reportJobId b) : s.blocksReplay job = true := by
  unfold Ledger.blocksReplay
  rw [Condition.holds_neg_iff, Condition.or_eq_false_iff, Condition.and_eq_false_iff,
    Condition.or_eq_false_iff, Condition.notIn_eq_false_iff]
  refine ⟨by simp [hfailed], Or.inr ⟨⟨category, hambiguous, hcategory⟩, ?_⟩⟩
  simp only [Option.some.injEq, List.any_eq_false, beq_iff_eq]
  rintro ⟨a, b⟩ he heq
  exact hsource b (heq ▸ he)

/-- A replay that passes the guard has a failed source and no live relative. -/
theorem Ledger.not_blocksReplay_of_guard (hf : Forest s.Replays) {source : JobRow}
    (hguard : s.replayGuard sourceJobId = .ok source)
    (hlineage : SameLineage s.Replays sourceJobId member) (hne : member ≠ sourceJobId)
    (hjob : s.jobs.find? member = some job) : s.blocksReplay job = false := by
  by_contra hblocks
  have hlive := Ledger.liveMember_of_lineage hf hlineage hne hjob (by simpa using hblocks)
  rw [(Ledger.replayGuard_eq_ok hguard).2.2.2.2] at hlive
  cases hlive

theorem Ledger.status_of_child {source : JobRow} (hguard : s.replayGuard sourceJobId = .ok source)
    (hchild : s.Replays sourceJobId member) (hne : member ≠ sourceJobId)
    (hjob : s.jobs.find? member = some job) :
    job.status = .failed ∨ job.status = .cancelled := by
  by_contra hopen
  rw [not_or] at hopen
  have hlive := Ledger.liveMember_of_reaches
    ((Ledger.reaches_of_lineageRoot sourceJobId).tail hchild) hne hjob
    (Ledger.blocksReplay_of_open hopen.2 hopen.1)
  rw [(Ledger.replayGuard_eq_ok hguard).2.2.2.2] at hlive
  cases hlive

theorem Ledger.status_of_guard (hf : Forest s.Replays) {source : JobRow}
    (hguard : s.replayGuard sourceJobId = .ok source)
    (hlineage : SameLineage s.Replays sourceJobId member) (hne : member ≠ sourceJobId)
    (hjob : s.jobs.find? member = some job) :
    job.status = .failed ∨ job.status = .cancelled := by
  have hquiet := Ledger.not_blocksReplay_of_guard hf hguard hlineage hne hjob
  by_contra hopen
  rw [not_or] at hopen
  rw [Ledger.blocksReplay_of_open hopen.2 hopen.1] at hquiet
  cases hquiet

end Guard

section Statuses

variable {e : Effect} {f f' : JobFile}

/-- The effects of the ledger's own calls. -/
def Effect.OfLedger : Effect → Prop
  | .recorded | .moved | .cancelled | .parked | .claimed _ | .completed | .settled | .deferred
  | .attemptFailed _ | .enqueued => True
  | _ => False

theorem LedgerCall.ofLedger {c : LedgerCall} {jobId : String} (h : c.Allows jobId e) :
    e.OfLedger := by
  cases c <;> simp only [LedgerCall.Allows] at h
  · exact h ▸ trivial
  · rcases h.2 with rfl | rfl <;> trivial
  · rcases h.2 with rfl | rfl <;> trivial
  · exact h.2 ▸ trivial
  · rcases h with rfl | ⟨n, rfl⟩ <;> trivial
  · rcases h with rfl | rfl | rfl <;> trivial
  · rcases h with rfl | rfl <;> trivial
  · rcases h with rfl | rfl <;> trivial

/-- The ledger's own calls never put a job back in flight. -/
theorem FileStep.inFlight_of_ledger (h : FileStep e f f') (he : e.OfLedger)
    (hflight : f'.job.status.inFlight = true) : f.job.status.inFlight = true := by
  cases h with
  | record | park | claim | claimRequired | complete | settle | defer | retry | exhaustTerminal
  | exhaustSettled | exhaustParked | enqueue => exact hflight
  | move _ _ hallowed => exact inFlight_of_transitionAllowed hallowed hflight
  | cancel => cases hflight
  | exhaustFailed _ _ _ htarget =>
      have hstatus : ReportJobStatus.failed.inFlight = true := htarget ▸ hflight
      cases hstatus
  | offer | reserve | refuse | archiveRequest | wait | schedule | confirm | resume => exact he.elim

/-- Only an archived job has an archived document. -/
def DocumentIsArchived (f : JobFile) : Prop :=
  f.job.status ≠ .archived → f.job.archiveDocumentId = none

theorem FileStep.documentIsArchived (h : FileStep e f f') (he : e.OfLedger)
    (hf : DocumentIsArchived f) : DocumentIsArchived f' := by
  have hopen : ∀ {target : ReportJobStatus},
      isReportJobTransitionAllowed f.job.status target = true → f.job.archiveDocumentId = none := by
    intro target hallowed
    refine hf fun harchived => ?_
    rw [not_transitionAllowed_of_final (Or.inl harchived)] at hallowed
    cases hallowed
  intro hstatus
  cases h with
  | record | park | claim | claimRequired | complete | settle | defer | retry | exhaustTerminal
  | exhaustSettled | exhaustParked | enqueue => exact hf hstatus
  | move ht _ hallowed =>
      simp [movedFile, transitionedJob, ht.archiveDocument hstatus, hopen hallowed]
  | cancel _ hcancellable =>
      refine hf fun harchived => ?_
      rw [harchived] at hcancellable
      cases hcancellable
  | exhaustFailed _ _ ht htarget _ hallowed =>
      have hnone := ht.archiveDocument (by simp [htarget])
      simp [movedFile, setWork, transitionedJob, hnone, hopen hallowed]
  | offer | reserve | refuse | archiveRequest | wait | schedule | confirm | resume => exact he.elim

end Statuses

section Edges

variable {s t : Ledger} {d : Deployment}

/-- A relationship call that writes a `failed_work_replay` edge repeats an existing one. -/
def RepeatsReplayEdge (s : Ledger) : LedgerCall → Prop
  | .upsertJobRelationship c => c.relationshipType = .failedWorkReplay →
      (s.relationships.find? c.pair).isSome = true
  | _ => True

instance (s : Ledger) (c : LedgerCall) : Decidable (RepeatsReplayEdge s c) :=
  match c with
  | .upsertJobRelationship c => inferInstanceAs (Decidable
      (c.relationshipType = .failedWorkReplay → (s.relationships.find? c.pair).isSome = true))
  | .create _ | .mark _ _ _ | .cancelJob _ _ | .appendJobEvent _ _ _ _ _ _ _ | .claimWorkItems _
  | .completeWorkItem _ _ _ | .deferWorkItem _ _ _ _ _ | .failWorkItem _ _ _ _ _ _ _ => isTrue trivial

theorem Ledger.replays_eq_of_rows {s t : Ledger}
    (h : ∀ r, r ∈ t.relationships.rows ∧ r.relationshipType = .failedWorkReplay →
      ∃ r' ∈ s.relationships.rows, r'.pair = r.pair)
    (h' : ∀ r ∈ s.relationships.rows, ∃ r' ∈ t.relationships.rows, r'.pair = r.pair) :
    t.Replays = s.Replays := by
  funext a b
  refine propext ⟨fun hab => ?_, fun hab => ?_⟩
  · obtain ⟨r, hr, htype, rfl, rfl⟩ := Ledger.replays_iff.mp hab
    obtain ⟨r', hr', hpair⟩ := h r ⟨hr, htype⟩
    simp only [RelationshipRow.pair, Prod.mk.injEq] at hpair
    exact Ledger.replays_iff.mpr ⟨r', hr', hpair.2.2.trans htype, hpair.1, hpair.2.1⟩
  · obtain ⟨r, hr, htype, rfl, rfl⟩ := Ledger.replays_iff.mp hab
    obtain ⟨r', hr', hpair⟩ := h' r hr
    simp only [RelationshipRow.pair, Prod.mk.injEq] at hpair
    exact Ledger.replays_iff.mpr ⟨r', hr', hpair.2.2.trans htype, hpair.1, hpair.2.1⟩

theorem replays_related {c : RelationshipCall}
    {relationships : Table RelationshipRow.pair RelationshipRow.pair}
    (hrepeats : RepeatsReplayEdge s (.upsertJobRelationship c))
    (h : relationships.rows = s.relationships.rows ++ [c.row (dtToText c.now)] ∨
      ∃ r, s.relationships.find? c.pair = some r ∧
        relationships = s.relationships.put (c.row r.createdAt)) :
    Ledger.Replays { s with relationships := relationships } = s.Replays := by
  apply Ledger.replays_eq_of_rows
  · rintro r ⟨hr, htype⟩
    rcases h with hrows | ⟨r₀, hr₀, rfl⟩
    · rw [hrows, List.mem_append, List.mem_singleton] at hr
      rcases hr with hold | rfl
      · exact ⟨r, hold, rfl⟩
      · obtain ⟨r₁, hr₁⟩ := Option.isSome_iff_exists.mp (hrepeats htype)
        exact ⟨r₁, Table.mem_of_find? hr₁, Table.key_of_find? hr₁⟩
    · simp only [Table.rows_put, List.mem_map] at hr
      obtain ⟨r₁, hr₁, rfl⟩ := hr
      exact ⟨r₁, hr₁, (Table.key_written _ _).symm⟩
  · intro r hr
    rcases h with hrows | ⟨r₀, hr₀, rfl⟩
    · exact ⟨r, by simp [hrows, hr], rfl⟩
    · exact ⟨_, by simp only [Table.rows_put]; exact List.mem_map_of_mem hr, Table.key_written _ _⟩

/-- No edge touches a job that does not exist. -/
theorem Ledger.Linked.isolated (hs : s.Linked) {jobId : String}
    (hnone : s.jobs.find? jobId = none) : Isolated s.Replays jobId := by
  intro a
  constructor
  · intro h
    obtain ⟨r, hr, -, -, hderived⟩ := Ledger.replays_iff.mp h
    obtain ⟨job, hjob⟩ := hs.derived r hr
    rw [hderived, hnone] at hjob
    cases hjob
  · intro h
    obtain ⟨r, hr, -, hsource, -⟩ := Ledger.replays_iff.mp h
    obtain ⟨job, hjob⟩ := hs.source r hr
    rw [hsource, hnone] at hjob
    cases hjob

variable {c : CreateCall} {sub : Submission} {f : JobFile}

/-- A job accepted without a source adds no edge. -/
theorem Accepts.replays_none (h : Accepts d s c sub none f t) : t.Replays = s.Replays := by
  unfold Ledger.Replays Ledger.replayEdges
  rw [h.relationships]
  rfl

/-- A replay adds the edge from its source to the new job. -/
theorem Accepts.replays_some {source : JobRow} {reason : String} (hs : s.Linked)
    (h : Accepts d s c sub (some (source, reason)) f t) :
    t.Replays = extend s.Replays source.reportJobId c.jobId := by
  have hnew : s.relationships.find? (c.relationshipRow source reason).pair = none := by
    refine (Table.find?_eq_none_iff _ _).mpr fun r hr hpair => ?_
    obtain ⟨job, hjob⟩ := hs.derived r hr
    simp only [RelationshipRow.pair, CreateCall.relationshipRow, Prod.mk.injEq] at hpair
    rw [hpair.2.1, h.fresh] at hjob
    cases hjob
  have hrows : t.relationships.rows =
      s.relationships.rows ++ [c.relationshipRow source reason] := by
    rw [h.relationships]
    change ((s.relationships.insert? (c.relationshipRow source reason)).getD s.relationships).rows =
      s.relationships.rows ++ [c.relationshipRow source reason]
    cases hins : s.relationships.insert? (c.relationshipRow source reason) with
    | none => exact absurd ⟨hnew, hnew⟩ ((Table.insert?_eq_none_iff _ _).mp hins)
    | some rows => exact ((Table.insert?_eq_some_iff _ _ _).mp hins).2.2
  funext a b
  refine propext ⟨fun hab => ?_, fun hab => ?_⟩
  · obtain ⟨r, hr, htype, rfl, rfl⟩ := Ledger.replays_iff.mp hab
    rw [hrows, List.mem_append, List.mem_singleton] at hr
    rcases hr with hold | rfl
    · exact Or.inl (Ledger.replays_iff.mpr ⟨r, hold, htype, rfl, rfl⟩)
    · exact Or.inr ⟨rfl, rfl⟩
  · rcases hab with hold | ⟨rfl, rfl⟩
    · obtain ⟨r, hr, hrest⟩ := Ledger.replays_iff.mp hold
      exact Ledger.replays_iff.mpr ⟨r, by simp [hrows, hr], hrest⟩
    · exact Ledger.replays_iff.mpr
        ⟨c.relationshipRow source reason, by simp [hrows], rfl, rfl, rfl⟩

end Edges

section Lineage

variable {s t : Ledger} {d : Deployment}

/-- The invariant of lineages. -/
structure Lineages (s : Ledger) : Prop where
  linked : s.Linked
  forest : Forest s.Replays
  single : ∀ j k f g, SameLineage s.Replays j k → s.file? j = some f → s.file? k = some g →
    f.job.status.inFlight = true → g.job.status.inFlight = true → j = k
  documents : ∀ j f, s.file? j = some f → DocumentIsArchived f

theorem lineages_empty : Lineages Ledger.empty := by
  refine ⟨Ledger.linked_empty, ⟨?_, fun _ => 0, ?_⟩, ?_, ?_⟩
  · intro a a' b h
    cases h
  · intro a b h
    cases h
  · intro j k f g _ hf
    cases hf
  · intro j f hf
    cases hf

theorem Lineages.changes (h : Lineages s) {allowed : String → Effect → Prop}
    (hledger : ∀ j e, allowed j e → e.OfLedger) (hchanges : s.Changes allowed t) : Lineages t := by
  have hreplays : t.Replays = s.Replays := by
    unfold Ledger.Replays Ledger.replayEdges
    rw [hchanges.relationships]
  have hold : ∀ {j f'}, t.file? j = some f' →
      ∃ f, s.file? j = some f ∧ FileRun (allowed j) f f' := by
    intro j f' hf'
    rcases hchanges.file j with ⟨-, hnone⟩ | ⟨f, f₁, hf, hf₁, hrun⟩
    · rw [hf'] at hnone
      cases hnone
    · rw [hf'] at hf₁
      cases hf₁
      exact ⟨f, hf, hrun⟩
  have hflight : ∀ {j f f'}, FileRun (allowed j) f f' → f'.job.status.inFlight = true →
      f.job.status.inFlight = true := by
    intro j f f' hrun
    exact hrun.invariant (I := fun g => g.job.status.inFlight = true →
      f.job.status.inFlight = true)
      (fun e g g' he hstep hg hg' => hg (hstep.inFlight_of_ledger (hledger j e he) hg')) id
  refine ⟨hchanges.linked h.linked, hreplays ▸ h.forest, fun j k f' g' hlineage hf' hg' hj hk => ?_,
    fun j f' hf' => ?_⟩
  · obtain ⟨f, hf, hrunf⟩ := hold hf'
    obtain ⟨g, hg, hrung⟩ := hold hg'
    exact h.single j k f g (hreplays ▸ hlineage) hf hg (hflight hrunf hj) (hflight hrung hk)
  · obtain ⟨f, hf, hrun⟩ := hold hf'
    exact hrun.invariant (fun e g g' he hstep => hstep.documentIsArchived (hledger j e he))
      (h.documents j f hf)

theorem Lineages.not_inFlight_of_guard (h : Lineages s) {sourceJobId k : String} {source : JobRow}
    {g : JobFile} (hguard : s.replayGuard sourceJobId = .ok source)
    (hlineage : SameLineage s.Replays sourceJobId k) (hg : s.file? k = some g) :
    g.job.status.inFlight = false := by
  have hjob := (Ledger.file?_eq_some_iff.mp hg).1
  by_cases hk : k = sourceJobId
  · obtain ⟨hsource, hfailed, -⟩ := Ledger.replayGuard_eq_ok hguard
    rw [hk, hsource] at hjob
    cases hjob
    rw [hfailed]
    rfl
  · rcases Ledger.status_of_guard h.forest hguard hlineage hk hjob with hstatus | hstatus <;>
      rw [hstatus] <;> rfl

section Accept

variable {c : CreateCall} {sub : Submission} {source : Option (JobRow × String)} {f : JobFile}

/-- Two jobs in flight in one lineage after an acceptance were there before it. -/
theorem Accepts.single (h : Lineages s) (haccepts : Accepts d s c sub source f t)
    {j k : String} {f₁ f₂ : JobFile} (hlineage : SameLineage t.Replays j k)
    (hj : t.file? j = some f₁) (hk : t.file? k = some f₂) (hflight₁ : f₁.job.status.inFlight = true)
    (hflight₂ : f₂.job.status.inFlight = true) : j = k := by
  have hisolated := h.linked.isolated haccepts.fresh
  -- within the old edges the new job is alone
  have hold : SameLineage s.Replays j k → j = k := by
    intro hsame
    by_cases hnewj : c.jobId = j
    · subst hnewj
      exact (hisolated.sameLineage_eq h.forest hsame).symm
    · by_cases hnewk : c.jobId = k
      · subst hnewk
        exact hisolated.sameLineage_eq h.forest (hsame.symm _ _)
      · rw [haccepts.files, if_neg hnewj] at hj
        rw [haccepts.files, if_neg hnewk] at hk
        exact h.single j k f₁ f₂ hsame hj hk hflight₁ hflight₂
  cases source with
  | none =>
      rw [haccepts.replays_none] at hlineage
      exact hold hlineage
  | some replayed =>
      obtain ⟨source, reason⟩ := replayed
      obtain ⟨sourceJobId, -, hguard⟩ := Ledger.replaySource_eq_some haccepts.guarded
      have hsource := (Ledger.replayGuard_eq_ok hguard).1
      have hid : source.reportJobId = sourceJobId := Table.key_of_find? hsource
      have hne : sourceJobId ≠ c.jobId := by
        rintro rfl
        rw [haccepts.fresh] at hsource
        cases hsource
      have hquiet : ∀ {x g}, SameLineage s.Replays sourceJobId x → t.file? x = some g →
          g.job.status.inFlight = true → x = c.jobId := by
        intro x g hx hg hflight
        by_contra hnew
        rw [haccepts.files, if_neg (Ne.symm hnew)] at hg
        rw [h.not_inFlight_of_guard hguard hx hg] at hflight
        cases hflight
      rw [haccepts.replays_some h.linked, hid] at hlineage
      rcases sameLineage_extend h.forest hisolated hne hlineage with
        hsame | ⟨rfl, heq | hmember⟩ | ⟨rfl, heq | hmember⟩
      · exact hold hsame
      · exact heq.symm
      · exact (hquiet hmember hk hflight₂).symm
      · exact heq
      · exact hquiet hmember hj hflight₁

theorem Lineages.accepts (h : Lineages s) (haccepts : Accepts d s c sub source f t) :
    Lineages t := by
  refine ⟨haccepts.linked, ?_, fun j k f₁ f₂ hlineage hj hk => haccepts.single h hlineage hj hk, ?_⟩
  · cases source with
    | none => exact haccepts.replays_none ▸ h.forest
    | some replayed =>
        obtain ⟨source, reason⟩ := replayed
        obtain ⟨sourceJobId, -, hguard⟩ := Ledger.replaySource_eq_some haccepts.guarded
        have hsource := (Ledger.replayGuard_eq_ok hguard).1
        rw [haccepts.replays_some h.linked, Table.key_of_find? hsource]
        refine h.forest.extend (h.linked.isolated haccepts.fresh) ?_
        rintro rfl
        rw [haccepts.fresh] at hsource
        cases hsource
  · intro j g hg
    rw [haccepts.files] at hg
    split at hg
    · cases hg
      exact fun _ => haccepts.opened.archiveDocument
    · exact h.documents j g hg

end Accept

/-- A call of the ledger keeps the lineages, if it writes replay edges only by creation. -/
theorem Lineages.step (h : Lineages s) (d : Deployment) {c : LedgerCall}
    (hrepeats : RepeatsReplayEdge s c) : Lineages (s.step d (.ledger c)) := by
  rcases Ledger.step_cases d s (.ledger c) h.linked with hsame | hperformed
  · rwa [hsame]
  · generalize s.step d (.ledger c) = t at hperformed
    cases hperformed with
    | changed hchanges => exact h.changes (fun j e he => LedgerCall.ofLedger he) hchanges
    | accepted haccepts => exact h.accepts haccepts
    | related hlinked hrows =>
        have hsame := replays_related hrepeats hrows
        exact ⟨hlinked, hsame ▸ h.forest,
          fun j k f g hlineage => h.single j k f g (hsame ▸ hlineage), h.documents⟩

end Lineage

section Run

/-- One call of the ledger. -/
abbrev ledgerStep (d : Deployment) (s : Ledger) (c : LedgerCall) : Ledger := s.step d (.ledger c)

/-- The calls write `failed_work_replay` edges by creation only, and otherwise repeat them. -/
def ReplaysByCreation (d : Deployment) (calls : List LedgerCall) : Prop :=
  Along (ledgerStep d) RepeatsReplayEdge Ledger.empty calls

instance (d : Deployment) (calls : List LedgerCall) : Decidable (ReplaysByCreation d calls) :=
  inferInstanceAs (Decidable (Along (ledgerStep d) RepeatsReplayEdge Ledger.empty calls))

theorem lineages_run (d : Deployment) {calls : List LedgerCall} (h : ReplaysByCreation d calls) :
    Lineages (run (ledgerStep d) Ledger.empty calls) :=
  run_invariant (fun _ _ hs hrepeats => hs.step d hrepeats) lineages_empty h

/-- The properties of lineages in a state. -/
structure OneReplacement (d : Deployment) (s : Ledger) : Prop where
  /-- At most one job of a lineage is in flight. -/
  single : ∀ j k jobJ jobK, SameLineage s.Replays j k → s.jobs.find? j = some jobJ →
    s.jobs.find? k = some jobK → jobJ.status.inFlight = true → jobK.status.inFlight = true → j = k
  /-- A replay under a new key has a failed source and no live relative. -/
  guarded : ∀ c sub sourceJobId reason record t, c.replay = some (sourceJobId, reason) →
    submission d c = .ok sub → s.requests.lookup? (c.callerContext.tenantId, sub.key) = none →
    s.createReportJob d c = .ok (record, t) →
    (∃ source, s.jobs.find? sourceJobId = some source ∧ source.status = .failed ∧
      source.retryEligible = true ∧ source.archiveDocumentId = none) ∧
    ∀ member job, member ≠ sourceJobId → SameLineage s.Replays sourceJobId member →
      s.jobs.find? member = some job → job.status.inFlight = false ∧
        job.status ≠ .completedWithWarnings ∧ job.status ≠ .archived

theorem replayGuard_of_create {d : Deployment} {s t : Ledger} {c : CreateCall} {sub : Submission}
    {sourceJobId reason : String} {record : JobFile} (hs : s.Linked)
    (hreplay : c.replay = some (sourceJobId, reason)) (hsub : submission d c = .ok sub)
    (hnovel : s.requests.lookup? (c.callerContext.tenantId, sub.key) = none)
    (hcreate : s.createReportJob d c = .ok (record, t)) :
    ∃ source, s.replayGuard sourceJobId = .ok source := by
  rcases Ledger.createReportJob_eq_ok hs hcreate with
    ⟨sub', existing, hsub', hexisting, -⟩ | ⟨sub', source, f, haccepts⟩
  · rw [hsub] at hsub'
    cases hsub'
    rw [hnovel] at hexisting
    cases hexisting
  · have hguarded := haccepts.guarded
    unfold Ledger.replaySource at hguarded
    rw [hreplay] at hguarded
    obtain ⟨row, hguard, -⟩ := bind_eq_ok.mp hguarded
    exact ⟨row, hguard⟩

theorem Lineages.oneReplacement {d : Deployment} {s : Ledger} (h : Lineages s) :
    OneReplacement d s := by
  refine ⟨fun j k jobJ jobK hlineage hj hk hflightJ hflightK => ?_,
    fun c sub sourceJobId reason record t hreplay hsub hnovel hcreate => ?_⟩
  · obtain ⟨f, hf, rfl⟩ := h.linked.file?_of_find? hj
    obtain ⟨g, hg, rfl⟩ := h.linked.file?_of_find? hk
    exact h.single j k f g hlineage hf hg hflightJ hflightK
  · obtain ⟨source, hguard⟩ := replayGuard_of_create h.linked hreplay hsub hnovel hcreate
    obtain ⟨hsource, hfailed, heligible, -⟩ := Ledger.replayGuard_eq_ok hguard
    refine ⟨⟨source, hsource, hfailed, heligible, ?_⟩, fun member job hne hlineage hjob => ?_⟩
    · obtain ⟨f, hf, rfl⟩ := h.linked.file?_of_find? hsource
      exact h.documents sourceJobId f hf (by simp [hfailed])
    · rcases Ledger.status_of_guard h.forest hguard hlineage hne hjob with hstatus | hstatus <;>
        rw [hstatus] <;> decide

/-- For every interleaving of ledger calls, a lineage has at most one job in flight, and a replay
under a new key succeeds only for a failed, retry-eligible source without a document, while no
other member of the lineage is in flight, completed with warnings or archived. -/
theorem replay_lineage (d : Deployment) (calls : List LedgerCall) (h : ReplaysByCreation d calls) :
    OneReplacement d (run (ledgerStep d) Ledger.empty calls) :=
  (lineages_run d h).oneReplacement

section Sample

/-- The context of an operator. -/
def sampleOperator : CallContext := ⟨"operator", "corr-1", "trace-1", none, 0⟩

/-- A submitted job that failed. -/
def failedRun : List LedgerCall :=
  [ .create (submitPortfolioReviewJob sampleCaller (some "key-1")
      ⟨"rrq_1", "rjob_1", "rwork_1", .ok none, 0⟩ sampleRequest),
    .mark "rjob_1" (.failed .renderExecutionFailed "render failed" true) sampleOperator ]

/-- The replay of a job after the calls, with the number of the job to create. -/
def sampleReplay (calls : List LedgerCall) (sourceJobId n : String) : Option CreateCall := do
  let source ← (run (ledgerStep sampleDeployment) Ledger.empty calls).file? sourceJobId
  (createReplayDerivedJob sampleCaller (some ("key-" ++ n))
    ⟨"rrq_" ++ n, "rjob_" ++ n, "rwork_" ++ n, .ok none, 0⟩ Coercions.standard source
    (.portfolio sampleRequest)
    (.error cannotBeReplayed) "operator retry").toOption

/-- The calls, and then the replay of a job. -/
def thenReplay (calls : List LedgerCall) (sourceJobId n : String) : List LedgerCall :=
  calls ++ ((sampleReplay calls sourceJobId n).map LedgerCall.create).toList

end Sample

/-- A failed job with its replacement in flight. -/
theorem replay_lineage_replayed :
    (run (ledgerStep sampleDeployment) Ledger.empty (thenReplay failedRun "rjob_1" "2")).replayEdges =
      [("rjob_1", "rjob_2")] ∧
    OneReplacement sampleDeployment (run (ledgerStep sampleDeployment) Ledger.empty
      (thenReplay failedRun "rjob_1" "2")) := by
  exact ⟨by decide +kernel, replay_lineage sampleDeployment _ (by decide +kernel)⟩

end Run

end LotusReport.Jobs
