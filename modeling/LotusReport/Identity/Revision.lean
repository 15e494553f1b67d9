import Mathlib.Data.List.Perm.Basic
import LotusReport.Encoding.Text
import LotusReport.Identity.SeriesKey

/-!
# Report revisions

A captured report revision is identified by its series key, by the evidence that
its sources stated and by the facts of its payload. The identifier is the digest
of one canonical text, so it changes when and only when one of these changes.
-/

namespace LotusReport.Identity

open Encoding Json

section Sources

/-- The fields that a source may state about the revision it served, in the order of
`_SOURCE_REVISION_FIELDS`. -/
inductive RevisionField where
  | sourceService
  | sourceProduct
  | sourceProductVersion
  | asOfDate
  | generatedAt
  | sourceSnapshotId
  | contentHash
  | restatementVersion
  | sourceBatchFingerprint
  | calculationRunId
  | methodologyVersion
  | supportabilityStatus
  | reconciliationState
deriving DecidableEq, Repr

namespace RevisionField

def all : List RevisionField :=
  [sourceService, sourceProduct, sourceProductVersion, asOfDate, generatedAt, sourceSnapshotId,
    contentHash, restatementVersion, sourceBatchFingerprint, calculationRunId, methodologyVersion,
    supportabilityStatus, reconciliationState]

def name : RevisionField → String
  | sourceService => "source_service"
  | sourceProduct => "source_product"
  | sourceProductVersion => "source_product_version"
  | asOfDate => "as_of_date"
  | generatedAt => "generated_at"
  | sourceSnapshotId => "source_snapshot_id"
  | contentHash => "content_hash"
  | restatementVersion => "restatement_version"
  | sourceBatchFingerprint => "source_batch_fingerprint"
  | calculationRunId => "calculation_run_id"
  | methodologyVersion => "methodology_version"
  | supportabilityStatus => "supportability_status"
  | reconciliationState => "reconciliation_state"

/-- `QUALIFYING_REVISION_EVIDENCE_FIELDS`: the fields that identify a data revision. -/
def qualifying : RevisionField → Bool
  | sourceSnapshotId | contentHash | restatementVersion | sourceBatchFingerprint
  | calculationRunId => true
  | _ => false

theorem mem_all (f : RevisionField) : f ∈ all := by cases f <;> decide

theorem name_injective : Function.Injective name := by
  intro f g h
  exact List.inj_on_of_nodup_map (by decide : (all.map name).Nodup) (mem_all f) (mem_all g) h

end RevisionField

/-- What a source stated about the revision it served. -/
structure SourceRevision where
  sourceService : String
  sourceProduct : Option String
  sourceProductVersion : Option String
  asOfDate : Option String
  generatedAt : Option String
  sourceSnapshotId : Option String
  contentHash : Option String
  restatementVersion : Option String
  sourceBatchFingerprint : Option String
  calculationRunId : Option String
  methodologyVersion : Option String
  supportabilityStatus : Option String
  reconciliationState : Option String
  named : sourceService ≠ ""

/-- The value of a field. -/
def SourceRevision.field (r : SourceRevision) : RevisionField → Option String
  | .sourceService => some r.sourceService
  | .sourceProduct => r.sourceProduct
  | .sourceProductVersion => r.sourceProductVersion
  | .asOfDate => r.asOfDate
  | .generatedAt => r.generatedAt
  | .sourceSnapshotId => r.sourceSnapshotId
  | .contentHash => r.contentHash
  | .restatementVersion => r.restatementVersion
  | .sourceBatchFingerprint => r.sourceBatchFingerprint
  | .calculationRunId => r.calculationRunId
  | .methodologyVersion => r.methodologyVersion
  | .supportabilityStatus => r.supportabilityStatus
  | .reconciliationState => r.reconciliationState

/-- What a source states: a blank value states nothing. -/
def SourceRevision.evidence (r : SourceRevision) (f : RevisionField) : Option String :=
  (r.field f).filter fun value => strip value != ""

/-- The stated fields as a dictionary. -/
def evidenceObject (evidence : RevisionField → Option String) : Fields :=
  RevisionField.all.filterMap fun f => (evidence f).map fun value => (f.name, .str value)

/-- The canonical form of a source revision. -/
def SourceRevision.canonical (r : SourceRevision) : Json := .obj (evidenceObject r.evidence)

/-- A stated field identifies which data revision the source served. -/
def SourceRevision.statesRevisionEvidence (r : SourceRevision) : Bool :=
  RevisionField.all.any fun f => f.qualifying && (r.evidence f).isSome

/-- How much of a vector is backed by evidence. -/
inductive Coverage where
  | unknown
  | partly
  | complete
deriving DecidableEq, Repr

/-- A claim of complete coverage names sources, and each of them stated evidence. -/
def coverageBacked (revisions : List SourceRevision) : Coverage → Bool
  | .complete => !revisions.isEmpty && revisions.all fun r =>
      revisions.any fun r' => r'.sourceService == r.sourceService && r'.statesRevisionEvidence
  | _ => true

/-- The revision evidence behind one captured report. -/
structure SourceRevisionVector where
  revisions : List SourceRevision
  coverage : Coverage
  backed : coverageBacked revisions coverage = true

/-- The revisions in the order of their canonical texts. -/
def SourceRevisionVector.canonicalRevisions (v : SourceRevisionVector) : List Json :=
  (v.revisions.map SourceRevision.canonical).insertionSort fun a b =>
    canonicalJson a ≤ canonicalJson b

/-- The identity form of a vector: the stated evidence without the coverage claim. -/
def SourceRevisionVector.evidenceCanonical (v : SourceRevisionVector) : Json :=
  .obj [("revisions", .arr v.canonicalRevisions)]

def SourceRevisionVector.digest (py : Runtime) (v : SourceRevisionVector) : String :=
  py.digest v.evidenceCanonical

end Sources

section Derivation

/-- The refusals of the derivation. -/
inductive RevisionError where
  | circularIdentity
  | contentDigestRequired
deriving DecidableEq, Repr

def RevisionError.message : RevisionError → String
  | circularIdentity =>
      "REPORT_REVISION_CIRCULAR_IDENTITY: the snapshot payload already " ++
        "carries a report_revision_id; the revision binding lives beside " ++
        "the payload, never inside its own preimage."
  | contentDigestRequired =>
      "REPORT_REVISION_CONTENT_DIGEST_REQUIRED: a report revision " ++
        "exists only for captured facts; refusing to mint identity " ++
        "without the factual-content digest."

def reportRevisionIdVersion : String := "rrv3"

def factualBoundaryVersion : String := "fb1"

/-- The keys that say when and through which request facts were captured. -/
def captureInstanceKeys : List String := ["generated_at", "captured_at", "correlation_id", "trace_id"]

mutual

/-- The value without capture-instance keys at any depth. -/
def factualContent : Json → Json
  | .obj fields => .obj (factualFields fields)
  | .arr items => .arr (factualItems items)
  | value => value

def factualItems : List Json → List Json
  | [] => []
  | j :: items => factualContent j :: factualItems items

def factualFields : Fields → Fields
  | [] => []
  | (k, j) :: fields =>
      if k ∈ captureInstanceKeys then factualFields fields
      else (k, factualContent j) :: factualFields fields

end

/-- The digest of the factual content of a payload. -/
def factualContentDigest (py : Runtime) (snapshotPayload : Fields) :
    Except RevisionError String :=
  if (lookup snapshotPayload "report_revision_id").isSome then .error .circularIdentity
  else .ok ("sha256:" ++ py.digest (factualContent (.obj snapshotPayload)))

/-- The identity of one captured report revision. -/
structure ReportRevisionIdentity where
  reportRevisionId : String
  seriesDigest : String
  sourceRevisionDigest : String
  factualContentDigest : String
  factualBoundaryVersion : String

/-- What the revision identifier is the digest of. -/
def revisionPreimage (seriesKey : ReportSeriesKey) (sourceRevisions : SourceRevisionVector)
    (factualContentDigest : String) : Json :=
  .obj
    [ ("identity_version", .str reportRevisionIdVersion),
      ("factual_boundary_version", .str factualBoundaryVersion),
      ("series", .obj seriesKey.canonical),
      ("source_revisions", sourceRevisions.evidenceCanonical),
      ("factual_content_digest", .str factualContentDigest) ]

/-- Derive the identity of a report revision. -/
def deriveReportRevision (py : Runtime) (seriesKey : ReportSeriesKey)
    (sourceRevisions : SourceRevisionVector) (factualContentDigest : String) :
    Except RevisionError ReportRevisionIdentity :=
  if strip factualContentDigest = "" then .error .contentDigestRequired
  else .ok
    { reportRevisionId := reportRevisionIdVersion ++ "_" ++
        py.digest (revisionPreimage seriesKey sourceRevisions factualContentDigest)
      seriesDigest := seriesKey.digest py
      sourceRevisionDigest := sourceRevisions.digest py
      factualContentDigest := factualContentDigest
      factualBoundaryVersion := factualBoundaryVersion }

/-- What one capture recorded: the series it was made for, the evidence of its sources and its
payload. -/
structure Capture where
  seriesKey : ReportSeriesKey
  sourceRevisions : SourceRevisionVector
  snapshotPayload : Fields
  seriesWellFormed : seriesKey.WellFormed
  payloadWellFormed : wellFormed (.obj snapshotPayload) = true

/-- The revision of a capture. -/
def Capture.revision (py : Runtime) (c : Capture) : Except RevisionError ReportRevisionIdentity := do
  let digest ← factualContentDigest py c.snapshotPayload
  deriveReportRevision py c.seriesKey c.sourceRevisions digest

end Derivation

section Evidence

/-- The vectors state the same evidence, each piece as often. -/
def SameEvidence (v w : SourceRevisionVector) : Prop :=
  (v.revisions.map SourceRevision.evidence).Perm (w.revisions.map SourceRevision.evidence)

/-- The payloads state the same facts. -/
def SameFacts (xs ys : Fields) : Prop :=
  agrees (factualContent (.obj xs)) (factualContent (.obj ys)) = true

/-- The captures are of one series, with the same evidence and the same facts. -/
structure SameRevision (same : Json → Json → Prop) (a b : Capture) : Prop where
  series : SameSeries same a.seriesKey b.seriesKey
  evidence : SameEvidence a.sourceRevisions b.sourceRevisions
  facts : SameFacts a.snapshotPayload b.snapshotPayload

theorem distinct_evidenceObject (evidence : RevisionField → Option String) :
    Distinct (evidenceObject evidence) := by
  unfold Distinct evidenceObject
  rw [List.map_filterMap]
  refine List.Nodup.filterMap (fun f g name hf hg => ?_) (by decide)
  simp only [Option.map_map, Option.mem_def, Option.map_eq_some_iff, Function.comp_apply] at hf hg
  obtain ⟨-, -, hf⟩ := hf
  obtain ⟨-, -, hg⟩ := hg
  exact RevisionField.name_injective (hf.trans hg.symm)

theorem lookup_evidenceObject (evidence : RevisionField → Option String) (f : RevisionField) :
    lookup (evidenceObject evidence) f.name = (evidence f).map Json.str := by
  refine Option.ext fun j => ?_
  rw [lookup_eq_some_iff (distinct_evidenceObject evidence), evidenceObject, List.mem_filterMap,
    Option.map_eq_some_iff]
  constructor
  · rintro ⟨g, -, hg⟩
    obtain ⟨value, hvalue, heq⟩ := Option.map_eq_some_iff.mp hg
    obtain ⟨hname, rfl⟩ := Prod.mk.inj heq
    rw [RevisionField.name_injective hname] at hvalue
    exact ⟨value, hvalue, rfl⟩
  · rintro ⟨value, hvalue, rfl⟩
    exact ⟨f, RevisionField.mem_all f, by simp [hvalue]⟩

theorem wellFormed_evidenceObject (evidence : RevisionField → Option String) :
    wellFormed (.obj (evidenceObject evidence)) = true := by
  rw [wellFormed_obj]
  refine ⟨distinct_evidenceObject evidence, fun field hfield => ?_⟩
  obtain ⟨f, -, hf⟩ := List.mem_filterMap.mp hfield
  obtain ⟨value, -, rfl⟩ := Option.map_eq_some_iff.mp hf
  rfl

/-- The canonical form of evidence loses nothing of it. -/
theorem canonical_evidenceObject_injective :
    Function.Injective fun evidence => Json.canonical (.obj (evidenceObject evidence)) := by
  intro evidence evidence' h
  have hlookup := (canonical_obj_eq_iff (distinct_evidenceObject evidence)
    (distinct_evidenceObject evidence')).mp h
  funext f
  have hf := hlookup f.name
  rw [lookup_evidenceObject, lookup_evidenceObject] at hf
  cases he : evidence f <;> cases he' : evidence' f <;> simp_all [Json.canonical]

/-- The order in which revisions are sorted. -/
def textLe (a b : Json) : Prop := canonicalJson a ≤ canonicalJson b

instance : DecidableRel textLe :=
  fun a b => inferInstanceAs (Decidable (canonicalJson a ≤ canonicalJson b))

instance : Std.Total textLe := ⟨fun a b => le_total (canonicalJson a) (canonicalJson b)⟩

instance : IsTrans Json textLe := ⟨fun _ _ _ h h' => le_trans (α := String) h h'⟩

theorem canonicalRevisions_perm (v : SourceRevisionVector) :
    v.canonicalRevisions.Perm
      ((v.revisions.map SourceRevision.evidence).map fun e => .obj (evidenceObject e)) := by
  rw [List.map_map]
  exact List.perm_insertionSort _ _

theorem evidence_of_mem {v : SourceRevisionVector} {j : Json} (h : j ∈ v.canonicalRevisions) :
    ∃ evidence, j = .obj (evidenceObject evidence) := by
  obtain ⟨evidence, -, rfl⟩ := List.mem_map.mp ((canonicalRevisions_perm v).mem_iff.mp h)
  exact ⟨evidence, rfl⟩

/-- The sorted revisions are determined by what was stated, whatever the order. -/
theorem canonicalRevisions_eq {v w : SourceRevisionVector} (h : SameEvidence v w) :
    v.canonicalRevisions = w.canonicalRevisions := by
  have hperm : v.canonicalRevisions.Perm w.canonicalRevisions :=
    ((canonicalRevisions_perm v).trans (h.map _)).trans (canonicalRevisions_perm w).symm
  have hsorted : ∀ v : SourceRevisionVector, v.canonicalRevisions.Pairwise textLe := fun v =>
    List.pairwise_insertionSort textLe _
  refine hperm.eq_of_pairwise (fun a b ha hb hab hba => ?_) (hsorted v) (hsorted w)
  -- two revisions with one text are the same revision
  obtain ⟨evidence, rfl⟩ := evidence_of_mem ha
  obtain ⟨evidence', rfl⟩ := evidence_of_mem hb
  have htext := le_antisymm hab hba
  rw [canonicalJson_eq_iff (wellFormed_evidenceObject _) (wellFormed_evidenceObject _),
    agrees_iff_canonical _ (wellFormed_evidenceObject _) (wellFormed_evidenceObject _)] at htext
  rw [canonical_evidenceObject_injective htext]

theorem wellFormed_canonicalRevisions (v : SourceRevisionVector) :
    wellFormed (.arr v.canonicalRevisions) = true := by
  rw [wellFormed_arr]
  intro j hj
  obtain ⟨evidence, rfl⟩ := evidence_of_mem hj
  exact wellFormed_evidenceObject evidence

/-- Vectors have the same identity form exactly when they state the same evidence. -/
theorem agrees_evidenceCanonical (v w : SourceRevisionVector) :
    agrees v.evidenceCanonical w.evidenceCanonical = true ↔ SameEvidence v w := by
  have hform : agrees v.evidenceCanonical w.evidenceCanonical = true ↔
      agrees (.arr v.canonicalRevisions) (.arr w.canonicalRevisions) = true := by
    simp [SourceRevisionVector.evidenceCanonical, agrees, agreesFields]
  rw [hform, agrees_iff_canonical _ (wellFormed_canonicalRevisions v)
    (wellFormed_canonicalRevisions w), canonical_arr_eq_iff]
  constructor
  · intro h
    have hv := (canonicalRevisions_perm v).map Json.canonical
    have hw := (canonicalRevisions_perm w).map Json.canonical
    rw [h] at hv
    refine (List.map_perm_map_iff canonical_evidenceObject_injective).mp ?_
    simpa [Function.comp_def] using hv.symm.trans hw
  · intro h
    rw [canonicalRevisions_eq h]

end Evidence

section Facts

theorem mem_factualFields {fields : Fields} {f : String × Json} :
    f ∈ factualFields fields ↔
      ∃ g ∈ fields, g.1 ∉ captureInstanceKeys ∧ f = (g.1, factualContent g.2) := by
  induction fields with
  | nil => simp [factualFields]
  | cons g fields ih =>
      obtain ⟨k, j⟩ := g
      rw [factualFields]
      split
      · rename_i hkey
        simp [ih, hkey]
      · rename_i hkey
        simp [ih, hkey]

theorem factualItems_eq_map (items : List Json) : factualItems items = items.map factualContent := by
  induction items with
  | nil => rfl
  | cons j items ih => rw [factualItems, ih, List.map_cons]

theorem names_factualFields (fields : Fields) :
    (factualFields fields).map Prod.fst =
      (fields.map Prod.fst).filter fun k => k ∉ captureInstanceKeys := by
  induction fields with
  | nil => rfl
  | cons g fields ih =>
      obtain ⟨k, j⟩ := g
      rw [factualFields]
      split <;> simp_all

theorem wellFormed_factualContent (j : Json) :
    wellFormed j = true → wellFormed (factualContent j) = true := by
  induction j using ind with
  | hnull | hbool _ | hint _ | hfloat _ | hstr _ => exact id
  | harr items ih =>
      simp only [factualContent, wellFormed_arr, factualItems_eq_map, List.forall_mem_map]
      exact fun h j hj => ih j hj (h j hj)
  | hobj fields ih =>
      simp only [factualContent, wellFormed_obj]
      rintro ⟨hdistinct, hfields⟩
      constructor
      · unfold Distinct
        rw [names_factualFields]
        exact hdistinct.filter _
      · intro f hf
        obtain ⟨g, hg, -, rfl⟩ := mem_factualFields.mp hf
        exact ih g hg (hfields g hg)

end Facts

section Exact

variable {py : Runtime} {a b : Capture} {x y : ReportRevisionIdentity}

theorem wellFormed_revisionPreimage {k : ReportSeriesKey} (hk : k.WellFormed)
    (v : SourceRevisionVector) (digest : String) : wellFormed (revisionPreimage k v digest) = true := by
  have hvector : wellFormed v.evidenceCanonical = true := by
    rw [SourceRevisionVector.evidenceCanonical, wellFormed_obj]
    refine ⟨by simp [Distinct], ?_⟩
    simpa using wellFormed_canonicalRevisions v
  rw [revisionPreimage, wellFormed_obj]
  refine ⟨by simp [Distinct], ?_⟩
  simp [hvector, hk.canonical]

/-- Preimages agree exactly when all their parts do. -/
theorem agrees_revisionPreimage {k l : ReportSeriesKey} (hk : k.WellFormed) (hl : l.WellFormed)
    (v w : SourceRevisionVector) (digest digest' : String) :
    agrees (revisionPreimage k v digest) (revisionPreimage l w digest') = true ↔
      SameSeries SameIds k l ∧ SameEvidence v w ∧ digest = digest' := by
  rw [← ReportSeriesKey.agrees_canonical hk hl, ← agrees_evidenceCanonical v w]
  have hseries : agrees (.obj k.canonical) (.obj l.canonical) = true ↔
      k.canonical.length = l.canonical.length ∧ agreesFields k.canonical l.canonical = true := by
    rw [agrees, Bool.and_eq_true, beq_iff_eq]
  rw [hseries]
  simp [revisionPreimage, agrees, agreesFields, and_assoc]

theorem revision_eq_ok (h : a.revision py = .ok x) :
    x.reportRevisionId = reportRevisionIdVersion ++ "_" ++ py.digest (revisionPreimage a.seriesKey
      a.sourceRevisions ("sha256:" ++ py.digest (factualContent (.obj a.snapshotPayload)))) := by
  unfold Capture.revision factualContentDigest at h
  split at h
  · cases h
  · simp only [bind, Except.bind, deriveReportRevision] at h
    split at h
    · cases h
    · cases h
      rfl

/-- A capture has a revision unless its payload already carries one. -/
theorem exists_revision (py : Runtime) (h : lookup a.snapshotPayload "report_revision_id" = none) :
    ∃ x, a.revision py = .ok x := by
  unfold Capture.revision factualContentDigest deriveReportRevision
  simp only [h, Option.isSome_none, Bool.false_eq_true, if_false, bind, Except.bind]
  rw [if_neg (strip_ne_empty (c := 's') (by simp) (by decide))]
  exact ⟨_, rfl⟩

/-- The captures have the same revision identifier exactly when they are of one series, with the
same stated evidence and the same facts. -/
def RevisionExact (py : Runtime) (same : Json → Json → Prop) (a b : Capture) : Prop :=
  ∀ x y, a.revision py = .ok x → b.revision py = .ok y →
    (x.reportRevisionId = y.reportRevisionId ↔ SameRevision same a b)

/-- Revision identity is exact, where portfolio identifiers that are texts come in any order. -/
theorem report_revision_id_exact (hsha : Function.Injective py.sha256) (a b : Capture) :
    RevisionExact py SameIds a b := by
  intro x y hx hy
  rw [revision_eq_ok hx, revision_eq_ok hy, String.append_right_inj,
    digest_eq_iff hsha (wellFormed_revisionPreimage a.seriesWellFormed _ _)
      (wellFormed_revisionPreimage b.seriesWellFormed _ _),
    agrees_revisionPreimage a.seriesWellFormed b.seriesWellFormed, String.append_right_inj,
    digest_eq_iff hsha (wellFormed_factualContent _ a.payloadWellFormed)
      (wellFormed_factualContent _ b.payloadWellFormed)]
  constructor
  · rintro ⟨hseries, hevidence, hfacts⟩
    exact ⟨hseries, hevidence, hfacts⟩
  · rintro ⟨hseries, hevidence, hfacts⟩
    exact ⟨hseries, hevidence, hfacts⟩

end Exact

section Samples

/-- A series key with the given portfolio identifiers and sections. -/
def sampleSeries (portfolioIds : List Json) (sections : List String) : ReportSeriesKey where
  tenantId := "tenant-sg"
  reportFamilyId := "portfolio_review"
  reportType := "portfolio_review"
  portfolioScope := [("portfolio_ids", .arr portfolioIds)]
  asOfDate := "2026-03-31"
  reportingCurrency := some "SGD"
  benchmarkCode := none
  sections := sections
  allocationDimensions := []
  semanticOptions := []
  stated := by decide

/-- A capture of that series at an instant. -/
def sampleCapture (portfolioIds : List Json) (h : wellFormed (.arr portfolioIds) = true)
    (sections : List String) (generatedAt : String) : Capture where
  seriesKey := sampleSeries portfolioIds sections
  seriesWellFormed := by
    refine ⟨?_, rfl⟩
    rw [wellFormed_obj]
    exact ⟨by simp [sampleSeries, Distinct], by simpa [sampleSeries] using h⟩
  sourceRevisions := ⟨[], .unknown, rfl⟩
  snapshotPayload := [("generated_at", .str generatedAt), ("total_value", .int 100)]
  payloadWellFormed := by simp [wellFormed, wellFormedFields]

/-- A recapture of the same facts, ordered in another sequence, is the same revision. -/
theorem report_revision_id_recaptured : ∃ x y,
    (sampleCapture [.str "PF_1", .str "PF_2"] rfl ["overview", "holdings"]
      "10:00").revision Runtime.verbatim = .ok x ∧
    (sampleCapture [.str "PF_2", .str "PF_1"] rfl ["holdings", "overview"]
      "11:00").revision Runtime.verbatim = .ok y ∧ x.reportRevisionId = y.reportRevisionId := by
  obtain ⟨x, hx⟩ := exists_revision Runtime.verbatim (a := sampleCapture
    [.str "PF_1", .str "PF_2"] rfl ["overview", "holdings"] "10:00") rfl
  obtain ⟨y, hy⟩ := exists_revision Runtime.verbatim (a := sampleCapture
    [.str "PF_2", .str "PF_1"] rfl ["holdings", "overview"] "11:00") rfl
  refine ⟨x, y, hx, hy, (report_revision_id_exact Function.injective_id _ _ x y hx hy).mpr
    ⟨?_, List.Perm.refl _, by simp [SameFacts, sampleCapture]; decide +kernel⟩⟩
  refine ⟨rfl, rfl, rfl, ⟨?_, fun name hne => ?_⟩, rfl, rfl, rfl, List.Perm.swap _ _ _,
    List.Perm.refl _, by decide +kernel⟩
  · exact Option.Rel.some (List.Perm.swap _ _ _)
  · simp [sampleCapture, sampleSeries, hne.symm]

/-- Portfolio identifiers that agree in any order, whatever they are. -/
def SameIdsInAnyOrder : Json → Json → Prop
  | .arr as, .arr bs => ∃ cs, cs.Perm bs ∧ List.Forall₂ (fun v w => agrees v w = true) as cs
  | v, w => agrees v w = true

/-- Identifiers that are not texts keep their order. -/
theorem not_exact_numbered_portfolios :
    ¬ RevisionExact Runtime.verbatim SameIdsInAnyOrder
      (sampleCapture [.int 1, .int 2] rfl [] "10:00")
      (sampleCapture [.int 2, .int 1] rfl [] "10:00") := by
  intro h
  obtain ⟨x, hx⟩ := exists_revision Runtime.verbatim
    (a := sampleCapture [.int 1, .int 2] rfl [] "10:00") rfl
  obtain ⟨y, hy⟩ := exists_revision Runtime.verbatim
    (a := sampleCapture [.int 2, .int 1] rfl [] "10:00") rfl
  have hsame := (h x y hx hy).mpr ⟨?_, List.Perm.refl _, rfl⟩
  · rw [revision_eq_ok hx, revision_eq_ok hy, String.append_right_inj,
      digest_eq_iff Function.injective_id
        (wellFormed_revisionPreimage (Capture.seriesWellFormed _) _ _)
        (wellFormed_revisionPreimage (Capture.seriesWellFormed _) _ _)] at hsame
    exact absurd hsame (by decide +kernel)
  · refine ⟨rfl, rfl, rfl, ⟨?_, fun name hne => ?_⟩, rfl, rfl, rfl, List.Perm.refl _, List.Perm.refl _,
      by decide +kernel⟩
    · refine Option.Rel.some ⟨[.int 1, .int 2], List.Perm.swap _ _ _, ?_⟩
      exact List.Forall₂.cons rfl (List.Forall₂.cons rfl List.Forall₂.nil)
    · simp [sampleCapture, sampleSeries, hne.symm]

end Samples

end LotusReport.Identity
