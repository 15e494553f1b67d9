import LotusReport.Composite.Documents
import LotusReport.Identity.Revision

/-!
# The source revisions behind a capture

`source_revision_vector_for_capture` reads what the sources of a captured
payload state about their revisions, adds a bare entry for every participant
that states nothing, and computes the coverage of the vector. The coverage is
computed over the expected sources, and the vector checks it over the sources
that occur among the revisions.
-/

namespace LotusReport.Identity

open Encoding Composite

section Coverage

/-- A service states qualifying evidence among the revisions. -/
def Evidenced (revisions : List SourceRevision) (service : String) : Prop :=
  ∃ r ∈ revisions, r.sourceService = service ∧ r.statesRevisionEvidence = true

/-- `evidenced_by_service[service]`. -/
def evidenced (revisions : List SourceRevision) (service : String) : Bool :=
  revisions.any fun r => r.sourceService == service && r.statesRevisionEvidence

/-- The message for a service that states none. -/
def unbackedMessage (service : String) : String :=
  "SOURCE_REVISION_COVERAGE_UNBACKED: coverage=complete requires qualifying revision evidence " ++
    "for every participating source; " ++ service ++ " stated none - catalogue identity and " ++
    "quality labels identify which product served, never which data revision."

/-- `_coverage_must_be_evidence_backed`: the message of the refusal, if any. -/
def coverageRefusal (revisions : List SourceRevision) (coverage : Coverage) : Option String :=
  if coverage = .complete then
    if revisions.isEmpty then
      some ("SOURCE_REVISION_COVERAGE_UNBACKED: an empty vector cannot claim complete coverage.")
    else ((sortedSet (revisions.map (·.sourceService))).find? fun service =>
      !evidenced revisions service).map unbackedMessage
  else none

/-- The coverage that `from_evidence` computes. -/
def computedCoverage (revisions : List SourceRevision) (expectedSources : List String) : Coverage :=
  if !expectedSources.isEmpty && expectedSources.all (evidenced revisions) then .complete
  else if revisions.any (·.statesRevisionEvidence) then .partly
  else .unknown

theorem evidenced_iff {revisions : List SourceRevision} {service : String} :
    evidenced revisions service = true ↔ Evidenced revisions service := by
  simp [evidenced, Evidenced]

/-- The vector admits a coverage exactly if its check does not refuse it. -/
theorem coverageRefusal_eq_none {revisions : List SourceRevision} {coverage : Coverage} :
    coverageRefusal revisions coverage = none ↔ coverageBacked revisions coverage = true := by
  cases coverage with
  | unknown | partly => simp [coverageRefusal, coverageBacked]
  | complete =>
      cases hempty : revisions.isEmpty with
      | true => simp [coverageRefusal, coverageBacked, hempty]
      | false =>
          simp only [coverageRefusal, coverageBacked, hempty, if_true, Bool.false_eq_true, if_false,
            Option.map_eq_none_iff, List.find?_eq_none, sortedSet, sortedTexts,
            List.mem_insertionSort, List.mem_dedup, List.mem_map, Bool.not_eq_true,
            Bool.not_eq_false', Bool.not_false, Bool.true_and, List.all_eq_true]
          constructor
          · exact fun hall r hr => hall r.sourceService ⟨r, hr, rfl⟩
          · rintro hall service ⟨r, hr, rfl⟩
            exact hall r hr

/-- `SourceRevisionVector.from_evidence`; the error is the message of the raised `ValueError`. -/
def fromEvidence (revisions : List SourceRevision) (expectedSources : List String) :
    Except String SourceRevisionVector :=
  let coverage := computedCoverage revisions expectedSources
  match h : coverageRefusal revisions coverage with
  | some message => .error message
  | none => .ok ⟨revisions, coverage, coverageRefusal_eq_none.mp h⟩

/-- What `from_evidence` is for: it returns a vector, and a complete one only if every source,
expected or present, states qualifying evidence. -/
def CoverageAgrees (revisions : List SourceRevision) (expectedSources : List String) : Prop :=
  (∃ vector, fromEvidence revisions expectedSources = .ok vector) ∧
  ∀ vector, fromEvidence revisions expectedSources = .ok vector → vector.coverage = .complete →
    ∀ service, (service ∈ expectedSources ∨ ∃ r ∈ revisions, r.sourceService = service) →
      Evidenced revisions service

/-- No source is expected, or an expected one states nothing, or every source that occurs among
the revisions states qualifying evidence. -/
def NoExtraSource (revisions : List SourceRevision) (expectedSources : List String) : Prop :=
  expectedSources = [] ∨ (∃ service ∈ expectedSources, ¬ Evidenced revisions service) ∨
    ∀ r ∈ revisions, Evidenced revisions r.sourceService

theorem computedCoverage_eq_complete {revisions : List SourceRevision}
    {expectedSources : List String} :
    computedCoverage revisions expectedSources = .complete ↔
      expectedSources ≠ [] ∧ ∀ service ∈ expectedSources, Evidenced revisions service := by
  have hcond : (!expectedSources.isEmpty && expectedSources.all (evidenced revisions)) = true ↔
      expectedSources ≠ [] ∧ ∀ service ∈ expectedSources, Evidenced revisions service := by
    simp [evidenced_iff]
  rw [← hcond]
  unfold computedCoverage
  constructor
  · intro h
    split at h
    · assumption
    · split at h <;> cases h
  · intro h
    rw [if_pos h]

theorem coverageBacked_complete {revisions : List SourceRevision} :
    coverageBacked revisions .complete = true ↔
      revisions ≠ [] ∧ ∀ r ∈ revisions, Evidenced revisions r.sourceService := by
  simp [coverageBacked, Evidenced]

theorem noExtraSource_iff_backed {revisions : List SourceRevision}
    {expectedSources : List String} :
    NoExtraSource revisions expectedSources ↔
      coverageBacked revisions (computedCoverage revisions expectedSources) = true := by
  by_cases hcomplete : computedCoverage revisions expectedSources = .complete
  · obtain ⟨hnonempty, hall⟩ := computedCoverage_eq_complete.mp hcomplete
    rw [hcomplete, coverageBacked_complete]
    constructor
    · rintro (hempty | ⟨service, hservice, hsilent⟩ | hbacked)
      · exact absurd hempty hnonempty
      · exact absurd (hall service hservice) hsilent
      · refine ⟨?_, hbacked⟩
        rintro rfl
        obtain ⟨service, hservice⟩ := List.exists_mem_of_ne_nil _ hnonempty
        obtain ⟨r, hr, -⟩ := hall service hservice
        exact absurd hr List.not_mem_nil
    · exact fun h => .inr (.inr h.2)
  · have hbacked : coverageBacked revisions (computedCoverage revisions expectedSources) = true := by
      cases hcoverage : computedCoverage revisions expectedSources with
      | unknown | partly => rfl
      | complete => exact absurd hcoverage hcomplete
    refine ⟨fun _ => hbacked, fun _ => ?_⟩
    rw [computedCoverage_eq_complete] at hcomplete
    by_cases hnonempty : expectedSources = []
    · exact .inl hnonempty
    · refine .inr (.inl ?_)
      by_contra hnone
      apply hcomplete
      refine ⟨hnonempty, fun service hservice => ?_⟩
      by_contra hsilent
      exact hnone ⟨service, hservice, hsilent⟩

/-- A vector is returned exactly if its own check admits the computed coverage. -/
theorem fromEvidence_ok {revisions : List SourceRevision} {expectedSources : List String} :
    (∃ vector, fromEvidence revisions expectedSources = .ok vector) ↔
      coverageBacked revisions (computedCoverage revisions expectedSources) = true := by
  rw [← coverageRefusal_eq_none]
  unfold fromEvidence
  constructor
  · rintro ⟨vector, hvector⟩
    dsimp only at hvector
    split at hvector
    · cases hvector
    · assumption
  · intro hnone
    dsimp only
    split
    · simp_all
    · exact ⟨_, rfl⟩

theorem fromEvidence_vector {revisions : List SourceRevision} {expectedSources : List String}
    {vector : SourceRevisionVector} (h : fromEvidence revisions expectedSources = .ok vector) :
    vector.revisions = revisions ∧ vector.coverage = computedCoverage revisions expectedSources := by
  unfold fromEvidence at h
  dsimp only at h
  split at h
  · cases h
  · cases h
    exact ⟨rfl, rfl⟩

theorem coverageAgrees_iff {revisions : List SourceRevision} {expectedSources : List String} :
    CoverageAgrees revisions expectedSources ↔ NoExtraSource revisions expectedSources := by
  rw [noExtraSource_iff_backed, ← fromEvidence_ok]
  refine ⟨fun h => h.1, fun hok => ⟨hok, ?_⟩⟩
  intro vector hvector hcomplete service hservice
  obtain ⟨hrevisions, hcoverage⟩ := fromEvidence_vector hvector
  rw [hcoverage] at hcomplete
  have hbacked := fromEvidence_ok.mp hok
  rw [hcomplete, coverageBacked_complete] at hbacked
  rcases hservice with hexpected | ⟨r, hr, rfl⟩
  · exact (computedCoverage_eq_complete.mp hcomplete).2 service hexpected
  · exact hbacked.2 r hr

end Coverage

section Extraction

/-- `_stated_str`. -/
def statedStr : Json → Option String
  | .str text => if strip text = "" then none else some text
  | _ => none

/-- A field of a dictionary, or nothing. -/
def getField (fields : Fields) (name : String) : Json :=
  (Json.lookup fields name).getD .null

/-- A nullable text field of the model. -/
def revisionText (stated : List (RevisionField × Json)) (field : RevisionField) :
    Except CaptureError (Option String) :=
  match stated.lookup field with
  | none | some .null => .ok none
  | some (.str text) => .ok (some text)
  | some _ => .error (.raised "ValidationError")

/-- `SourceRevision(source_service=…, …)`. -/
def makeRevision (sourceService : Json) (stated : List (RevisionField × Json)) :
    Except CaptureError SourceRevision := do
  let sourceProduct ← revisionText stated .sourceProduct
  let sourceProductVersion ← revisionText stated .sourceProductVersion
  let asOfDate ← revisionText stated .asOfDate
  let generatedAt ← revisionText stated .generatedAt
  let sourceSnapshotId ← revisionText stated .sourceSnapshotId
  let contentHash ← revisionText stated .contentHash
  let restatementVersion ← revisionText stated .restatementVersion
  let sourceBatchFingerprint ← revisionText stated .sourceBatchFingerprint
  let calculationRunId ← revisionText stated .calculationRunId
  let methodologyVersion ← revisionText stated .methodologyVersion
  let supportabilityStatus ← revisionText stated .supportabilityStatus
  let reconciliationState ← revisionText stated .reconciliationState
  match sourceService with
  | .str service =>
      if named : service ≠ "" then
        return { sourceService := service, sourceProduct, sourceProductVersion, asOfDate,
                 generatedAt, sourceSnapshotId, contentHash, restatementVersion,
                 sourceBatchFingerprint, calculationRunId, methodologyVersion,
                 supportabilityStatus, reconciliationState, named }
      else .error (.raised "ValidationError")
  | _ => .error (.raised "ValidationError")

/-- `value.values()`. -/
def valuesOf : Json → Except CaptureError (List Json)
  | .obj fields => .ok (fields.map Prod.snd)
  | _ => .error (.raised "AttributeError")

/-- `payload.get("contract_version") in {…}`. -/
def hasVersion (payload : Fields) (versions : List String) :
    Except CaptureError Bool :=
  let version := getField payload "contract_version"
  if isHashable version then .ok (versions.any fun text => decide (version = .str text))
  else .error (.raised "TypeError")

/-- The fields that `_monthly_revision` and its like read by subscript, with their paths. -/
def readFields (source : Json) (paths : List (RevisionField × List String)) :
    Except CaptureError (List (RevisionField × Json)) :=
  paths.mapM fun path => return (path.1, ← readAt source path.2)

/-- A revision that one object states under given paths, with a constant supportability. -/
def readRevision (service : String) (source : Json) (paths : List (RevisionField × List String))
    (constants : List (RevisionField × Json)) : Except CaptureError SourceRevision := do
  makeRevision (.str service) (constants ++ (← readFields source paths))

/-- `notice_source_revisions`. -/
def noticeSourceRevisions (payload : Fields) :
    Except CaptureError (List SourceRevision) := do
  if getField payload "contract_version" ≠ .str "composite_review.v9" then return []
  let generations ← valuesOf (← subscript (.obj payload) "generations")
  let captures ← generations.mapM fun generation =>
    readRevision "lotus-report" generation
      [ (.sourceSnapshotId, ["selection", "snapshot_id"]),
        (.contentHash, ["selection", "snapshot_hash"]),
        (.restatementVersion, ["selection", "report_revision_id"]) ]
      [ (.sourceProduct, .str "composite_review"),
        (.sourceProductVersion, .str "v8"),
        (.supportabilityStatus, .str "EXPLICIT_RETAINED_CALCULATED_REPLAY") ]
  let nodes ← itemsOf (← readAt (.obj payload) ["archive_path", "nodes"])
  let documents ← nodes.mapM fun node =>
    readRevision "lotus-archive" node
      [ (.sourceSnapshotId, ["document_id"]),
        (.contentHash, ["artifact_sha256"]),
        (.restatementVersion, ["report_revision_id"]) ]
      [ (.sourceProduct, .str "generated_document"),
        (.supportabilityStatus, .str "NOT_ATTESTED") ]
  return captures ++ documents

/-- A product of the manage service, with the fields that name its revision and its instant. -/
def manageRevision (source : Json) (revision instant : String) :
    Except CaptureError SourceRevision :=
  readRevision "lotus-manage" source
    [ (.sourceProduct, ["product_name"]),
      (.sourceProductVersion, ["product_version"]),
      (.contentHash, ["content_hash"]),
      (.sourceSnapshotId, [revision]),
      (.generatedAt, [instant]) ]
    [(.supportabilityStatus, .str "UNVERIFIED")]

/-- The revisions of the definition and of the memberships of a source context. -/
def contextRevisions (payload : Fields) :
    Except CaptureError (List SourceRevision) := do
  if getField payload "contract_version" ≠ .str "composite_review.v8" then return []
  let definition ← readAt (.obj payload) ["definition", "source_response"]
  let defined ← manageRevision definition "definition_version" "created_at"
  let memberships ← itemsOf (← subscript (.obj payload) "supplied_memberships")
  let decided ← memberships.mapM fun membership => do
    manageRevision (← subscript membership "source_response") "membership_revision" "decided_at"
  return defined :: decided

/-- `_pooled_revisions`, for one response. -/
def pooledRevisions (response : Json) : Except CaptureError (List SourceRevision) := do
  let calculated ← readRevision "lotus-performance" response
    [ (.sourceProduct, ["schema_version"]),
      (.contentHash, ["input_manifest_digest"]),
      (.calculationRunId, ["calculation_id"]),
      (.methodologyVersion, ["calculation_engine_version"]),
      (.supportabilityStatus, ["outcome", "availability"]) ] []
  let pins ← itemsOf (← readAt response ["observation", "source_bundle", "source_pins"])
  let pinned ← pins.mapM fun pin => do
    makeRevision (← subscript pin "owner") (← readFields pin
      [ (.sourceProduct, ["product_name"]),
        (.sourceProductVersion, ["product_version"]),
        (.contentHash, ["payload_digest"]),
        (.sourceSnapshotId, ["source_cut_id"]),
        (.restatementVersion, ["revision"]),
        (.supportabilityStatus, ["completeness"]) ])
  return calculated :: pinned

/-- The revisions of a pooled payload: those of its response and of the predecessor. -/
def pooledPayloadRevisions (payload : Fields) :
    Except CaptureError (List SourceRevision) := do
  if getField payload "contract_version" ≠ .str "composite_review.v5" then return []
  let responses := ["source_response", "predecessor_source_response"].filterMap fun key =>
    match getField payload key with
    | .obj fields => some (.obj fields)
    | _ => none
  return (← responses.mapM pooledRevisions).flatten

/-- `_monthly_revision`. -/
def monthlyRevision (product proposal : Json) : Except CaptureError SourceRevision := do
  let stated ← readFields product
    [ (.sourceProduct, ["product_name"]),
      (.sourceProductVersion, ["product_version"]),
      (.contentHash, ["content_hash"]) ]
  let evaluated ← readFields proposal
    [ (.sourceSnapshotId, ["evaluation_revision"]),
      (.generatedAt, ["evaluation", "evaluated_at"]) ]
  makeRevision (.str "lotus-manage")
    ((.supportabilityStatus, .str "UNVERIFIED") :: stated ++ evaluated)

/-- `_eligibility_revisions`, for one month. -/
def monthRevisions (withLineage : Bool) (month : Json) : Except CaptureError (List SourceRevision) := do
  let published := (← subscript month "evidence_kind") = .str "PUBLISHED"
  let proposal ← if published then readAt month ["receipt", "approval", "proposal"]
    else subscript month "proposal"
  let product ← if published then subscript month "receipt" else pure proposal
  let own ← monthlyRevision product proposal
  if withLineage then
    let receipts ← itemsOf (← subscript month "lineage_receipts")
    let earlier ← receipts.mapM fun receipt => do
      monthlyRevision receipt (← readAt receipt ["approval", "proposal"])
    return own :: earlier
  else return [own]

/-- The revisions of an eligibility payload. -/
def eligibilityRevisions (payload : Fields) :
    Except CaptureError (List SourceRevision) := do
  if !(← hasVersion payload ["composite_review.v4", "composite_review.v6", "composite_review.v7"]) then
    return []
  let withLineage ← hasVersion payload ["composite_review.v6", "composite_review.v7"]
  let months ← itemsOf (← subscript (.obj payload) "source_months")
  return (← months.mapM (monthRevisions withLineage)).flatten

/-- `_revision_from_composite_response`. -/
def revisionFromCompositeResponse (payload : Fields) :
    Except CaptureError (Option SourceRevision) := do
  if !(← hasVersion payload ["composite_review.v1", "composite_review.v2", "composite_review.v3",
      "composite_review.v8"]) then return none
  match getField payload "source_response" with
  | .obj response =>
      match getField response "selection_manifest" with
      | .obj manifest =>
          match statedStr (getField manifest "calculation_fingerprint"),
              statedStr (getField response "calculation_id") with
          | some fingerprint, some calculationId =>
              return some (← makeRevision (.str "lotus-performance")
                [ (.contentHash, .str fingerprint),
                  (.calculationRunId, .str calculationId),
                  (.methodologyVersion,
                    .ofText? (statedStr (getField manifest "engine_version"))),
                  (.supportabilityStatus, .ofText? (statedStr (getField response "status"))) ])
          | _, _ => return none
      | _ => return none
  | _ => return none

/-- The revisions of the return products of a payload. -/
def productRevisions (payload : Fields) :
    Except CaptureError (List SourceRevision) := do
  if !(← hasVersion payload ["composite_review.v2", "composite_review.v8"]) then return []
  let products ← itemsOf ((Json.lookup payload "source_products").getD (.arr []))
  let revisions ← products.mapM fun product =>
    match product with
    | .obj fields => revisionFromCompositeResponse
        [ ("contract_version", .str "composite_review.v2"),
          ("source_response", getField fields "source_response") ]
    | _ => .ok none
  return revisions.filterMap id

/-- `_SOURCE_PRODUCT_SECTIONS`. -/
def sourceProductSections : List String := ["incomeAndActivity", "holdings", "transactions"]

/-- `_SOURCE_PRODUCT_FIELD_MAP`. -/
def sourceProductFieldMap : List (String × RevisionField) :=
  [ ("product_name", .sourceProduct),
    ("product_version", .sourceProductVersion),
    ("as_of_date", .asOfDate),
    ("generated_at", .generatedAt),
    ("snapshot_id", .sourceSnapshotId),
    ("content_hash", .contentHash),
    ("restatement_version", .restatementVersion),
    ("source_batch_fingerprint", .sourceBatchFingerprint),
    ("reconciliation_status", .reconciliationState) ]

/-- `_revision_from_source_product`. -/
def revisionFromSourceProduct (block : Fields) :
    Except CaptureError (Option SourceRevision) :=
  match statedStr (getField block "source_service") with
  | none => .ok none
  | some service => do
      let stated := sourceProductFieldMap.filterMap fun entry =>
        (statedStr (getField block entry.1)).map fun text => (entry.2, Json.str text)
      return some (← makeRevision (.str service) stated)

/-- The revision of one section of a payload. -/
def sectionRevision (payload : Fields) (key : String) :
    Except CaptureError (Option SourceRevision) :=
  match getField payload key with
  | .obj fields =>
      match getField fields "sourceProduct" with
      | .obj block => revisionFromSourceProduct block
      | _ => .ok none
  | _ => .ok none

/-- `_revision_from_advisor_commentary`. -/
def revisionFromAdvisorCommentary (payload : Fields) :
    Except CaptureError (Option SourceRevision) :=
  match getField payload "advisor_commentary_package" with
  | .obj package =>
      if getField package "status" ≠ .str "included" then .ok none
      else
        match statedStr (getField package "run_id") with
        | none => .ok none
        | some runId => do
            let contentHash := statedStr (getField package "content_hash")
            return some (← makeRevision (.str "lotus-ai")
              [(.calculationRunId, .str runId), (.contentHash, .ofText? contentHash)])
  | _ => .ok none

/-- `_BOUNDED_INPUT_ID_KEYS`. -/
def boundedInputIdKeys : List String := ["wave_id", "outcome_review_id", "proof_pack_id"]

/-- The first of two fields that states a text. -/
def eitherField (fields : Fields) (first second : String) : Option String :=
  (statedStr (getField fields first)).or (statedStr (getField fields second))

/-- `_revision_from_bounded_input`. -/
def revisionFromBoundedInput (payload : Fields) (upstreamServices : List String) :
    Except CaptureError (Option SourceRevision) :=
  match statedStr (getField payload "content_hash"), upstreamServices.dedup with
  | some contentHash, [participant] => do
      let evidenceRef := match getField payload "evidence_ref" with
        | .obj fields => fields
        | _ => []
      let artifactId := (boundedInputIdKeys.findSome? fun key => statedStr (getField payload key)).or
        (eitherField evidenceRef "source_id" "ref_id")
      return some (← makeRevision (.str participant)
        [ (.contentHash, .str contentHash),
          (.sourceSnapshotId, .ofText? artifactId),
          (.sourceProduct, .ofText? (eitherField evidenceRef "source_type" "ref_type")) ])
  | _, _ => .ok none

/-- Everything that the sources of a payload state, in the order of the reads. -/
def statedRevisions (payload : Fields) (upstreamServices : List String) :
    Except CaptureError (List SourceRevision) := do
  let notices ← noticeSourceRevisions payload
  let context ← contextRevisions payload
  let pooled ← pooledPayloadRevisions payload
  let eligibility ← eligibilityRevisions payload
  let composite ← revisionFromCompositeResponse payload
  let products ← productRevisions payload
  let sections ← sourceProductSections.mapM (sectionRevision payload)
  let advisor ← revisionFromAdvisorCommentary payload
  let bounded ← revisionFromBoundedInput payload upstreamServices
  return notices ++ context ++ pooled ++ eligibility ++ composite.toList ++ products ++
    sections.filterMap id ++ advisor.toList ++ bounded.toList

/-- The revisions with different canonical texts, the first of each kept. -/
def dedupedRevisions (revisions : List SourceRevision) : List SourceRevision :=
  revisions.foldl (fun kept r =>
    if kept.any fun r' => Json.canonicalJson r'.canonical == Json.canonicalJson r.canonical then kept
    else kept ++ [r]) []

/-- The revisions of a capture: what was stated, and a bare entry for each silent participant. -/
def revisionsForCapture (payload : Fields) (upstreamServices : List String) :
    Except CaptureError (List SourceRevision) := do
  let revisions := dedupedRevisions (← statedRevisions payload upstreamServices)
  let silent := (sortedSet upstreamServices).filter fun service =>
    !(revisions.any fun r => r.sourceService == service)
  return revisions ++ (← silent.mapM fun service => makeRevision (.str service) [])

/-- What `source_revision_vector_for_capture` raises. -/
inductive BindingError where
  | unreadable (error : CaptureError)
  | unbacked (message : String)

/-- `source_revision_vector_for_capture`. -/
def sourceRevisionVectorForCapture (payload : Fields) (upstreamServices : List String) :
    Except BindingError SourceRevisionVector :=
  match revisionsForCapture payload upstreamServices with
  | .error error => .error (.unreadable error)
  | .ok revisions =>
      match fromEvidence revisions (sortedSet upstreamServices) with
      | .error message => .error (.unbacked message)
      | .ok vector => .ok vector

end Extraction

section Captures

/-- A capture is not failed because a source stated no evidence. -/
def NotUnbacked (payload : Fields) (upstreamServices : List String) : Prop :=
  ∀ message, sourceRevisionVectorForCapture payload upstreamServices ≠ .error (.unbacked message)

/-- What the sources of a payload state leaves no extra source without evidence. -/
def StatesNoExtraSource (payload : Fields) (upstreamServices : List String) : Prop :=
  ∀ stated, statedRevisions payload upstreamServices = .ok stated →
    NoExtraSource (dedupedRevisions stated) upstreamServices

theorem mem_sortedSet {items : List String} {item : String} :
    item ∈ sortedSet items ↔ item ∈ items := by
  simp [sortedSet, sortedTexts]

/-- The bare entry of a silent participant. -/
theorem makeRevision_bare {service : String} {r : SourceRevision}
    (h : makeRevision (.str service) [] = .ok r) :
    r.sourceService = service ∧ r.statesRevisionEvidence = false := by
  by_cases hname : service = ""
  · simp [makeRevision, revisionText, bind, Except.bind, hname] at h
  · simp only [makeRevision, revisionText, bind, Except.bind, List.lookup_nil, hname, ne_eq,
      not_false_eq_true, dite_true, pure, Except.pure, Except.ok.injEq] at h
    subst h
    exact ⟨rfl, by simp [SourceRevision.statesRevisionEvidence, RevisionField.all,
      RevisionField.qualifying, SourceRevision.evidence, SourceRevision.field]⟩

/-- Only the empty name makes no bare entry. -/
theorem makeRevision_bare_exists {service : String} (h : service ≠ "") :
    ∃ r, makeRevision (.str service) [] = .ok r := by
  simp [makeRevision, revisionText, bind, Except.bind, h, pure, Except.pure]

/-- Entries without evidence of their own back no service. -/
theorem evidenced_append_bare {revisions bare : List SourceRevision} {service : String}
    (h : ∀ r ∈ bare, r.statesRevisionEvidence = false) :
    Evidenced (revisions ++ bare) service ↔ Evidenced revisions service := by
  constructor
  · rintro ⟨r, hr, hservice, hstates⟩
    rcases List.mem_append.mp hr with hr | hr
    · exact ⟨r, hr, hservice, hstates⟩
    · rw [h r hr] at hstates
      cases hstates
  · rintro ⟨r, hr, hstates⟩
    exact ⟨r, List.mem_append_left _ hr, hstates⟩

/-- The bare entries of silent participants add no extra source: each of them is expected. -/
theorem noExtraSource_append_bare {revisions bare : List SourceRevision}
    {expectedSources : List String} (hbare : ∀ r ∈ bare, r.statesRevisionEvidence = false)
    (hexpected : ∀ r ∈ bare, r.sourceService ∈ expectedSources) :
    NoExtraSource (revisions ++ bare) expectedSources ↔ NoExtraSource revisions expectedSources := by
  simp only [NoExtraSource, evidenced_append_bare hbare]
  constructor
  · rintro (hempty | hsilent | hall)
    · exact .inl hempty
    · exact .inr (.inl hsilent)
    · exact .inr (.inr fun r hr => hall r (List.mem_append_left _ hr))
  · rintro (hempty | hsilent | hall)
    · exact .inl hempty
    · exact .inr (.inl hsilent)
    · by_cases hsilent : ∃ service ∈ expectedSources, ¬ Evidenced revisions service
      · exact .inr (.inl hsilent)
      · refine .inr (.inr fun r hr => ?_)
        rcases List.mem_append.mp hr with hr | hr
        · exact hall r hr
        · by_contra hnot
          exact hsilent ⟨r.sourceService, hexpected r hr, hnot⟩

theorem noExtraSource_sortedSet {revisions : List SourceRevision} {services : List String} :
    NoExtraSource revisions (sortedSet services) ↔ NoExtraSource revisions services := by
  have hempty : sortedSet services = [] ↔ services = [] := by
    simp only [List.eq_nil_iff_forall_not_mem, mem_sortedSet]
  simp only [NoExtraSource, hempty, mem_sortedSet]

theorem revisionsForCapture_ok {payload : Fields} {upstreamServices : List String}
    {revisions : List SourceRevision}
    (h : revisionsForCapture payload upstreamServices = .ok revisions) :
    ∃ stated bare, statedRevisions payload upstreamServices = .ok stated ∧
      revisions = dedupedRevisions stated ++ bare ∧
      (∀ r ∈ bare, r.statesRevisionEvidence = false) ∧
      ∀ r ∈ bare, r.sourceService ∈ upstreamServices := by
  unfold revisionsForCapture at h
  obtain ⟨stated, hstated, h⟩ := Fallible.bind_eq_ok.mp h
  obtain ⟨bare, hbare, h⟩ := Fallible.bind_eq_ok.mp h
  cases h
  refine ⟨stated, bare, hstated, rfl, fun r hr => ?_, fun r hr => ?_⟩
  · obtain ⟨service, -, hmade⟩ := Fallible.exists_of_mem_mapM hbare hr
    exact (makeRevision_bare hmade).2
  · obtain ⟨service, hservice, hmade⟩ := Fallible.exists_of_mem_mapM hbare hr
    rw [(makeRevision_bare hmade).1]
    exact mem_sortedSet.mp (List.mem_of_mem_filter hservice)

/-- A participant without a name has no bare entry, and states nothing either. -/
theorem revisionsForCapture_error {payload : Fields} {upstreamServices : List String}
    {stated : List SourceRevision} {error : CaptureError}
    (hstated : statedRevisions payload upstreamServices = .ok stated)
    (h : revisionsForCapture payload upstreamServices = .error error) :
    NoExtraSource (dedupedRevisions stated) upstreamServices := by
  have hunnamed : "" ∈ upstreamServices := by
    by_contra hnamed
    have hmade : ∀ service ∈ (sortedSet upstreamServices).filter fun service =>
        !((dedupedRevisions stated).any fun r => r.sourceService == service),
        ∃ r, makeRevision (.str service) [] = .ok r := by
      intro service hservice
      apply makeRevision_bare_exists
      rintro rfl
      exact hnamed (mem_sortedSet.mp (List.mem_of_mem_filter hservice))
    obtain ⟨bare, hbare⟩ := Fallible.exists_mapM_eq _ hmade
    have hok : revisionsForCapture payload upstreamServices =
        .ok (dedupedRevisions stated ++ bare) :=
      Fallible.bind_eq_ok.mpr ⟨stated, hstated, Fallible.bind_eq_ok.mpr ⟨bare, hbare, rfl⟩⟩
    rw [hok] at h
    cases h
  refine .inr (.inl ⟨"", hunnamed, ?_⟩)
  rintro ⟨r, -, hservice, -⟩
  exact r.named hservice

theorem notUnbacked_iff {payload : Fields} {upstreamServices : List String} :
    NotUnbacked payload upstreamServices ↔ StatesNoExtraSource payload upstreamServices := by
  cases hrevisions : revisionsForCapture payload upstreamServices with
  | error error =>
      refine ⟨fun _ stated hstated => revisionsForCapture_error hstated hrevisions, fun _ message => ?_⟩
      simp [sourceRevisionVectorForCapture, hrevisions]
  | ok revisions =>
      obtain ⟨stated, bare, hstated, rfl, hbare, hexpected⟩ := revisionsForCapture_ok hrevisions
      have hstates : StatesNoExtraSource payload upstreamServices ↔
          NoExtraSource (dedupedRevisions stated ++ bare) (sortedSet upstreamServices) := by
        rw [noExtraSource_sortedSet, noExtraSource_append_bare hbare hexpected]
        unfold StatesNoExtraSource
        rw [hstated]
        exact ⟨fun h => h stated rfl, fun h _ hok => (Except.ok.inj hok) ▸ h⟩
      rw [hstates, noExtraSource_iff_backed, ← fromEvidence_ok]
      unfold NotUnbacked sourceRevisionVectorForCapture
      rw [hrevisions]
      dsimp only
      cases fromEvidence (dedupedRevisions stated ++ bare) (sortedSet upstreamServices) with
      | error message => simp
      | ok vector => simp

/-- Computing the coverage agrees with checking it, and no capture is failed for a source that
stated nothing, exactly if no source beyond the expected ones is left without evidence. -/
theorem coverageAgrees_and_notUnbacked_iff (revisions : List SourceRevision)
    (expectedSources : List String) (payload : Fields)
    (upstreamServices : List String) :
    (CoverageAgrees revisions expectedSources ∧ NotUnbacked payload upstreamServices) ↔
      (NoExtraSource revisions expectedSources ∧ StatesNoExtraSource payload upstreamServices) := by
  rw [coverageAgrees_iff, notUnbacked_iff]

/-- A payload whose transactions come from a service that names its product only. -/
def extraSourcePayload : Fields :=
  [ ("holdings", .obj [("sourceProduct", .obj
      [("source_service", .str "lotus-core"), ("snapshot_id", .str "s1")])]),
    ("transactions", .obj [("sourceProduct", .obj
      [("source_service", .str "lotus-ledger"), ("product_name", .str "tx")])]) ]

/-- The captured payload is refused: the ledger is not expected and stated no revision. -/
theorem not_notUnbacked_extra_source : ¬ NotUnbacked extraSourcePayload ["lotus-core"] := by
  have hrefused : (match sourceRevisionVectorForCapture extraSourcePayload ["lotus-core"] with
      | .error (.unbacked message) => message == unbackedMessage "lotus-ledger"
      | _ => false) = true := by decide +kernel
  intro h
  unfold NotUnbacked at h
  split at hrefused
  · rename_i message hmessage
    exact h message hmessage
  · cases hrefused

end Captures

end LotusReport.Identity
