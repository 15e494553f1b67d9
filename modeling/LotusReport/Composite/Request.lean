import LotusReport.Composite.Authority

/-!
# Composite review requests

A stored job names exactly one primary operation: a time-weighted return
selection, a linked or a pooled analysis, or monthly eligibility. Return
products and source context go with the first alone. The capture rebuilds the
request from the options of the job.
-/

namespace LotusReport.Composite

open Encoding Jobs

section Eligibility

/-- The versions of a monthly evaluation. -/
inductive SourceVersion where
  | v1
  | v2
  | v3
  | v4
deriving DecidableEq, Repr

/-- The wire text of a version. -/
def SourceVersion.text : SourceVersion → String
  | .v1 => "v1"
  | .v2 => "v2"
  | .v3 => "v3"
  | .v4 => "v4"

/-- `MonthlyReceiptPin` and `HistoricalReceiptPin`. -/
structure ReceiptPin where
  productVersion : SourceVersion
  evaluationRevision : String
  approvalContentHash : String
  receiptContentHash : String
  receiptResponseDigest : String
deriving DecidableEq, Repr

/-- What a pin says about a month that was evaluated, and more where it was published. -/
inductive PinnedEvidence where
  | evaluatedOnly (proposalResponseDigest : String)
  | published (approvalContentHash receiptContentHash receiptResponseDigest membershipRevision
      membershipContentHash membershipResponseDigest attestationVersion universeContentHash
      universeResponseDigest parentResponseDigest : String) (publicationSequence : Int)
      (publicationResponseDigest : String)
deriving DecidableEq, Repr

/-- The pin of one month, of an original or of a correction. -/
structure MonthPin where
  sourceVersion : SourceVersion
  month : String
  evaluationRevision : String
  proposalContentHash : String
  parentMembershipRevision : String
  parentMembershipContentHash : String
  sourceCutId : String
  evidence : PinnedEvidence
  /-- `lineage_receipts`, which corrections have. -/
  lineageReceipts : Option (List ReceiptPin)
  parentPublicationResponseDigest : Option String
deriving DecidableEq, Repr

/-- `EligibilitySelection`, `AmendmentEligibilitySelection` and
`HistoricalEligibilitySelection`. -/
inductive EligibilityFamily where
  | original
  | amendment
  | historical
deriving DecidableEq, Repr

/-- A selection of monthly eligibility. -/
structure EligibilitySelection where
  family : EligibilityFamily
  tenantId : String
  compositeId : String
  definitionVersion : String
  reportingCurrency : String
  periodStart : Date
  periodEnd : Date
  months : List MonthPin
deriving DecidableEq

end Eligibility

section OtherOperations

/-- `LinkedAnalysisSelection`: its identity, the request it sends and its whole dump. -/
structure LinkedAnalysisSelection where
  tenantId : String
  compositeId : String
  calculationId : String
  periodEnd : Date
  reportingCurrency : String
  performanceRequest : Json
  dump : Json
deriving DecidableEq

/-- `PooledAnalysisSelection`: its identity, the calculation it corrects and its whole dump. -/
structure PooledAnalysisSelection where
  tenantId : String
  compositeId : String
  calculationId : String
  periodEnd : Date
  reportingCurrency : String
  correctionOfCalculationId : Option String
  dump : Json
deriving DecidableEq

/-- `CompositeDefinitionPin` and `CompositeMembershipPin`: a version and its two digests. -/
structure CustodyPin where
  version : String
  contentHash : String
  responseDigest : String
deriving DecidableEq, Repr

/-- `CompositeSourceContextSelection`. -/
structure CompositeSourceContextSelection where
  definition : CustodyPin
  sinceInception : Bool
  memberships : List CustodyPin
deriving DecidableEq, Repr

/-- A pin whose version has the given field name. -/
def CustodyPin.validate (name : String) (j : Json) : Except Invalid CustodyPin := do
  let fields ← fieldsOf j
  forbidExtra [name, "content_hash", "response_digest"] fields
  return {
    version := ← required fields name (textWith isIdentifier)
    contentHash := ← required fields "content_hash" (textWith isDigest)
    responseDigest := ← required fields "response_digest" (textWith isDigest) }

/-- A strict boolean. -/
def strictBool : Json → Except Invalid Bool
  | .bool b => .ok b
  | _ => .error .refused

/-- `CompositeSourceContextSelection.model_validate`. -/
def CompositeSourceContextSelection.validate (j : Json) :
    Except Invalid CompositeSourceContextSelection := do
  let fields ← fieldsOf j
  forbidExtra ["definition", "since_inception", "memberships"] fields
  let definition ← required fields "definition" (CustodyPin.validate "definition_version")
  let sinceInception ← match Json.lookup fields "since_inception" with
    | none => .ok false
    | some value => strictBool value
  let memberships ← match Json.lookup fields "memberships" with
    | none => .ok []
    | some value => listWith 0 2 (CustodyPin.validate "membership_revision") value
  if (sinceInception = false ∧ memberships = []) ∨
      ¬(memberships.map (·.version)).Nodup then .error .refused
  else return { definition, sinceInception, memberships }

end OtherOperations

/-- `CompositeReviewJobRequest`, as the capture rebuilds it: a notice is never among its parts. -/
structure CompositeReviewJobRequest where
  selection : Option CompositeReportSelection
  linkedSelection : Option LinkedAnalysisSelection
  eligibilitySelection : Option EligibilitySelection
  pooledSelection : Option PooledAnalysisSelection
  sourceProducts : Option (List ReturnProductSelection)
  sourceContext : Option CompositeSourceContextSelection
  /-- `require_products`. -/
  onePrimary : [selection.isSome, linkedSelection.isSome, eligibilitySelection.isSome,
    pooledSelection.isSome].count true = 1
  productsInScope : ∀ products ∈ sourceProducts, ∃ primary ∈ selection,
    requireProductScope primary products = true
  contextInScope : ∀ context ∈ sourceContext, ∃ primary ∈ selection,
    ∀ window ∈ primary.windows, window.definitionContentHash = context.definition.contentHash

section Build

/-- The validation of the operations whose evidence is not a time-weighted return. -/
structure SelectionParsers where
  linked : Json → Except Invalid LinkedAnalysisSelection
  eligibility : Json → Except Invalid EligibilitySelection
  pooled : Json → Except Invalid PooledAnalysisSelection

variable (co : Coercions) (parsers : SelectionParsers)

/-- `require_products` on validated parts. -/
def CompositeReviewJobRequest.build (selection : Option CompositeReportSelection)
    (linkedSelection : Option LinkedAnalysisSelection)
    (eligibilitySelection : Option EligibilitySelection)
    (pooledSelection : Option PooledAnalysisSelection)
    (sourceProducts : Option (List ReturnProductSelection))
    (sourceContext : Option CompositeSourceContextSelection) :
    Except Invalid CompositeReviewJobRequest :=
  if h : [selection.isSome, linkedSelection.isSome, eligibilitySelection.isSome,
        pooledSelection.isSome].count true = 1 ∧
      (∀ products ∈ sourceProducts, ∃ primary ∈ selection,
        requireProductScope primary products = true) ∧
      ∀ context ∈ sourceContext, ∃ primary ∈ selection,
        ∀ window ∈ primary.windows,
          window.definitionContentHash = context.definition.contentHash then
    .ok { selection, linkedSelection, eligibilitySelection, pooledSelection, sourceProducts,
          sourceContext
          onePrimary := h.1
          productsInScope := h.2.1
          contextInScope := h.2.2 }
  else .error .refused

/-- `CompositeReviewJobRequest.model_validate` of the options of a job. -/
def CompositeReviewJobRequest.ofOptions (options : Fields) :
    Except Invalid CompositeReviewJobRequest := do
  let selection ← nullable options "composite_selection" (CompositeReportSelection.validate co)
  let linked ← nullable options "composite_linked_selection" parsers.linked
  let eligibility ← nullable options "composite_eligibility_selection" parsers.eligibility
  let pooled ← nullable options "composite_pooled_selection" parsers.pooled
  let products ← nullable options "composite_source_products"
    (listWith 1 8 (ReturnProductSelection.validate co))
  let context ← nullable options "composite_source_context" CompositeSourceContextSelection.validate
  CompositeReviewJobRequest.build selection linked eligibility pooled products context

end Build

namespace CompositeReviewJobRequest

/-- The identity of the primary selection: tenant, composite, period end and currency. -/
def primaryIdentity (r : CompositeReviewJobRequest) : Option (String × String × Date × String) :=
  match r.pooledSelection, r.eligibilitySelection, r.linkedSelection, r.selection with
  | some s, _, _, _ => some (s.tenantId, s.compositeId, s.periodEnd, s.reportingCurrency)
  | none, some s, _, _ => some (s.tenantId, s.compositeId, s.periodEnd, s.reportingCurrency)
  | none, none, some s, _ => some (s.tenantId, s.compositeId, s.periodEnd, s.reportingCurrency)
  | none, none, none, some s => some (s.tenantId, s.compositeId, s.periodEnd, s.reportingCurrency)
  | none, none, none, none => none

/-- The time-weighted return selections of a request: the primary one and those of its
products. -/
def twrSelections (r : CompositeReviewJobRequest) : List CompositeReportSelection :=
  match r.selection with
  | none => []
  | some selection => selection :: (r.sourceProducts.getD []).map (·.selection)

/-- `selector_set_for`. -/
def selectorSetFor (py : Runtime) (r : CompositeReviewJobRequest) : List Json :=
  (r.twrSelections.map CompositeReportSelection.dump).insertionSort
    fun a b => py.digest a ≤ py.digest b

/-- `require_admission`. -/
def requireAdmission (py : Runtime) (r : CompositeReviewJobRequest) (tenant : String)
    (admission : Option AcceptedTwrAdmission) : Except CaptureError Unit :=
  match r.selectorSetFor py, admission with
  | [], none => .ok ()
  | [], some _ => .error (.authorityRefused "COMPOSITE_TWR_UNEXPECTED_BINDING")
  | selectors, some admission =>
      if admission.tenantId = tenant ∧ admission.selectorSetDigest = py.digest (.arr selectors) then
        .ok ()
      else .error (.authorityRefused "COMPOSITE_TWR_ADMISSION_REQUIRED")
  | _, none => .error (.authorityRefused "COMPOSITE_TWR_ADMISSION_REQUIRED")

variable {py : Runtime} {r : CompositeReviewJobRequest}

/-- A return selection is the only primary operation of its request. -/
theorem only_selection (h : r.selection.isSome = true) :
    r.pooledSelection = none ∧ r.eligibilitySelection = none ∧ r.linkedSelection = none := by
  have hcount : ∀ linked eligibility pooled : Bool,
      [true, linked, eligibility, pooled].count true = 1 →
        pooled = false ∧ eligibility = false ∧ linked = false := by decide
  have hone := r.onePrimary
  rw [h] at hone
  obtain ⟨hpooled, heligibility, hlinked⟩ := hcount _ _ _ hone
  exact ⟨Option.isSome_eq_false_iff.mp hpooled |> Option.isNone_iff_eq_none.mp,
    Option.isSome_eq_false_iff.mp heligibility |> Option.isNone_iff_eq_none.mp,
    Option.isSome_eq_false_iff.mp hlinked |> Option.isNone_iff_eq_none.mp⟩

theorem mem_selectorSetFor {j : Json} :
    j ∈ r.selectorSetFor py ↔ ∃ s ∈ r.twrSelections, s.dump = j := by
  rw [selectorSetFor, List.mem_insertionSort, List.mem_map]

theorem product_mem_twrSelections {product : ReturnProductSelection}
    (hmem : product ∈ r.sourceProducts.getD []) : product.selection ∈ r.twrSelections := by
  cases hproducts : r.sourceProducts with
  | none =>
      rw [hproducts] at hmem
      cases hmem
  | some products =>
      obtain ⟨primary, hprimary, -⟩ := r.productsInScope products hproducts
      rw [twrSelections, hprimary]
      apply List.mem_cons_of_mem
      exact List.mem_map_of_mem hmem

/-- A request without a return selection has no products. -/
theorem sourceProducts_eq_nil (h : r.selection = none) : r.sourceProducts.getD [] = [] := by
  cases hproducts : r.sourceProducts with
  | none => rfl
  | some products =>
      obtain ⟨primary, hprimary, -⟩ := r.productsInScope products hproducts
      rw [h] at hprimary
      cases hprimary

theorem requireAdmission_eq_ok {tenant : String} {admission : AcceptedTwrAdmission}
    {selection : CompositeReportSelection} (hmem : selection ∈ r.twrSelections)
    (h : r.requireAdmission py tenant (some admission) = .ok ()) :
    admission.tenantId = tenant ∧
      admission.selectorSetDigest = py.digest (.arr (r.selectorSetFor py)) := by
  have hset : selection.dump ∈ r.selectorSetFor py := mem_selectorSetFor.mpr ⟨selection, hmem, rfl⟩
  unfold requireAdmission at h
  cases hselectors : r.selectorSetFor py with
  | nil =>
      rw [hselectors] at hset
      cases hset
  | cons selector selectors =>
      rw [hselectors] at h
      dsimp only at h
      split at h
      · rename_i hsame
        exact hsame
      · cases h

/-- Under an injective digest, every admitted selector set contains each selection of the
request. -/
theorem mem_of_selectorSetDigest (hsha : Function.Injective py.sha256) {tenant : String}
    {admission : AcceptedTwrAdmission} {selection : CompositeReportSelection}
    (hmem : selection ∈ r.twrSelections)
    (h : r.requireAdmission py tenant (some admission) = .ok ()) {admitted : List Json}
    (hwf : ∀ j ∈ admitted, j.wellFormed = true)
    (hdigest : admission.selectorSetDigest = py.digest (.arr admitted)) :
    ∃ j ∈ admitted, j.agrees selection.dump = true := by
  have hset : ∀ j ∈ r.selectorSetFor py, j.wellFormed = true := by
    intro j hj
    obtain ⟨s, -, rfl⟩ := mem_selectorSetFor.mp hj
    exact s.wellFormed_dump
  have hcanonical : Json.canonical (.arr admitted) = Json.canonical (.arr (r.selectorSetFor py)) := by
    apply (Json.agrees_iff_canonical _ (Json.wellFormed_arr.mpr hwf) (Json.wellFormed_arr.mpr hset)).mp
    apply (Json.canonicalJson_eq_iff (Json.wellFormed_arr.mpr hwf) (Json.wellFormed_arr.mpr hset)).mp
    apply hsha
    exact hdigest.symm.trans (requireAdmission_eq_ok hmem h).2
  rw [Json.canonical, Json.canonical, canonicalItems_eq_map, canonicalItems_eq_map,
    Json.arr.injEq] at hcanonical
  have hdump : selection.dump.canonical ∈ admitted.map Json.canonical := by
    rw [hcanonical]
    exact List.mem_map_of_mem (mem_selectorSetFor.mpr ⟨selection, hmem, rfl⟩)
  obtain ⟨j, hj, heq⟩ := List.mem_map.mp hdump
  refine ⟨j, hj, ?_⟩
  exact (Json.agrees_iff_canonical j (hwf j hj) selection.wellFormed_dump).mpr heq

end CompositeReviewJobRequest

end LotusReport.Composite
