import LotusReport.Encoding.Text
import LotusReport.Encoding.Validation
import LotusReport.Encoding.Written

/-!
# Composite selections

The caller pins one retained calculation: its identity, its windows and, for
calendar and trailing return products, the calculations of those products. A
selection is validated before it exists, so its windows are contiguous and
cover its period.
-/

namespace LotusReport.Composite

open Encoding

/-- `FeeView`. -/
inductive FeeView where
  | gross
  | netActual
  | netModelFee
deriving DecidableEq, Repr

/-- The wire text of a fee view. -/
def FeeView.text : FeeView → String
  | .gross => "GROSS"
  | .netActual => "NET_ACTUAL"
  | .netModelFee => "NET_MODEL_FEE"

/-- `Digest`. -/
def isDigest (text : String) : Bool := isSha256Text text

/-- A digest of one repeated digit. -/
def repeatedDigest (digit : Char) : String :=
  "sha256:" ++ String.ofList (List.replicate 64 digit)

/-- `Identifier`. -/
def isIdentifier (text : String) : Bool :=
  lengthWithin 1 128 text && text.toList.all fun c => !patternSpace c

/-- `^[A-Z]{3}$`. -/
def isCurrency (text : String) : Bool :=
  text.length == 3 && text.toList.all fun c => 'A' ≤ c && c ≤ 'Z'

/-- `^[a-z][a-z0-9_]{0,63}$`. -/
def isProductKey (text : String) : Bool :=
  match text.toList with
  | [] => false
  | c :: cs => 'a' ≤ c && c ≤ 'z' && cs.length ≤ 63 &&
      cs.all fun d => ('a' ≤ d && d ≤ 'z') || ('0' ≤ d && d ≤ '9') || d == '_'

section Windows

/-- `CompositeWindowPin`. -/
structure CompositeWindowPin where
  materializationId : String
  periodStart : Date
  periodEnd : Date
  restatementSequence : Int
  definitionContentHash : String
  membershipContentHash : String
  attestationContentHash : String
  sourceCutId : String
  methodBinding : List (String × String)
  retainedReceiptFingerprint : String
  /-- A dictionary names each method once. -/
  methodKeys : (methodBinding.map Prod.fst).Nodup
  /-- `validate_window`. -/
  ordered : periodEnd.1.before periodStart.1 = false
  stated : methodBinding ≠ []
  nonblank : ∀ entry ∈ methodBinding, strip entry.1 ≠ "" ∧ strip entry.2 ≠ ""
deriving DecidableEq

/-- Equality of two pins; a method binding is compared as a dictionary. -/
def CompositeWindowPin.same (a b : CompositeWindowPin) : Bool :=
  a.materializationId == b.materializationId && a.periodStart == b.periodStart &&
    a.periodEnd == b.periodEnd && a.restatementSequence == b.restatementSequence &&
    a.definitionContentHash == b.definitionContentHash &&
    a.membershipContentHash == b.membershipContentHash &&
    a.attestationContentHash == b.attestationContentHash && a.sourceCutId == b.sourceCutId &&
    a.methodBinding.length == b.methodBinding.length &&
    (a.methodBinding.all fun entry => b.methodBinding.contains entry) &&
    a.retainedReceiptFingerprint == b.retainedReceiptFingerprint

/-- `model_dump(mode="json")` of a pin. -/
def CompositeWindowPin.dump (w : CompositeWindowPin) : Json :=
  .obj
    [ ("materialization_id", .str w.materializationId),
      ("period_start", .str w.periodStart.1.isoformat),
      ("period_end", .str w.periodEnd.1.isoformat),
      ("restatement_sequence", .int w.restatementSequence),
      ("definition_content_hash", .str w.definitionContentHash),
      ("membership_content_hash", .str w.membershipContentHash),
      ("attestation_content_hash", .str w.attestationContentHash),
      ("source_cut_id", .str w.sourceCutId),
      ("method_binding", .obj (w.methodBinding.map fun entry => (entry.1, .str entry.2))),
      ("retained_receipt_fingerprint", .str w.retainedReceiptFingerprint) ]

variable (co : Coercions)

/-- `CompositeWindowPin.model_validate`. -/
def CompositeWindowPin.validate (j : Json) : Except Invalid CompositeWindowPin := do
  let fields ← fieldsOf j
  forbidExtra ["materialization_id", "period_start", "period_end", "restatement_sequence",
    "definition_content_hash", "membership_content_hash", "attestation_content_hash",
    "source_cut_id", "method_binding", "retained_receipt_fingerprint"] fields
  let materializationId ← required fields "materialization_id" (converted ∘ co.uuid)
  let periodStart ← required fields "period_start" (converted ∘ co.date)
  let periodEnd ← required fields "period_end" (converted ∘ co.date)
  let restatementSequence ← required fields "restatement_sequence" (intWith (1 ≤ ·))
  let definitionContentHash ← required fields "definition_content_hash" (textWith isDigest)
  let membershipContentHash ← required fields "membership_content_hash" (textWith isDigest)
  let attestationContentHash ← required fields "attestation_content_hash" (textWith isDigest)
  let sourceCutId ← required fields "source_cut_id" (textWith isIdentifier)
  let methodBinding ← required fields "method_binding" (fieldsOf · >>= textEntries)
  let retainedReceiptFingerprint ←
    required fields "retained_receipt_fingerprint" (textWith isDigest)
  if h : (methodBinding.map Prod.fst).Nodup ∧ periodEnd.1.before periodStart.1 = false ∧
      methodBinding ≠ [] ∧ ∀ entry ∈ methodBinding, strip entry.1 ≠ "" ∧ strip entry.2 ≠ "" then
    return {
      materializationId, periodStart, periodEnd, restatementSequence, definitionContentHash,
      membershipContentHash, attestationContentHash, sourceCutId, methodBinding,
      retainedReceiptFingerprint
      methodKeys := h.1
      ordered := h.2.1
      stated := h.2.2.1
      nonblank := h.2.2.2 }
  else .error .refused

/-- Each window starts on the day after the one before it. -/
def contiguous : List CompositeWindowPin → Except Invalid Bool
  | previous :: current :: rest =>
      match Date.next? previous.periodEnd with
      | none => .error .overflow
      | some day => if current.periodStart = day then contiguous (current :: rest) else .ok false
  | _ => .ok true

/-- The first window starts the period and the last one ends it. -/
def covers (windows : List CompositeWindowPin) (periodStart periodEnd : Date) : Bool :=
  windows.head?.map (·.periodStart) == some periodStart &&
    windows.getLast?.map (·.periodEnd) == some periodEnd

end Windows

section Selections

/-- `CompositeReportSelection`. -/
structure CompositeReportSelection where
  tenantId : String
  compositeId : String
  calculationId : String
  periodStart : Date
  periodEnd : Date
  reportingCurrency : String
  returnView : FeeView
  methodology : String
  engineVersion : String
  calculationFingerprint : String
  responseDigest : String
  windows : List CompositeWindowPin
  /-- The constraints of the fields. -/
  identifiers : ∀ text ∈ [tenantId, compositeId, methodology, engineVersion],
    isIdentifier text = true
  currency : isCurrency reportingCurrency = true
  digests : ∀ text ∈ [calculationFingerprint, responseDigest], isDigest text = true
  bounded : 1 ≤ windows.length ∧ windows.length ≤ 120
  /-- `validate_vector`. -/
  unique : (windows.map (·.materializationId)).Nodup
  covering : covers windows periodStart periodEnd = true
  chained : contiguous windows = .ok true
deriving DecidableEq

/-- `model_dump(mode="json")` of a selection. -/
def CompositeReportSelection.dump (s : CompositeReportSelection) : Json :=
  .obj
    [ ("tenant_id", .str s.tenantId),
      ("composite_id", .str s.compositeId),
      ("calculation_id", .str s.calculationId),
      ("period_start", .str s.periodStart.1.isoformat),
      ("period_end", .str s.periodEnd.1.isoformat),
      ("reporting_currency", .str s.reportingCurrency),
      ("return_view", .str s.returnView.text),
      ("methodology", .str s.methodology),
      ("engine_version", .str s.engineVersion),
      ("calculation_fingerprint", .str s.calculationFingerprint),
      ("response_digest", .str s.responseDigest),
      ("windows", .arr (s.windows.map CompositeWindowPin.dump)) ]

/-- `performance_request`. -/
def CompositeReportSelection.performanceRequest (s : CompositeReportSelection) : Json :=
  .obj
    [ ("calculation_id", .str s.calculationId),
      ("composite_id", .str s.compositeId),
      ("period_start", .str s.periodStart.1.isoformat),
      ("period_end", .str s.periodEnd.1.isoformat),
      ("reporting_currency", .str s.reportingCurrency),
      ("return_view", .str s.returnView.text),
      ("materialization_ids", .arr (s.windows.map fun w => .str w.materializationId)) ]

/-- The fee view that a text names. -/
def FeeView.validate : Json → Except Invalid FeeView
  | .str "GROSS" => .ok .gross
  | .str "NET_ACTUAL" => .ok .netActual
  | .str "NET_MODEL_FEE" => .ok .netModelFee
  | _ => .error .refused

variable (co : Coercions)

/-- `CompositeReportSelection.model_validate`. -/
def CompositeReportSelection.validate (j : Json) : Except Invalid CompositeReportSelection := do
  let fields ← fieldsOf j
  forbidExtra ["tenant_id", "composite_id", "calculation_id", "period_start", "period_end",
    "reporting_currency", "return_view", "methodology", "engine_version",
    "calculation_fingerprint", "response_digest", "windows"] fields
  let tenantId ← required fields "tenant_id" (textWith isIdentifier)
  let compositeId ← required fields "composite_id" (textWith isIdentifier)
  let calculationId ← required fields "calculation_id" (converted ∘ co.uuid)
  let periodStart ← required fields "period_start" (converted ∘ co.date)
  let periodEnd ← required fields "period_end" (converted ∘ co.date)
  let reportingCurrency ← required fields "reporting_currency" (textWith isCurrency)
  let returnView ← required fields "return_view" FeeView.validate
  let methodology ← required fields "methodology" (textWith isIdentifier)
  let engineVersion ← required fields "engine_version" (textWith isIdentifier)
  let calculationFingerprint ← required fields "calculation_fingerprint" (textWith isDigest)
  let responseDigest ← required fields "response_digest" (textWith isDigest)
  let windows ← required fields "windows" (listWith 1 120 (CompositeWindowPin.validate co))
  if hfields : (∀ text ∈ [tenantId, compositeId, methodology, engineVersion],
        isIdentifier text = true) ∧ isCurrency reportingCurrency = true ∧
      (∀ text ∈ [calculationFingerprint, responseDigest], isDigest text = true) ∧
      1 ≤ windows.length ∧ windows.length ≤ 120 then
    if hvector : (windows.map (·.materializationId)).Nodup ∧
        covers windows periodStart periodEnd = true then
      match hchained : contiguous windows with
      | .error e => .error e
      | .ok false => .error .refused
      | .ok true =>
          return {
            tenantId, compositeId, calculationId, periodStart, periodEnd, reportingCurrency,
            returnView, methodology, engineVersion, calculationFingerprint, responseDigest, windows
            identifiers := hfields.1
            currency := hfields.2.1
            digests := hfields.2.2.1
            bounded := hfields.2.2.2
            unique := hvector.1
            covering := hvector.2
            chained := hchained }
    else .error .refused
  else .error .refused

/-- The window is one whole month. -/
def CompositeWindowPin.wholeMonth (w : CompositeWindowPin) : Bool :=
  w.periodStart.1.day == 1 && w.periodStart.1.year == w.periodEnd.1.year &&
    w.periodStart.1.month == w.periodEnd.1.month &&
    w.periodEnd.1.day == daysInMonth w.periodStart.1.year w.periodStart.1.month

/-- What a return product covers: a calendar year, or the months up to the report's end. -/
inductive ProductSpan where
  | calendarYear (year : Int)
  | trailingMonths (months : Int)
deriving DecidableEq, Repr

/-- `require_calendar_year` and `require_month_count`. -/
def ProductSpan.fits (selection : CompositeReportSelection) : ProductSpan → Bool
  | .calendarYear year =>
      1 ≤ year && year ≤ 9999 &&
        selection.periodStart.1 == ⟨year.toNat, 1, 1⟩ &&
        selection.periodEnd.1 == ⟨year.toNat, 12, 31⟩ && selection.windows.length == 12 &&
        selection.windows.all CompositeWindowPin.wholeMonth
  | .trailingMonths months =>
      1 ≤ months && months ≤ 120 && (selection.windows.length : Int) == months &&
        selection.windows.all CompositeWindowPin.wholeMonth

/-- `CalendarReturnSelection` and `TrailingReturnSelection`. -/
structure ReturnProductSelection where
  productKey : String
  span : ProductSpan
  selection : CompositeReportSelection
  keyed : isProductKey productKey = true
  fitting : span.fits selection = true
deriving DecidableEq

/-- The product of a key, a span and a selection. -/
def ReturnProductSelection.build (productKey : String) (span : ProductSpan)
    (selection : CompositeReportSelection) : Except Invalid ReturnProductSelection :=
  if h : isProductKey productKey = true ∧ span.fits selection = true then
    .ok ⟨productKey, span, selection, h.1, h.2⟩
  else .error .refused

/-- `ReturnProductSelection`, by its `kind`. -/
def ReturnProductSelection.validate (j : Json) : Except Invalid ReturnProductSelection := do
  let fields ← fieldsOf j
  match Json.lookup fields "kind" with
  | some (.str "CALENDAR_RETURN") =>
      -- an exception that is no refusal passes, whatever the other fields are
      let selection ← required fields "selection" (CompositeReportSelection.validate co)
      forbidExtra ["kind", "product_key", "year", "selection"] fields
      build (← required fields "product_key" (textWith isProductKey))
        (.calendarYear (← required fields "year" (intWith fun n => 1 ≤ n && n ≤ 9999))) selection
  | some (.str "TRAILING_RETURN") =>
      let selection ← required fields "selection" (CompositeReportSelection.validate co)
      forbidExtra ["kind", "product_key", "months", "selection"] fields
      build (← required fields "product_key" (textWith isProductKey))
        (.trailingMonths (← required fields "months" (intWith fun n => 1 ≤ n && n ≤ 120))) selection
  | _ => .error .refused

/-- The windows of the primary selection that lie in a period. -/
def windowsWithin (primary : CompositeReportSelection) (periodStart periodEnd : Date) :
    List CompositeWindowPin :=
  primary.windows.filter fun w =>
    !w.periodStart.1.before periodStart.1 && !periodEnd.1.before w.periodEnd.1

/-- One product agrees with the primary selection. -/
def productInScope (primary : CompositeReportSelection) (product : ReturnProductSelection) : Bool :=
  let selection := product.selection
  let windows := windowsWithin primary selection.periodStart selection.periodEnd
  primary.tenantId == selection.tenantId && primary.compositeId == selection.compositeId &&
    primary.reportingCurrency == selection.reportingCurrency &&
    primary.returnView == selection.returnView && primary.methodology == selection.methodology &&
    primary.engineVersion == selection.engineVersion &&
    windows.length == selection.windows.length &&
    ((windows.zip selection.windows).all fun pair => pair.1.same pair.2) &&
    match product.span with
    | .calendarYear _ => true
    | .trailingMonths _ => selection.periodEnd == primary.periodEnd

/-- `require_product_scope`. -/
def requireProductScope (primary : CompositeReportSelection)
    (products : List ReturnProductSelection) : Bool :=
  decide (products.map (·.productKey)).Nodup && products.all (productInScope primary)

end Selections

section WellFormed

theorem CompositeWindowPin.wellFormed_dump (w : CompositeWindowPin) :
    w.dump.wellFormed = true := by
  have hbinding : (Json.obj (w.methodBinding.map fun entry => (entry.1, Json.str entry.2))).wellFormed =
      true := by
    rw [Json.wellFormed_obj]
    constructor
    · unfold Distinct
      rw [List.map_map]
      exact w.methodKeys
    · intro f hf
      obtain ⟨entry, -, rfl⟩ := List.mem_map.mp hf
      rfl
  rw [dump, Json.wellFormed_obj]
  constructor
  · simp [Distinct]
  · intro f hf
    simp only [List.mem_cons, List.not_mem_nil, or_false] at hf
    rcases hf with rfl | rfl | rfl | rfl | rfl | rfl | rfl | rfl | rfl | rfl <;>
      first | rfl | exact hbinding

theorem CompositeReportSelection.wellFormed_dump (s : CompositeReportSelection) :
    s.dump.wellFormed = true := by
  have hwindows : (Json.arr (s.windows.map CompositeWindowPin.dump)).wellFormed = true := by
    rw [Json.wellFormed_arr]
    intro j hj
    obtain ⟨w, -, rfl⟩ := List.mem_map.mp hj
    exact w.wellFormed_dump
  rw [dump, Json.wellFormed_obj]
  constructor
  · simp [Distinct]
  · intro f hf
    simp only [List.mem_cons, List.not_mem_nil, or_false] at hf
    rcases hf with rfl | rfl | rfl | rfl | rfl | rfl | rfl | rfl | rfl | rfl | rfl | rfl <;>
      first | rfl | exact hwindows

end WellFormed

end LotusReport.Composite
