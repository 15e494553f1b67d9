import LotusReport.Encoding.Date
import LotusReport.Encoding.Text
import LotusReport.Jobs.Admission

/-!
# Report requests and their client identity

The five request families, the parts acceptance takes from each, and the one
construction of the client identity: the canonical payload whose digest
decides whether a retry asks for the same thing.
-/

namespace LotusReport.Jobs

open Encoding

/-- `CompositeReviewJobRequest`: selections as their JSON dumps, with the facts that acceptance
reads from the primary selection. -/
structure CompositeReviewJobRequest where
  compositeId : String
  selectionTenantId : String
  periodEnd : String
  reportingCurrency : Option String
  noticeSelection : Option Json := none
  pooledSelection : Option Json := none
  eligibilitySelection : Option Json := none
  linkedSelection : Option Json := none
  selection : Option Json := none
  sourceContext : Option Json := none
  sourceProducts : Option (List Json) := none
  requestedOutputFormats : List String := ["json"]
  options : Fields := []
deriving DecidableEq

/-- `PortfolioReviewJobRequest`; the proposal packages are their JSON dumps. -/
structure PortfolioReviewJobRequest where
  portfolioScope : Fields
  asOfDate : String
  requestedOutputFormats : List String := ["json"]
  reportingCurrency : Option String := none
  options : Fields := []
  proposalNarrativePackage : Option Json := none
  proposalMemoPackage : Option Json := none
deriving DecidableEq

/-- A request built on one managed report input, given by its JSON dump. -/
structure ManagedReportJobRequest where
  reportInput : Fields
  requestedOutputFormats : List String := ["json"]
  reportingCurrency : Option String := none
  options : Fields := []
deriving DecidableEq

/-- `ReportJobRequest`. -/
inductive ReportJobRequest where
  | composite (request : CompositeReviewJobRequest)
  | portfolio (request : PortfolioReviewJobRequest)
  | proofPack (request : ManagedReportJobRequest)
  | wave (request : ManagedReportJobRequest)
  | outcome (request : ManagedReportJobRequest)
deriving DecidableEq

/-- What acceptance takes from a request. -/
structure RequestParts where
  portfolioScope : Fields
  asOfDate : String
  outputFormats : List String
  reportingCurrency : Option String
  options : Fields
deriving DecidableEq

/-- `capture_options`. -/
def captureOptions (r : CompositeReviewJobRequest) : Fields :=
  match r.noticeSelection, r.pooledSelection, r.eligibilitySelection, r.linkedSelection with
  | some notice, _, _, _ => Json.assign r.options "composite_notice_selection" notice
  | none, some pooled, _, _ => Json.assign r.options "composite_pooled_selection" pooled
  | none, none, some eligibility, _ =>
      Json.assign r.options "composite_eligibility_selection" eligibility
  | none, none, none, some linked => Json.assign r.options "composite_linked_selection" linked
  | none, none, none, none =>
      let options := Json.assign r.options "composite_selection" (r.selection.getD .null)
      let options := match r.sourceContext with
        | some context => Json.assign options "composite_source_context" context
        | none => options
      match r.sourceProducts with
      | some products => Json.assign options "composite_source_products" (.arr products)
      | none => options

section Parts

variable (py : Runtime)

/-- `date.fromisoformat(str(text)[:10])`, as an ISO text. -/
def asOfDateOf (j : Json) : Except LedgerError String :=
  match dateFromIsoformat (clip 10 (pyStr py j)) with
  | some date => .ok date.isoformat
  | none => .error (.valueError ("Invalid isoformat string: " ++
      reprText py (clip 10 (pyStr py j))))

/-- The first of the named fields that is true in a condition. -/
def firstTruthy (fields : Fields) (names : List String) : Option Json :=
  names.findSome? fun name => (Json.lookup fields name).filter Json.truthy

/-- The stripped text of a required input field. -/
def strippedField (fields : Fields) (name : String) : String :=
  match Json.lookup fields name with
  | some (.str text) => strip text
  | _ => ""

/-- The stripped texts of one field over the items of a wave, blanks left out. -/
def itemTexts (reportInput : Fields) (name : String) : List String :=
  let items := match Json.lookup reportInput "items" with
    | some (.arr items) => items
    | _ => []
  items.filterMap fun item =>
    match item with
    | .obj fields =>
        match Json.lookup fields name with
        | some value =>
            if value.truthy ∧ strip (pyStr py value) ≠ "" then some (strip (pyStr py value))
            else none
        | none => none
    | _ => none

/-- The parts of a proof-pack request. -/
def proofPackParts (r : ManagedReportJobRequest) : Except LedgerError RequestParts :=
  let portfolioId := strippedField r.reportInput "portfolio_id"
  if portfolioId = "" then .error (.valueError "proof_pack_report_input.portfolio_id is required")
  else
    match firstTruthy r.reportInput ["as_of_date", "generated_at"] with
    | none => .error (.valueError "proof_pack_report_input.as_of_date is required")
    | some text => do
        let asOfDate ← asOfDateOf py text
        return {
          portfolioScope :=
            [ ("portfolio_ids", Json.ofTexts [portfolioId]),
              ("proof_pack_id", (Json.lookup r.reportInput "proof_pack_id").getD .null) ]
          asOfDate := asOfDate
          outputFormats := r.requestedOutputFormats
          reportingCurrency := r.reportingCurrency
          options := Json.assign r.options "proof_pack_report_input" (.obj r.reportInput) }

/-- The parts of a rebalance-wave request. -/
def waveParts (r : ManagedReportJobRequest) : Except LedgerError RequestParts :=
  let waveId := strippedField r.reportInput "wave_id"
  if waveId = "" then .error (.valueError "wave_report_input.wave_id is required")
  else
    match firstTruthy r.reportInput ["as_of_date", "generated_at"] with
    | none => .error (.valueError "wave_report_input.as_of_date is required")
    | some text => do
        let asOfDate ← asOfDateOf py text
        return {
          portfolioScope :=
            [ ("portfolio_ids", Json.ofTexts (sortedSet (itemTexts py r.reportInput "portfolio_id"))),
              ("wave_id", .str waveId),
              ("proof_pack_ids",
                Json.ofTexts (sortedSet (itemTexts py r.reportInput "proof_pack_id"))) ]
          asOfDate := asOfDate
          outputFormats := r.requestedOutputFormats
          reportingCurrency := r.reportingCurrency
          options := Json.assign r.options "wave_report_input" (.obj r.reportInput) }

/-- The parts of an outcome-review request. -/
def outcomeParts (r : ManagedReportJobRequest) : Except LedgerError RequestParts :=
  let portfolioId := strippedField r.reportInput "portfolio_id"
  if portfolioId = "" then .error (.valueError "outcome_report_input.portfolio_id is required")
  else
    let window := match Json.lookup r.reportInput "review_window" with
      | some (.obj fields) => fields
      | _ => []
    match (firstTruthy window ["end_date", "period_end"]).or
        (firstTruthy r.reportInput ["generated_at"]) with
    | none => .error (.valueError "outcome_report_input review window end date is required")
    | some text => do
        let asOfDate ← asOfDateOf py text
        return {
          portfolioScope :=
            [ ("portfolio_ids", Json.ofTexts [portfolioId]),
              ("outcome_review_id", (Json.lookup r.reportInput "outcome_review_id").getD .null) ]
          asOfDate := asOfDate
          outputFormats := r.requestedOutputFormats
          reportingCurrency := r.reportingCurrency
          options := Json.assign r.options "outcome_report_input" (.obj r.reportInput) }

/-- The parts of a portfolio-review request. -/
def portfolioParts (r : PortfolioReviewJobRequest) : RequestParts :=
  let options := match r.proposalNarrativePackage with
    | some package => Json.assign r.options "proposal_narrative_package" package
    | none => r.options
  let options := match r.proposalMemoPackage with
    | some package => Json.assign options "proposal_memo_package" package
    | none => options
  ⟨r.portfolioScope, r.asOfDate, r.requestedOutputFormats, r.reportingCurrency, options⟩

/-- `_request_parts`. -/
def requestParts : ReportJobRequest → Except LedgerError RequestParts
  | .composite r =>
      .ok ⟨[("composite_id", .str r.compositeId)], r.periodEnd, r.requestedOutputFormats,
        r.reportingCurrency, captureOptions r⟩
  | .portfolio r => .ok (portfolioParts r)
  | .proofPack r => proofPackParts py r
  | .wave r => waveParts py r
  | .outcome r => outcomeParts py r

/-- `SERVER_DERIVED_REQUEST_OPTION_KEYS`. -/
def serverDerivedRequestOptionKeys : List String :=
  ["idea_materialization_recovery_identity", bindingOption]

/-- The options without the keys that the server derives. -/
def stripServerDerived (options : Fields) : Fields :=
  options.filter fun f => f.1 ∉ serverDerivedRequestOptionKeys

/-- `sorted({str(item) for item in value})` of a list, anything else as it is. -/
def setNormalizedValue : Json → Json
  | .arr items => Json.ofTexts (sortedSet (items.map (pyStr py)))
  | value => value

/-- `_set_normalized`: the declared sets among the fields, sorted and without duplicates. -/
def setNormalized (setKeys : List String) (payload : Fields) :
    Fields :=
  payload.map fun f => if f.1 ∈ setKeys then (f.1, setNormalizedValue py f.2) else f

/-- The payload of `_client_identity_hash`, with the server-derived options left out. -/
def clientIdentity (reportType : String) (parts : RequestParts) (tenantId region : String) : Json :=
  .obj
    [ ("report_type", .str reportType),
      ("portfolio_scope", .obj (setNormalized py ["portfolio_ids"] parts.portfolioScope)),
      ("as_of_date", .str parts.asOfDate),
      ("requested_output_formats", Json.ofTexts (sortedTexts parts.outputFormats)),
      ("reporting_currency", .ofText? parts.reportingCurrency),
      ("options", .obj (setNormalized py ["sections", "allocation_dimensions"]
        (stripServerDerived parts.options))),
      ("tenant_id", .str tenantId),
      ("region", .str region) ]

/-- `compute_request_hash`. -/
def computeRequestHash (reportType : String) (parts : RequestParts)
    (callerContext : ReportCallerContext) : String :=
  py.digest (clientIdentity py reportType parts callerContext.tenantId callerContext.region)

/-- The parts that a stored request still carries. -/
def RequestRow.parts (r : RequestRow) : RequestParts :=
  ⟨r.portfolioScope, r.asOfDate, r.requestedOutputFormats, r.reportingCurrency, r.options⟩

/-- `client_identity_hash_from_record`. -/
def clientIdentityHashFromRecord (r : RequestRow) : String :=
  py.digest (clientIdentity py r.reportType r.parts r.tenantId r.region)

/-- The digest of a JSON value, as the invocation authority computes it. -/
def selectorSetDigest (r : CompositeReviewJobRequest) : Option String :=
  r.selection.map fun selection =>
    let products := (r.sourceProducts.getD []).filterMap fun product =>
      match product with
      | .obj fields => Json.lookup fields "selection"
      | _ => none
    let selectors := (selection :: products).insertionSort fun a b => py.digest a ≤ py.digest b
    py.digest (.arr selectors)

/-- `require_internal_admission`. -/
def requireInternalAdmission (request : ReportJobRequest) (options : Fields)
    (tenantId : String) (admission : Option AcceptedTwrAdmission) : Except LedgerError Unit :=
  if (Json.lookup options bindingOption).isSome then
    .error (.twrAuthorityRefused "COMPOSITE_TWR_CALLER_BINDING_FORBIDDEN")
  else
    match request, admission with
    | .composite r, admission =>
        match selectorSetDigest py r, admission with
        | none, none => .ok ()
        | none, some _ => .error (.twrAuthorityRefused "COMPOSITE_TWR_UNEXPECTED_BINDING")
        | some digest, some admission =>
            if admission.tenantId = tenantId ∧ admission.selectorSetDigest = digest then .ok ()
            else .error (.twrAuthorityRefused "COMPOSITE_TWR_ADMISSION_REQUIRED")
        | some _, none => .error (.twrAuthorityRefused "COMPOSITE_TWR_ADMISSION_REQUIRED")
    | _, some _ => .error (.twrAuthorityRefused "COMPOSITE_TWR_UNEXPECTED_BINDING")
    | _, none => .ok ()

end Parts

end LotusReport.Jobs
