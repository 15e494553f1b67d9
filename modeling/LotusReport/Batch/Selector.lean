import LotusReport.Caller
import LotusReport.Encoding.Runtime
import LotusReport.Encoding.Text

/-!
# Portfolio selection of a batch

`materializePortfolios` turns a batch request and the portfolio candidates
resolved from the source into the portfolios the batch reports on.
-/

namespace LotusReport.Batch

open Encoding

/-- `BatchSelectorMode`. -/
inductive BatchSelectorMode where
  | explicitPortfolioList
  | selectedSubset
  | allActivePortfolios
  | batchManifest
deriving DecidableEq, Repr

/-- The name of a selector mode on the wire. -/
def BatchSelectorMode.text : BatchSelectorMode → String
  | explicitPortfolioList => "explicit_portfolio_list"
  | selectedSubset => "selected_subset"
  | allActivePortfolios => "all_active_portfolios"
  | batchManifest => "batch_manifest"

/-- `PortfolioBatchCandidate`. -/
structure PortfolioBatchCandidate where
  portfolioId : String
  tenantId : String
  region : String
  active : Bool
  selected : Bool := false
  sourceSystem : String := "lotus-core"
  sourceObject : String := "PortfolioScope"
deriving DecidableEq, Repr

/-- `BatchCreateRequest`; the as-of date is its ISO text. -/
structure BatchCreateRequest where
  selectorMode : BatchSelectorMode
  portfolioIds : List String := []
  sourceCandidates : List PortfolioBatchCandidate := []
  asOfDate : String
  requestedOutputFormats : List String := ["pdf"]
  reportingCurrency : Option String := none
  options : Fields := []
  maxBatchSize : Nat := 250

/-- `MaterializedPortfolio`. -/
structure MaterializedPortfolio where
  portfolioId : String
  sourceSystem : String
  sourceObject : String
deriving DecidableEq, Repr

/-- `BatchSelectorValidationError`. -/
structure BatchSelectorValidationError where
  code : String
  message : String
deriving DecidableEq, Repr

/-- The texts that occur more than once, each once. -/
def repeated (texts : List String) : List String :=
  texts.dedup.filter fun t => decide (1 < texts.count t)

/-- `_candidate_map`: the candidates by portfolio id, which must be distinct. -/
def candidateMap (candidates : List PortfolioBatchCandidate) :
    Except BatchSelectorValidationError (List PortfolioBatchCandidate) :=
  let duplicates := repeated (candidates.map (·.portfolioId))
  if duplicates.isEmpty then .ok candidates
  else .error ⟨"duplicate_source_portfolio",
    "Source candidates contain duplicate portfolio ids: " ++
      ", ".intercalate (sortedSet duplicates) ++ "."⟩

/-- `_explicit_portfolio_ids`: the stripped, non-blank and distinct requested ids. -/
def explicitPortfolioIds (portfolioIds : List String) :
    Except BatchSelectorValidationError (List String) :=
  let normalized := (portfolioIds.map strip).filter (· ≠ "")
  if normalized.isEmpty then
    .error ⟨"empty_batch_selector", "Explicit-list batch requires at least one portfolio id."⟩
  else
    let duplicates := repeated normalized
    if duplicates.isEmpty then .ok normalized
    else .error ⟨"duplicate_requested_portfolio",
      "Explicit-list batch contains duplicate portfolio ids: " ++
        ", ".intercalate (sortedSet duplicates) ++ "."⟩

/-- `_candidate_for_id`. -/
def candidateForId (py : Runtime) (candidates : List PortfolioBatchCandidate)
    (portfolioId : String) : Except BatchSelectorValidationError PortfolioBatchCandidate :=
  match candidates.find? fun c => c.portfolioId == portfolioId with
  | some candidate => .ok candidate
  | none => .error ⟨"portfolio_not_found",
      "Portfolio " ++ reprText py portfolioId ++
        " was not found in the resolved source candidates."⟩

/-- `_validate_candidate`. -/
def validateCandidate (py : Runtime) (candidate : PortfolioBatchCandidate)
    (callerContext : ReportCallerContext) : Except BatchSelectorValidationError Unit :=
  let subject := "Portfolio " ++ reprText py candidate.portfolioId
  if candidate.tenantId ≠ callerContext.tenantId then
    .error ⟨"portfolio_tenant_mismatch", subject ++ " does not belong to the caller tenant."⟩
  else if candidate.region ≠ callerContext.region then
    .error ⟨"portfolio_region_mismatch", subject ++ " does not belong to the caller region."⟩
  else if !candidate.active then
    .error ⟨"inactive_portfolio", subject ++ " is inactive and cannot be reported in batch."⟩
  else .ok ()

/-- The candidates in the order of their portfolio ids. -/
def sortedCandidates (candidates : List PortfolioBatchCandidate) : List PortfolioBatchCandidate :=
  candidates.insertionSort fun a b => a.portfolioId ≤ b.portfolioId

/-- The candidates that the selector mode selects. -/
def selectedCandidates (py : Runtime) (request : BatchCreateRequest) :
    Except BatchSelectorValidationError (List PortfolioBatchCandidate) := do
  let candidates ← candidateMap request.sourceCandidates
  match request.selectorMode with
  | .explicitPortfolioList | .batchManifest =>
      let selectedIds ← explicitPortfolioIds request.portfolioIds
      selectedIds.mapM (candidateForId py candidates)
  | .selectedSubset =>
      let selected := sortedCandidates (request.sourceCandidates.filter (·.selected))
      if selected.isEmpty then
        .error ⟨"empty_batch_selector",
          "Selected-subset batch requires at least one selected active portfolio."⟩
      else .ok selected
  | .allActivePortfolios =>
      let selected := sortedCandidates request.sourceCandidates
      if selected.isEmpty then
        .error ⟨"empty_batch_selector",
          "All-active batch requires at least one source-backed active portfolio candidate."⟩
      else .ok selected

/-- `materialize_portfolios`. -/
def materializePortfolios (py : Runtime) (request : BatchCreateRequest)
    (callerContext : ReportCallerContext) :
    Except BatchSelectorValidationError (List MaterializedPortfolio) := do
  let selected ← selectedCandidates py request
  if request.maxBatchSize < selected.length then
    .error ⟨"batch_size_exceeded",
      "Batch selector materialized more portfolios than the configured maximum."⟩
  else
    selected.mapM fun candidate => do
      validateCandidate py candidate callerContext
      return ⟨candidate.portfolioId, candidate.sourceSystem, candidate.sourceObject⟩

end LotusReport.Batch
