import LotusReport.Allocation.Presentation

/-!
# The capture of a source answer

The answer of the source is bound to the request, its views are laid out under the keys of
the report, and the allocation is qualified once. An allocation that is captured as
publishable is presented as it was captured.
-/

namespace LotusReport.Allocation

open Encoding Decimals Rendering Transactions Fallible

/-- What the capture raises: `ReportingUpstreamError`, or the error of the contradiction check. -/
inductive SourceError where
  | upstream (message : String)
  | raised (error : Raised)
deriving DecidableEq, Repr

section Capture

variable (lib : NumberLibrary)

/-- Both values are stated and differ. -/
def mismatched (actual expected : Json) : Bool :=
  actual != .null && expected != .null && !pyEq lib.floatValue actual expected

def scopeMismatch : SourceError := .upstream "lotus-core allocation source scope mismatch."

/-- `_iso_date`. -/
def isoDate : Json → Bool
  | .str text => isIsoDate text
  | _ => false

/-- `_currency`. -/
def currency : Json → Bool
  | .str text => isCurrency text
  | _ => false

/-- `_source_binding`. -/
def sourceBinding (payload request : Fields) : Except SourceError Bool :=
  let scope := asDict (get payload "scope")
  let wanted := get (asDict (get request "scope")) "portfolio_id"
  if mismatched lib (get payload "scope_type") (.str "portfolio") ||
      mismatched lib (get scope "portfolio_id") wanted ||
      mismatched lib (get payload "resolved_as_of_date") (get request "as_of_date") ||
      mismatched lib (get payload "reporting_currency") (get request "reporting_currency") then
    .error scopeMismatch
  else if (get scope "portfolio_ids").truthy || (get scope "booking_center_code").truthy then
    .error scopeMismatch
  else
    .ok (wanted.truthy && pyEq lib.floatValue (get scope "portfolio_id") wanted &&
      pyEq lib.floatValue (get payload "scope_type") (.str "portfolio") &&
      pyEq lib.floatValue (get payload "resolved_as_of_date") (get request "as_of_date") &&
      isoDate (get payload "resolved_as_of_date") && currency (get payload "reporting_currency"))

/-- The fields that a bucket copies from the source, if they are stated. -/
def copiedFields : List String :=
  [ "contributors", "contributor_count", "omitted_contributor_count",
    "omitted_market_value_reporting_currency" ]

/-- The bucket of a source bucket, before its contributors are admitted. -/
def sourceRow (bucket : Fields) (label : String) : Fields :=
  [ ("group", .str label), ("weight", ofNumber (allocationNumber lib (get bucket "weight"))),
    ("market_value",
      ofNumber (allocationNumber lib (get bucket "market_value_reporting_currency"))),
    ("position_count", get bucket "position_count") ] ++
    copiedFields.filterMap fun field => (Json.lookup bucket field).map fun value => (field, value)

/-- A stated figure of the source bucket is no number. -/
def figuresMalformed (bucket : Fields) : Bool :=
  !isFigure lib (get bucket "weight") ||
    !isFigure lib (get bucket "market_value_reporting_currency")

/-- `_map_source_buckets`. -/
def mapSourceBuckets (portfolioId : Json) : List Json → Except SourceError (List Json × Bool)
  | [] => .ok ([], false)
  | value :: values =>
      let bucket := asDict value
      match get bucket "dimension_value" with
      | .str label =>
          if strip label = "" then
            (mapSourceBuckets portfolioId values).map fun rest => (rest.1, true)
          else
            match qualifyContributors lib portfolioId (sourceRow lib bucket label) with
            | (_, none) => .error (.upstream "lotus-core allocation contributor scope mismatch.")
            | (row, some malformed) =>
                (mapSourceBuckets portfolioId values).map fun rest =>
                  (.obj row :: rest.1, malformed || figuresMalformed lib bucket || rest.2)
      | _ => (mapSourceBuckets portfolioId values).map fun rest => (rest.1, true)

/-- The key of a dimension. -/
def dimensionKey : Json → Option String
  | .str dimension => allocationDimensions.lookup dimension
  | _ => none

/-- The views of a source answer, laid out one after another. -/
def mapSourceViews (portfolioId : Json) : List Json → Fields → Except SourceError (Fields × Bool)
  | [], allocation => .ok (allocation, false)
  | view :: views, allocation =>
      let raw := asDict view
      match dimensionKey (get raw "dimension"), get raw "buckets" with
      | some key, .arr buckets =>
          if (Json.lookup allocation key).isSome then
            (mapSourceViews portfolioId views allocation).map fun rest => (rest.1, true)
          else do
            let mapped ← mapSourceBuckets lib portfolioId buckets
            let totals := Json.assign (asDict (get allocation "view_totals")) key
              (ofNumber (allocationNumber lib (get raw "total_market_value_reporting_currency")))
            let rest ← mapSourceViews portfolioId views
              (Json.assign (Json.assign allocation key (.arr mapped.1)) "view_totals" (.obj totals))
            return (rest.1, mapped.2 || rest.2)
      | _, _ => (mapSourceViews portfolioId views allocation).map fun rest => (rest.1, true)

/-- A requested dimension has no view; only a text names a dimension. -/
def missesDimension (request allocation : Fields) : Bool :=
  match get request "dimensions" with
  | .arr items => items.any fun item =>
      !((dimensionKey item).any fun key => (Json.lookup allocation key).isSome)
  | _ => false

/-- A text that is admitted, or nothing. -/
def textOrNone (allowed : String → Bool) : Json → Option String
  | .str text => if allowed text then some text else none
  | _ => none

/-- `_qualify`. -/
def qualify (payload allocation : Fields) (malformed : Bool) : AllocationQualification :=
  let base : AllocationQualification := {
    status := .missing
    reasonCode := .valuationMissing
    sourcePortfolioId := bounded (get (asDict (get payload "scope")) "portfolio_id")
    sourceAsOfDate := textOrNone isIsoDate (get payload "resolved_as_of_date")
    sourceReportingCurrency := textOrNone isCurrency (get payload "reporting_currency") }
  match AllocationValuationCoverage.validate (get payload "valuation_coverage") with
  | .error _ =>
      if (Json.lookup payload "valuation_coverage").isSome then
        { base with status := .invalid, reasonCode := .valuationInvalid } else base
  | .ok coverage =>
      let base := { base with coverage := some coverage }
      if malformed then { base with status := .invalid, reasonCode := .valuationInvalid }
      else if [CoverageState.partlyCovered, .unavailable, .carryForward].contains
          coverage.coverageState then
        { base with
          status := .partlyQualified
          reasonCode := if coverage.coverageState == .carryForward then .valuationCarryForward
            else .valuationPartial }
      else if (bucketsOf allocation).any fun row =>
          get row "weight" == .null || get row "market_value" == .null then
        { base with status := .partlyQualified, reasonCode := .numericUnavailable }
      else
        { base with
          status := .complete
          reasonCode := .valuationComplete
          clientPublicationAllowed := true }

/-- Copy a field that is stated. -/
def copyField (payload allocation : Fields) (field : String) : Fields :=
  match Json.lookup payload field with
  | some value => Json.assign allocation field value
  | none => allocation

/-- The fields that complete a captured allocation. -/
def completed (payload allocation : Fields) (q : AllocationQualification) : Fields :=
  let copied :=
    copyField payload (copyField payload allocation "look_through") "calculation_lineage"
  let totalled := Json.assign copied "total_market_value_reporting_currency"
    (ofNumber (allocationNumber lib (get payload "total_market_value_reporting_currency")))
  let covered := Json.assign totalled "valuation_coverage" ((q.coverage.map (·.dump)).getD .null)
  Json.assign (Json.assign covered "qualification" q.dump) "supportability" (supportability q)

/-- `map_source_allocation`. -/
def mapSourceAllocation (payload request : Fields) : Except SourceError Fields := do
  let bound ← sourceBinding lib payload request
  if get payload "valuation_coverage" != .null && !bound then
    .error (.upstream "lotus-core allocation source binding missing.")
  else
    let mapped ← mapSourceViews lib (get (asDict (get request "scope")) "portfolio_id")
      (asList (get payload "views")) [("view_totals", .obj [])]
    let contradictory ← (contradictorySourceNumbers lib (get payload "valuation_coverage")
      (get payload "total_market_value_reporting_currency") mapped.1).mapError .raised
    let malformed := !(get payload "views" matches .arr _) || mapped.2 ||
      missesDimension request mapped.1 || contradictory
    let q := qualify payload mapped.1 malformed
    let allocation := if q.status == .invalid then suppressWeights mapped.1 else mapped.1
    return completed lib payload allocation q

end Capture

end LotusReport.Allocation
