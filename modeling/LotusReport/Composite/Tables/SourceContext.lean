import LotusReport.Composite.Tables.Contract
import Mathlib.Data.List.Infix

/-!
# The tables of a source context

The dataset of a source context echoes its documents into tables. Every cell
names the place that its value was read from. A dataset is accepted when its
tables are those that the builders make of its documents; only the rows of the
methods may stand in another order.
-/

namespace LotusReport.Composite.SourceContext

open Encoding Json Fallible

section Columns

/-- The units and the display of a column. -/
structure DisplayPolicy where
  valueType : ValueType
  unit : CellUnit
  displayUnit : DisplayUnit
  displayConversion : DisplayConversion
  displayDecimalPlaces : Option Nat

def textPolicy : DisplayPolicy := ⟨.text, .text, .text, .identity, none⟩

def returnPolicy : DisplayPolicy :=
  ⟨.decimalReturn, .decimalRatio, .percent, .ratioToPercentDisplay, some 2⟩

def contributionPolicy : DisplayPolicy :=
  ⟨.decimalReturn, .decimalRatio, .percentagePoints, .ratioToPercentDisplay, some 2⟩

def moneyPolicy : DisplayPolicy := ⟨.money, .currencyUnits, .currencyUnits, .identity, some 2⟩

def countPolicy : DisplayPolicy := ⟨.count, .portfolioCount, .portfolioCount, .identity, some 0⟩

/-- A column before its currency is known. -/
structure ColumnPlan where
  key : String
  label : String
  policy : DisplayPolicy

/-- `_column`. -/
def ColumnPlan.column (plan : ColumnPlan) (currency : Json) : CompositeColumn where
  columnId := plan.key
  label := plan.label
  valueType := plan.policy.valueType
  unit := plan.policy.unit
  displayUnit := plan.policy.displayUnit
  displayConversion := plan.policy.displayConversion
  displayDecimalPlaces := plan.policy.displayDecimalPlaces
  currency := if plan.policy.valueType = .money then currency else .null

/-- `require_complete_table`. -/
def requireCompleteTable (table : CompositeTable) : Except CaptureError Unit :=
  let keys := table.columns.map (·.columnId)
  if !decide keys.Nodup then .error (.raised "ValidationError")
  else if !decide (table.rows.map (·.rowId)).Nodup then .error (.raised "ValidationError")
  else if table.rows.any fun row => !decide ((row.cells.map Prod.fst).Perm keys) then
    .error (.raised "ValidationError")
  else .ok ()

def checkedTable (table : CompositeTable) : Except CaptureError CompositeTable := do
  requireCompleteTable table
  return table

end Columns

section Builder

variable (py : Runtime)

/-- A row before its cells are read: its identity, and a pointer for each column. -/
structure RowPlan where
  rowId : String
  pointers : List (String × String)

/-- `_cell`. -/
def cellAt (dataset : Json) (pointer : String) : Except CaptureError CompositeCell := do
  let value ← resolveSourcePointer dataset pointer
  if value = .null then
    let reason := if "/authority/".toList <:+: pointer.toList then "SOURCE_AUTHORITY_NOT_ATTESTED"
      else if "/uncaptured/".toList <:+: pointer.toList then "SOURCE_PRODUCT_NOT_CAPTURED"
      else "SOURCE_VALUE_UNAVAILABLE"
    return ⟨none, .unavailable, [reason], pointer⟩
  return ⟨some (pyStr py value), .available, [], pointer⟩

/-- The rows of a table. -/
def buildRows (cell : String → String → Except CaptureError CompositeCell) (rows : List RowPlan) :
    Except CaptureError (List CompositeRow) :=
  rows.mapM fun row => do
    return ⟨row.rowId, ← row.pointers.mapM fun (key, pointer) => do
      return (key, ← cell key pointer)⟩

/-- `_table`. -/
def tableOf (dataset : Json) (tableId : String) (columns : List ColumnPlan) (rows : List RowPlan) :
    Except CaptureError CompositeTable := do
  let currency ← readAt dataset ["selection", "reporting_currency"]
  let rows ← buildRows (fun _ => cellAt py dataset) rows
  checkedTable ⟨tableId, tableId, columns.map (·.column currency), rows⟩

/-- A row whose pointers end in the names of the columns. -/
def rowBelow (rowId root : String) (columns : List ColumnPlan) : RowPlan :=
  ⟨rowId, columns.map fun column => (column.key, root ++ "/" ++ column.key)⟩

def summaryFields : List (ColumnPlan × String) :=
  [(⟨"composite_id", "Composite", textPolicy⟩, "/selection/composite_id"),
    (⟨"period_start", "Inclusive start", textPolicy⟩, "/selection/period_start"),
    (⟨"period_end", "Inclusive end", textPolicy⟩, "/selection/period_end"),
    (⟨"return_view", "Fee view", textPolicy⟩, "/selection/return_view"),
    (⟨"currency", "Currency", textPolicy⟩, "/selection/reporting_currency"),
    (⟨"return", "Requested horizon cumulative return", returnPolicy⟩,
      "/source_response/cumulative_return"),
    (⟨"status", "Source calculation status", textPolicy⟩, "/source_response/status"),
    (⟨"qualification", "Evidence qualification", textPolicy⟩, "/report_facts/qualification"),
    (⟨"publication", "Publication authority", textPolicy⟩, "/report_facts/publication_state"),
    (⟨"authority_receipt", "Authority receipt", textPolicy⟩, "/report_facts/authority/receipt"),
    (⟨"control_revision", "Control revision", textPolicy⟩,
      "/report_facts/authority/control_revision")]

/-- `_summary`. -/
def summary (dataset : Json) : Except CaptureError CompositeTable :=
  tableOf py dataset "Summary" (summaryFields.map Prod.fst)
    [⟨"summary", summaryFields.map fun (column, pointer) => (column.key, pointer)⟩]

def periodColumns : List ColumnPlan :=
  [⟨"period_start", "Inclusive start", textPolicy⟩, ⟨"period_end", "Inclusive end", textPolicy⟩,
    ⟨"status", "Source status", textPolicy⟩, ⟨"return_value", "Period return", returnPolicy⟩,
    ⟨"cumulative_return", "Cumulative return through period", returnPolicy⟩,
    ⟨"beginning_market_value", "Beginning assets", moneyPolicy⟩,
    ⟨"ending_market_value", "Ending assets", moneyPolicy⟩,
    ⟨"member_count", "Ready fact count", countPolicy⟩,
    ⟨"excluded_member_count", "Non-ready fact count", countPolicy⟩,
    ⟨"dispersion_equal_weight", "Period member dispersion", returnPolicy⟩,
    ⟨"return_view", "Fee view", textPolicy⟩, ⟨"reporting_currency", "Currency", textPolicy⟩,
    ⟨"restatement_sequence", "Fact sequence", textPolicy⟩]

/-- `_month_end`. -/
def monthEnd (value : Json) : Except CaptureError Bool := do
  let next := (← dateOf value).next
  if next.valid then return next.day = 1 else .error (.raised "OverflowError")

/-- The window is a whole month. -/
def isMonth (window : Json) : Except CaptureError Bool := do
  let first ← textOf (← subscript window "period_start")
  if !"-01".toList.isSuffixOf first.toList then return false
  let last ← subscript window "period_end"
  if !(← monthEnd last) then return false
  return first.toList.take 7 = (← textOf last).toList.take 7

/-- `_periods`. -/
def periods (dataset : Json) : Except CaptureError CompositeTable := do
  let periods ← itemsOf (← readAt dataset ["source_response", "periods"])
  let rows := (List.range periods.length).map fun index =>
    rowBelow (toString index) ("/source_response/periods/" ++ toString index) periodColumns
  let monthly ← allTrue ((← itemsOf (← readAt dataset ["selection", "windows"])).map isMonth)
  tableOf py dataset (if monthly then "MonthlyReturns" else "PeriodReturns") periodColumns rows

def contributionColumns : List ColumnPlan :=
  [⟨"portfolio_id", "Member identifier", textPolicy⟩,
    ⟨"period_start", "Inclusive start", textPolicy⟩, ⟨"period_end", "Inclusive end", textPolicy⟩,
    ⟨"return_value", "Member return", returnPolicy⟩,
    ⟨"beginning_market_value", "Beginning assets", moneyPolicy⟩,
    ⟨"beginning_asset_weight", "Beginning asset weight", returnPolicy⟩,
    ⟨"contribution", "Return contribution (percentage points)", contributionPolicy⟩,
    ⟨"source_snapshot_id", "Member snapshot", textPolicy⟩,
    ⟨"source_fingerprint", "Member fingerprint", textPolicy⟩,
    ⟨"restatement_version", "Fact version", textPolicy⟩,
    ⟨"restatement_sequence", "Fact sequence", textPolicy⟩]

/-- The rows of the contributions, period by period. -/
def contributionRows (periods : List Json) : Except CaptureError (List RowPlan) := do
  let rows ← periods.zipIdx.mapM fun (period, periodIndex) => do
    let members ← itemsOf (← subscript period "member_contributions")
    return (List.range members.length).map fun memberIndex =>
      rowBelow (toString periodIndex ++ ":" ++ toString memberIndex)
        ("/source_response/periods/" ++ toString periodIndex ++ "/member_contributions/" ++
          toString memberIndex) contributionColumns
  return rows.flatten

/-- `_contributions`. -/
def contributions (dataset : Json) : Except CaptureError CompositeTable := do
  let rows ← contributionRows (← itemsOf (← readAt dataset ["source_response", "periods"]))
  if rows.isEmpty then
    tableOf py dataset "Contribution" [⟨"value", "Member contribution evidence", textPolicy⟩]
      [⟨"unavailable", [("value", "/report_facts/unavailable_contribution")]⟩]
  else tableOf py dataset "Contribution" contributionColumns rows

/-- `_pointer_table`, with the pointers among the facts already. -/
def pointerTable (dataset : Json) (name : String) (pointers : List String) :
    Except CaptureError CompositeTable :=
  tableOf py dataset name
    [⟨"field", "Evidence path", textPolicy⟩, ⟨"value", "Exact value", textPolicy⟩]
    (pointers.zipIdx.map fun (pointer, index) => ⟨toString index,
      [("field", "/report_facts/" ++ name ++ "/" ++ toString index), ("value", pointer)]⟩)

/-- The pointers of `_methods`. -/
def methodPointers (document : Json) : Except CaptureError (List String) := do
  let windows ← itemsOf (← readAt document ["selection", "windows"])
  let bound ← windows.zipIdx.mapM fun (window, index) => do
    let names ← (← itemsOf (← subscript window "method_binding")).mapM textOf
    return (sortedTexts names).map fun name =>
      "/selection/windows/" ++ toString index ++ "/method_binding/" ++ escapeKey name
  return ["/selection/methodology", "/selection/engine_version"] ++ bound.flatten

/-- The pointers of `_lineage`. -/
def lineagePointers (document : Json) : Except CaptureError (List String) := do
  let windows ← itemsOf (← readAt document ["selection", "windows"])
  return ["/selection/calculation_id", "/selection/calculation_fingerprint",
    "/report_facts/source_response_digest"] ++
    (List.range windows.length).flatMap fun index =>
      ["materialization_id", "definition_content_hash", "membership_content_hash",
        "attestation_content_hash", "source_cut_id", "retained_receipt_fingerprint"].map fun key =>
        "/selection/windows/" ++ toString index ++ "/" ++ key

def disclosureTexts : List (String × String) :=
  [("CALCULATED_REPLAY_NOT_OFFICIAL", "Explicit retained calculated replay. " ++
      "Official publication authority is not attested."),
    ("FINANCIAL_VALUES_SOURCE_OWNED",
      "Performance owns every return, asset, weight and contribution. " ++
      "Report does not recalculate."),
    ("EXACT_VALUES_AND_DISPLAY",
      "Canonical decimal text is exact. Numeric Excel display uses declared " ++
      "units and rounding; retain the canonical companion for precision."),
    ("NULL_IS_NOT_ZERO", "Zero is measured. Unavailable, unknown and not-applicable cells " ++
      "are null with reasons."),
    ("COUNT_SCOPE", "Member count is ready financial facts. Excluded member count is " ++
      "non-ready facts, not a unique policy-exclusion population or reason total.")]

/-- The tables that a dataset has no source for. -/
def uncapturedLabels : List (String × String) :=
  [("AnnualReturns", "Calendar-year returns"), ("Risk", "Risk analytics"),
    ("Members", "Complete expected member population"),
    ("EligibilityReasons", "Policy eligibility reasons"),
    ("MembershipHistory", "Historical membership decisions"),
    ("Attribution", "Benchmark-relative attribution"),
    ("Restatement", "Approved correction comparison")]

/-- `_report_facts`. -/
def reportFacts (document : Json) : Except CaptureError Fields := do
  return [("qualification", ← subscript document "qualification"),
    ("publication_state", ← subscript document "publication_state"),
    ("source_response_digest", ← subscript document "source_response_digest"),
    ("authority", .obj [("receipt", .null), ("control_revision", .null),
      ("availability", .str "UNAVAILABLE"), ("reason_code", .str "SOURCE_AUTHORITY_NOT_ATTESTED")]),
    ("unavailable_contribution", .null),
    ("disclosures", .arr (disclosureTexts.map fun (code, text) =>
      .obj [("code", .str code), ("text", .str text)])),
    ("uncaptured", .obj (uncapturedLabels.map fun (key, label) => (key, .obj
      [("metric", .str label), ("value", .null),
        ("reason_code", .str "SOURCE_PRODUCT_NOT_CAPTURED")])))]

/-- `_disclosures`. -/
def disclosures (dataset : Json) : Except CaptureError CompositeTable :=
  let columns := [⟨"code", "Disclosure", textPolicy⟩, ⟨"text", "Text", textPolicy⟩]
  tableOf py dataset "Disclosures" columns ((List.range disclosureTexts.length).map fun index =>
    rowBelow (toString index) ("/report_facts/disclosures/" ++ toString index) columns)

/-- `_uncaptured_tables`. -/
def uncapturedTables (dataset : Json) : Except CaptureError (List CompositeTable) :=
  let columns := [⟨"metric", "Uncaptured evidence", textPolicy⟩, ⟨"value", "Value", textPolicy⟩,
    ⟨"reason_code", "Reason", textPolicy⟩]
  uncapturedLabels.mapM fun (name, _) => tableOf py dataset name columns
    [rowBelow "unavailable" ("/report_facts/uncaptured/" ++ name) columns]

/-- A dataset: its documents, the facts that the report states itself, and its tables. -/
structure Dataset where
  document : Fields
  facts : Fields
  tables : List CompositeTable

/-- The document that pointers lead into. -/
def Dataset.json (d : Dataset) : Json := .obj (assign d.document "report_facts" (.obj d.facts))

/-- `build_composite_tables`. -/
def buildCompositeTables (document : Fields) : Except CaptureError Dataset := do
  let facts ← reportFacts (.obj document)
  let dataset := Dataset.json ⟨document, facts, []⟩
  let summary ← summary py dataset
  let periods ← periods py dataset
  let contributions ← contributions py dataset
  let methodPaths ← methodPointers (.obj document)
  let facts := assign facts "Methods" (ofTexts methodPaths)
  let methods ← pointerTable py (Dataset.json ⟨document, facts, []⟩) "Methods" methodPaths
  let lineagePaths ← lineagePointers (.obj document)
  let facts := assign facts "Lineage" (ofTexts lineagePaths)
  let dataset := Dataset.json ⟨document, facts, []⟩
  let lineage ← pointerTable py dataset "Lineage" lineagePaths
  let disclosures ← disclosures py dataset
  let uncaptured ← uncapturedTables py dataset
  return ⟨document, facts,
    [summary, periods, contributions, methods, lineage, disclosures] ++ uncaptured⟩

end Builder

section Projection

variable (py : Runtime) (co : Coercions)

/-- `key.replace("_", " ").capitalize()`. -/
def capitalized (key : String) : String :=
  match replaceChar '_' [' '] key.toList with
  | [] => ""
  | c :: cs => String.ofList (c.toUpper :: cs.map Char.toLower)

/-- `_inception_column`. -/
def inceptionColumn (key : String) : ColumnPlan :=
  ⟨key, capitalized key, if key = "return" then returnPolicy else textPolicy⟩

/-- Why there is no return since inception. -/
def inceptionReason (document : Json) : Except CaptureError (Option String) := do
  let start ← readAt document ["selection", "period_start"]
  let inception ← readAt document ["definition", "source_response", "inception_date"]
  match co.date start, co.date inception with
  | some start, some inception =>
      if start ≠ inception then return some "SOURCE_VECTOR_BEGINS_AFTER_PINNED_INCEPTION"
  | _, _ => .error (.raised "ValidationError")
  if (← readAt document ["source_response", "status"]) ≠ .str "READY" then
    return some "COMPLETE_READY_SOURCE_VECTOR_REQUIRED"
  let periods ← itemsOf (← readAt document ["source_response", "periods"])
  let unready ← firstTrue (periods.map fun period => do
    return (← subscript period "status") ≠ .str "READY")
  return if unready then some "COMPLETE_READY_SOURCE_VECTOR_REQUIRED" else none

def inceptionPointers (reason : Option String) : List (String × String) :=
  [("inception_date", "/definition/source_response/inception_date"),
    ("period_start", "/selection/period_start"), ("period_end", "/selection/period_end"),
    ("return", if reason.isSome then "/report_facts/since_inception/value"
      else "/source_response/cumulative_return"),
    ("availability", "/report_facts/since_inception/availability"),
    ("reason", "/report_facts/since_inception/reason"),
    ("coverage_convention", "/report_facts/since_inception/coverage_convention"),
    ("definition_version", "/definition/pin/definition_version"),
    ("definition_hash", "/definition/pin/content_hash"),
    ("definition_response_digest", "/definition/source_response_digest")]

/-- A cell of the table since inception. -/
def inceptionCell (dataset : Json) (reason : Option String) (key pointer : String) :
    Except CaptureError CompositeCell := do
  let value ← resolveSourcePointer dataset pointer
  let text := if value = .null then none else some (pyStr py value)
  match (if key = "return" then reason else none) with
  | some reason => return ⟨text, .unavailable, [reason], pointer⟩
  | none => return ⟨text, .available, [], pointer⟩

/-- `project_inception_tables`. -/
def projectInceptionTables (document : Fields) : Except CaptureError Dataset := do
  let dataset ← buildCompositeTables py document
  let reason ← inceptionReason co (.obj document)
  let cumulative ← readAt (.obj document) ["source_response", "cumulative_return"]
  let since : Json := .obj [("availability", .str (if reason.isSome then "UNAVAILABLE" else "AVAILABLE")),
    ("reason", .str (reason.getD "NONE")), ("value", if reason.isSome then .null else cumulative),
    ("coverage_convention", .str "INCLUSIVE_SOURCE_INCEPTION")]
  let facts := assign dataset.facts "since_inception" since
  let pointers := inceptionPointers reason
  let rows ← buildRows (inceptionCell py (Dataset.json ⟨document, facts, []⟩) reason)
    [⟨"since_inception", pointers⟩]
  let table ← checkedTable ⟨"SinceInception", "Since inception — calculated replay",
    pointers.map fun (key, _) => (inceptionColumn key).column .null, rows⟩
  return ⟨document, facts, dataset.tables ++ [table]⟩

def returnProductColumns : List ColumnPlan :=
  [⟨"product", "Product key", textPolicy⟩, ⟨"kind", "Horizon kind", textPolicy⟩,
    ⟨"period_start", "Inclusive start", textPolicy⟩, ⟨"period_end", "Inclusive end", textPolicy⟩,
    ⟨"return_view", "Fee view", textPolicy⟩, ⟨"currency", "Currency", textPolicy⟩,
    ⟨"return", "Source horizon return", returnPolicy⟩, ⟨"status", "Source status", textPolicy⟩,
    ⟨"methodology", "Source methodology", textPolicy⟩,
    ⟨"engine_version", "Source engine", textPolicy⟩,
    ⟨"response_digest", "Captured response digest", textPolicy⟩]

/-- `product_cell_pointers`. -/
def productCellPointers (index : Nat) : List (String × String) :=
  let root := "/source_products/" ++ toString index
  [("product", root ++ "/pin/product_key"), ("kind", root ++ "/pin/kind"),
    ("period_start", root ++ "/pin/selection/period_start"),
    ("period_end", root ++ "/pin/selection/period_end"),
    ("return_view", root ++ "/pin/selection/return_view"),
    ("engine_version", root ++ "/pin/selection/engine_version"),
    ("currency", root ++ "/pin/selection/reporting_currency"),
    ("return", root ++ "/source_response/cumulative_return"),
    ("status", root ++ "/source_response/status"),
    ("methodology", root ++ "/source_response/methodology"),
    ("response_digest", root ++ "/source_response_digest")]

/-- A cell of a product: its value as the captured product has it. -/
def productCell (dataset product : Json) (pointer : String) : Except CaptureError CompositeCell := do
  match ← resolveSourcePointer dataset pointer with
  | .null =>
      let reasons ← readAt product ["source_response", "reason_codes"]
      let codes ← if reasons.truthy then (← itemsOf reasons).mapM textOf
        else .ok ["SOURCE_VALUE_UNAVAILABLE"]
      return ⟨none, .unavailable, codes, pointer⟩
  | value => return ⟨some (← textOf value), .available, [], pointer⟩

/-- The table of the products of one kind, or nothing where there is none. -/
def productTable (dataset : Json) (products : List Json) (kind tableId : String) :
    Except CaptureError (Option CompositeTable) := do
  let rows ← products.zipIdx.filterMapM fun (product, index) => do
    if (← readAt product ["pin", "kind"]) = .str kind then
      let key ← textOf (← readAt product ["pin", "product_key"])
      return some (← buildRows (fun _ => productCell dataset product)
        [⟨key, productCellPointers index⟩])
    else return none
  if rows.isEmpty then return none
  return some (← checkedTable ⟨tableId, tableId, returnProductColumns.map (·.column .null),
    rows.flatten⟩)

/-- Take a table out of its place and put another at the end. -/
def moveToEnd (tables : List CompositeTable) (table : CompositeTable) : List CompositeTable :=
  tables.filter (·.tableId ≠ table.tableId) ++ [table]

/-- `members.pop(name, None)`. -/
def withoutMember (name : String) : Json → Json
  | .obj members => .obj (members.filter (·.1 ≠ name))
  | value => value

/-- The facts without an uncaptured table. -/
def withoutUncaptured (facts : Fields) (name : String) : Fields :=
  facts.map fun (key, value) =>
    (key, if key = "uncaptured" then withoutMember name value else value)

/-- `project_product_tables`. -/
def projectProductTables (dataset : Dataset) (products : List Json) : Except CaptureError Dataset := do
  let calendar ← productTable dataset.json products "CALENDAR_RETURN" "AnnualReturns"
  let dataset := match calendar with
    | some table => ⟨dataset.document, withoutUncaptured dataset.facts "AnnualReturns",
        moveToEnd dataset.tables table⟩
    | none => dataset
  let trailing ← productTable dataset.json products "TRAILING_RETURN" "TrailingReturns"
  return match trailing with
    | some table => { dataset with tables := moveToEnd dataset.tables table }
    | none => dataset

def historyFields : List String :=
  ["membership_revision", "supersedes_membership_revision", "affected_from", "affected_to",
    "portfolio_id", "effective_from", "effective_to", "status", "reason_code", "discretionary",
    "approval_ref", "source_snapshot_id"]

/-- A cell of the membership history. -/
def historyCell (dataset : Json) (field pointer : String) : Except CaptureError CompositeCell := do
  let value ← resolveSourcePointer dataset pointer
  let value := if field = "discretionary" then .str (if value.truthy then "true" else "false")
    else value
  if value = .null then
    return ⟨none, .notApplicable, [if field = "effective_to" then "OPEN_ENDED_INTERVAL"
      else "SOURCE_FIELD_NOT_APPLICABLE"], pointer⟩
  return ⟨some (← textOf value), .available, [], pointer⟩

/-- The rows of the membership history: each decision of each membership. -/
def historyRows (memberships : List Json) : Except CaptureError (List RowPlan) := do
  let rows ← memberships.zipIdx.mapM fun (capture, index) => do
    let decisions ← itemsOf (← readAt capture ["source_response", "decisions"])
    let base := "/supplied_memberships/" ++ toString index ++ "/source_response"
    return (List.range decisions.length).map fun ordinal =>
      ⟨"r" ++ toString index ++ ":d" ++ toString ordinal, historyFields.map fun field =>
        (field, if (historyFields.take 4).contains field then base ++ "/" ++ field
          else base ++ "/decisions/" ++ toString ordinal ++ "/" ++ field)⟩
  return rows.flatten

/-- `project_membership_history`. -/
def projectMembershipHistory (dataset : Dataset) (memberships : List Json) :
    Except CaptureError Dataset := do
  let rows ← buildRows (historyCell dataset.json) (← historyRows memberships)
  let table ← checkedTable ⟨"MembershipHistory", "Supplied membership history",
    historyFields.map fun field => (⟨field, capitalized field, textPolicy⟩ : ColumnPlan).column .null,
    rows⟩
  return ⟨dataset.document, withoutUncaptured dataset.facts "MembershipHistory",
    moveToEnd dataset.tables table⟩

/-- `project_source_context`, without the checks of custody and of capacity. -/
def projectSourceContext (document : Fields) : Except CaptureError Dataset := do
  let since ← readAt (.obj document) ["source_context", "since_inception"]
  let dataset ← (if since.truthy then projectInceptionTables py co document
    else buildCompositeTables py document)
  let products ← itemsOf ((lookup document "source_products").getD (.arr []))
  let dataset ← (if products.isEmpty then .ok dataset else projectProductTables dataset products)
  let memberships ← itemsOf (← subscript (.obj document) "supplied_memberships")
  if memberships.isEmpty then .ok dataset else projectMembershipHistory dataset memberships

end Projection

section Acceptance

/-- A constraint of a model. -/
def constrain (condition : Prop) [Decidable condition] : Except CaptureError Unit :=
  if condition then .ok () else .error (.raised "ValidationError")

/-- `InceptionTable`. -/
def validateTable (table : CompositeTable) : Except CaptureError Unit := do
  constrain (lengthWithin 1 31 table.tableId)
  constrain (1 ≤ table.columns.length ∧ table.columns.length ≤ 32)
  constrain (1 ≤ table.rows.length ∧ table.rows.length ≤ 10000)
  requireCompleteTable table

/-- Equality of rows: the cells of a row are a dictionary. -/
def sameRow (a b : CompositeRow) : Bool := a.rowId == b.rowId && decide (a.cells.Perm b.cells)

/-- Equality of tables. -/
def sameTable (a b : CompositeTable) : Bool :=
  a.tableId == b.tableId && a.title == b.title && decide (a.columns = b.columns) &&
    a.rows.length == b.rows.length && (a.rows.zip b.rows).all fun (x, y) => sameRow x y

/-- Equality of lists of tables. -/
def sameTables (as bs : List CompositeTable) : Bool :=
  as.length == bs.length && (as.zip bs).all fun (a, b) => sameTable a b

/-- The refusal of another projection. -/
def projectionConflict : CaptureError := .evidenceRefused "COMPOSITE_REPORT_PROJECTION_CONFLICT"

/-- A row of the methods at its new place. -/
def movedRow (rows : List CompositeRow) (oldIndex index : Nat) (pointer : String) :
    Except CaptureError CompositeRow :=
  match rows[oldIndex]? with
  | none => .error projectionConflict
  | some row =>
      match row.cells.lookup "field" with
      | none => .error projectionConflict
      | some field =>
          if row.rowId ≠ toString oldIndex ∨
              field.sourcePointer ≠ "/report_facts/Methods/" ++ toString oldIndex ∨
              field.canonicalValue ≠ some pointer then .error projectionConflict
          else .ok ⟨toString index, row.cells.map fun cell => if cell.1 = "field" then
            ("field", { field with sourcePointer := "/report_facts/Methods/" ++ toString index })
            else cell⟩

/-- The tables with the first one of a name replaced. -/
def replaceTable (new : CompositeTable) : List CompositeTable → List CompositeTable
  | [] => []
  | table :: tables =>
      if table.tableId = new.tableId then new :: tables else table :: replaceTable new tables

/-- The retained paths of the methods, which must be texts. -/
def retainedPaths (retained : Json) : Except CaptureError (List String) :=
  match (itemsOf retained).bind fun items => items.mapM textOf, retained with
  | .ok texts, .arr _ => .ok texts
  | _, _ => .error projectionConflict

/-- `_normalize_method_order`. The required paths are distinct, so no row is moved twice. -/
def normalizeMethodOrder (actual expected : Dataset) : Except CaptureError Dataset := do
  let retained := (lookup actual.facts "Methods").getD .null
  let required ← (← itemsOf (← subscript (.obj expected.facts) "Methods")).mapM textOf
  if retained = ofTexts required then .ok actual
  else do
    let retained ← retainedPaths retained
    if sortedTexts retained ≠ sortedTexts required then .error projectionConflict
    else
      match actual.tables.find? (·.tableId = "Methods"),
          expected.tables.find? (·.tableId = "Methods") with
      | some table, some expectedTable =>
          if table.rows.length ≠ retained.length then .error projectionConflict
          else do
            let rows ← required.zipIdx.mapM fun (pointer, index) =>
              movedRow table.rows (retained.idxOf pointer) index pointer
            if sameTable { table with rows := rows } expectedTable then
              .ok ⟨actual.document, assign actual.facts "Methods" (ofTexts required),
                replaceTable { table with rows := rows } actual.tables⟩
            else .error projectionConflict
      | _, _ => .error projectionConflict

/-- `require_complete_projection`; documents are compared by the equality of the language. -/
def requireCompleteProjection (sameFacts : Json → Json → Bool) (actual expected : Dataset) :
    Except CaptureError Unit := do
  let normalized ← normalizeMethodOrder actual expected
  if !sameFacts (.obj normalized.facts) (.obj expected.facts) then .error projectionConflict
  if !sameTables normalized.tables expected.tables then .error projectionConflict

end Acceptance

section Layout

variable {py : Runtime} {co : Coercions} {dataset : Json}

/-- The layout of a table: its name, its columns and its rows. -/
structure Layout where
  tableId : String
  columnIds : List String
  rowIds : List String
deriving DecidableEq

def layoutOf (table : CompositeTable) : Layout :=
  ⟨table.tableId, table.columns.map (·.columnId), table.rows.map (·.rowId)⟩

theorem checkedTable_eq {table table' : CompositeTable} (h : checkedTable table = .ok table') :
    table' = table := by
  obtain ⟨-, -, h⟩ := bind_eq_ok.mp h
  cases h
  rfl

theorem rowIds_buildRows {cell : String → String → Except CaptureError CompositeCell}
    {plans : List RowPlan} {rows : List CompositeRow} (h : buildRows cell plans = .ok rows) :
    rows.map (·.rowId) = plans.map (·.rowId) := by
  rw [buildRows, mapM_eq_ok] at h
  induction h with
  | nil => rfl
  | cons hrow _ ih =>
      obtain ⟨cells, -, hrow⟩ := bind_eq_ok.mp hrow
      cases hrow
      rw [List.map_cons, List.map_cons, ih]

theorem layout_tableOf {tableId : String} {columns : List ColumnPlan} {rows : List RowPlan}
    {table : CompositeTable} (h : tableOf py dataset tableId columns rows = .ok table) :
    layoutOf table = ⟨tableId, columns.map (·.key), rows.map (·.rowId)⟩ := by
  obtain ⟨currency, -, h⟩ := bind_eq_ok.mp h
  obtain ⟨built, hbuilt, h⟩ := bind_eq_ok.mp h
  rw [checkedTable_eq h, layoutOf, rowIds_buildRows hbuilt, List.map_map]
  rfl

/-- The names of some columns. -/
def keysOf (columns : List ColumnPlan) : List String := columns.map (·.key)

/-- Indices as texts. -/
def indices (n : Nat) : List String := (List.range n).map toString

theorem layout_pointerTable {name : String} {pointers : List String} {table : CompositeTable}
    (h : pointerTable py dataset name pointers = .ok table) :
    layoutOf table = ⟨name, ["field", "value"], indices pointers.length⟩ := by
  rw [layout_tableOf h, List.map_map]
  congr 1
  apply List.ext_getElem
  · simp [indices]
  · intro index _ _
    simp [indices]

theorem layout_periods {table : CompositeTable} (h : periods py dataset = .ok table) :
    ∃ items, ∃ monthly : Bool, (readAt dataset ["source_response", "periods"]).bind itemsOf = .ok items ∧
      layoutOf table = ⟨if monthly then "MonthlyReturns" else "PeriodReturns",
        keysOf periodColumns, indices items.length⟩ := by
  obtain ⟨value, hvalue, h⟩ := bind_eq_ok.mp h
  obtain ⟨items, hitems, h⟩ := bind_eq_ok.mp h
  obtain ⟨_, -, h⟩ := bind_eq_ok.mp h
  obtain ⟨_, -, h⟩ := bind_eq_ok.mp h
  obtain ⟨monthly, -, h⟩ := bind_eq_ok.mp h
  refine ⟨items, monthly, ?_, ?_⟩
  · rw [hvalue]
    exact hitems
  · rw [layout_tableOf h, List.map_map]
    rfl

/-- The rows of the contributions are named by a period and a member. -/
theorem mem_contributionRows {items : List Json} {rows : List RowPlan}
    (h : contributionRows items = .ok rows) {row : RowPlan} (hrow : row ∈ rows) :
    ∃ p < items.length, ∃ m < rows.length, row.rowId = toString p ++ ":" ++ toString m := by
  obtain ⟨parts, hparts, h⟩ := bind_eq_ok.mp h
  cases h
  obtain ⟨part, hpart, hrow⟩ := List.mem_flatten.mp hrow
  obtain ⟨⟨period, p⟩, hperiod, hbuilt⟩ := exists_of_mem_mapM hparts hpart
  obtain ⟨_, -, hbuilt⟩ := bind_eq_ok.mp hbuilt
  obtain ⟨members, -, hbuilt⟩ := bind_eq_ok.mp hbuilt
  cases hbuilt
  obtain ⟨m, hm, rfl⟩ := List.mem_map.mp hrow
  refine ⟨p, ?_, m, ?_, rfl⟩
  · exact (List.mem_zipIdx' hperiod).1
  · have hlength := List.Sublist.length_le (List.sublist_flatten_of_mem hpart)
    rw [List.length_map, List.length_range] at hlength
    exact Nat.lt_of_lt_of_le (List.mem_range.mp hm) hlength

/-- The two layouts of the contributions. -/
inductive ContributionLayout (periodCount : Nat) : Layout → Prop
  | unavailable : ContributionLayout periodCount ⟨"Contribution", ["value"], ["unavailable"]⟩
  | members (rowIds : List String) (h : ∀ rowId ∈ rowIds, ∃ p < periodCount,
        ∃ m < rowIds.length, rowId = toString p ++ ":" ++ toString m) :
      ContributionLayout periodCount ⟨"Contribution", keysOf contributionColumns, rowIds⟩

theorem layout_contributions {items : List Json} {table : CompositeTable}
    (hitems : (readAt dataset ["source_response", "periods"]).bind itemsOf = .ok items)
    (h : contributions py dataset = .ok table) :
    ContributionLayout items.length (layoutOf table) := by
  obtain ⟨value, hvalue, h⟩ := bind_eq_ok.mp h
  rw [hvalue] at hitems
  have hitems : itemsOf value = .ok items := hitems
  rw [hitems] at h
  have h : (contributionRows items >>= fun rows => _) = .ok table := h
  obtain ⟨rows, hrows, h⟩ := bind_eq_ok.mp h
  split at h
  · rw [layout_tableOf h]
    exact .unavailable
  · rw [layout_tableOf h]
    apply ContributionLayout.members
    intro rowId hrowId
    obtain ⟨row, hrow, rfl⟩ := List.mem_map.mp hrowId
    rw [List.length_map]
    exact mem_contributionRows hrows hrow

theorem layout_disclosures {table : CompositeTable} (h : disclosures py dataset = .ok table) :
    layoutOf table = ⟨"Disclosures", ["code", "text"], indices 5⟩ := by
  have hlayout := layout_tableOf h
  rw [List.map_map] at hlayout
  exact hlayout

theorem layout_uncapturedTables {tables : List CompositeTable}
    (h : uncapturedTables py dataset = .ok tables) : tables.map layoutOf =
      uncapturedLabels.map fun (name, _) =>
        ⟨name, ["metric", "value", "reason_code"], ["unavailable"]⟩ := by
  have htables := mapM_eq_ok.mp h
  rw [← List.forall₂_eq_eq_eq, List.forall₂_map_left_iff, List.forall₂_map_right_iff]
  exact htables.flip.imp fun table label hbuilt => layout_tableOf hbuilt

/-- The layouts of the primary tables. -/
inductive PrimaryLayout (methodCount : Nat) : List Layout → Prop
  | mk (monthly : Bool) (periodCount lineageCount : Nat) (contribution : Layout)
      (h : ContributionLayout periodCount contribution) :
      PrimaryLayout methodCount (
        [⟨"Summary", keysOf (summaryFields.map Prod.fst), ["summary"]⟩,
          ⟨if monthly then "MonthlyReturns" else "PeriodReturns", keysOf periodColumns,
            indices periodCount⟩,
          contribution, ⟨"Methods", ["field", "value"], indices methodCount⟩,
          ⟨"Lineage", ["field", "value"], indices lineageCount⟩,
          ⟨"Disclosures", ["code", "text"], indices 5⟩] ++
        uncapturedLabels.map fun (name, _) =>
          ⟨name, ["metric", "value", "reason_code"], ["unavailable"]⟩)

theorem layout_build {document : Fields} {d : Dataset}
    (h : buildCompositeTables py document = .ok d) : ∃ paths,
      methodPointers (.obj document) = .ok paths ∧ lookup d.facts "Methods" = some (ofTexts paths) ∧
      d.document = document ∧ PrimaryLayout paths.length (d.tables.map layoutOf) := by
  unfold buildCompositeTables at h
  obtain ⟨facts, hfacts, h⟩ := bind_eq_ok.mp h
  obtain ⟨summaryTable, hsummary, h⟩ := bind_eq_ok.mp h
  obtain ⟨periodTable, hperiods, h⟩ := bind_eq_ok.mp h
  obtain ⟨contributionTable, hcontributions, h⟩ := bind_eq_ok.mp h
  obtain ⟨paths, hpaths, h⟩ := bind_eq_ok.mp h
  obtain ⟨methodTable, hmethods, h⟩ := bind_eq_ok.mp h
  obtain ⟨lineagePaths, hlineagePaths, h⟩ := bind_eq_ok.mp h
  obtain ⟨lineageTable, hlineage, h⟩ := bind_eq_ok.mp h
  obtain ⟨disclosureTable, hdisclosures, h⟩ := bind_eq_ok.mp h
  obtain ⟨uncaptured, huncaptured, h⟩ := bind_eq_ok.mp h
  cases h
  obtain ⟨items, monthly, hitems, hperiods⟩ := layout_periods hperiods
  refine ⟨paths, hpaths, ?_, rfl, ?_⟩
  · rw [lookup_assign_of_ne (by decide), lookup_assign_self]
  · have hcontribution := layout_contributions hitems hcontributions
    have hlayouts : PrimaryLayout paths.length _ :=
      .mk monthly items.length lineagePaths.length _ hcontribution
    have hsummary : layoutOf summaryTable =
        ⟨"Summary", keysOf (summaryFields.map Prod.fst), ["summary"]⟩ := layout_tableOf hsummary
    simp only [List.map_append, List.map_cons, List.map_nil, hsummary, hperiods,
      layout_pointerTable hmethods, layout_pointerTable hlineage,
      layout_disclosures hdisclosures, layout_uncapturedTables huncaptured]
    exact hlayouts

/-- A layout put at the end, in the place of one of its name. -/
def placed (layouts : List Layout) : Option Layout → List Layout
  | none => layouts
  | some last => layouts.filter (·.tableId ≠ last.tableId) ++ [last]

theorem layout_moveToEnd (tables : List CompositeTable) (table : CompositeTable) :
    (moveToEnd tables table).map layoutOf = placed (tables.map layoutOf) (some (layoutOf table)) := by
  rw [moveToEnd, placed, List.map_append, List.map_cons, List.map_nil, List.filter_map]
  rfl

theorem lookup_withoutUncaptured {facts : Fields} (name : String) :
    lookup (withoutUncaptured facts name) "Methods" = lookup facts "Methods" := by
  induction facts with
  | nil => rfl
  | cons fact facts ih =>
      obtain ⟨key, value⟩ := fact
      unfold lookup withoutUncaptured at ih ⊢
      rw [List.map_cons, List.find?_cons, List.find?_cons]
      by_cases hkey : key = "Methods"
      · rw [hkey]
        rfl
      · have hother : (key == "Methods") = false := beq_eq_false_iff_ne.mpr hkey
        rw [hother]
        exact ih

def sinceInceptionLayout : Layout :=
  ⟨"SinceInception", (inceptionPointers none).map Prod.fst, ["since_inception"]⟩

theorem layout_inception {document : Fields} {d : Dataset}
    (h : projectInceptionTables py co document = .ok d) : ∃ base,
      buildCompositeTables py document = .ok base ∧ d.document = document ∧
      lookup d.facts "Methods" = lookup base.facts "Methods" ∧
      d.tables.map layoutOf = base.tables.map layoutOf ++ [sinceInceptionLayout] := by
  obtain ⟨base, hbase, h⟩ := bind_eq_ok.mp h
  obtain ⟨reason, -, h⟩ := bind_eq_ok.mp h
  obtain ⟨cumulative, -, h⟩ := bind_eq_ok.mp h
  obtain ⟨rows, hrows, h⟩ := bind_eq_ok.mp h
  obtain ⟨table, htable, h⟩ := bind_eq_ok.mp h
  cases h
  refine ⟨base, hbase, rfl, ?_, ?_⟩
  · exact lookup_assign_of_ne (by decide)
  · have hids := rowIds_buildRows hrows
    rw [List.map_append, List.map_cons, List.map_nil, checkedTable_eq htable]
    congr 2
    rw [layoutOf, sinceInceptionLayout, hids, List.map_map]
    rfl

theorem tableId_productTable {products : List Json} {kind tableId : String}
    {result : Option CompositeTable}
    (h : productTable dataset products kind tableId = .ok result) :
    ∀ table ∈ result, table.tableId = tableId := by
  obtain ⟨rows, -, h⟩ := bind_eq_ok.mp h
  split at h
  · cases h
    simp
  · obtain ⟨table, htable, h⟩ := bind_eq_ok.mp h
    cases h
    intro table' heq
    cases heq
    rw [checkedTable_eq htable]

theorem layout_products {d d' : Dataset} {products : List Json}
    (h : projectProductTables d products = .ok d') : ∃ calendar trailing : Option Layout,
      (∀ l ∈ calendar, l.tableId = "AnnualReturns") ∧
      (∀ l ∈ trailing, l.tableId = "TrailingReturns") ∧ d'.document = d.document ∧
      lookup d'.facts "Methods" = lookup d.facts "Methods" ∧
      d'.tables.map layoutOf = placed (placed (d.tables.map layoutOf) calendar) trailing := by
  obtain ⟨calendar, hcalendar, h⟩ := bind_eq_ok.mp h
  obtain ⟨trailing, htrailing, h⟩ := bind_eq_ok.mp h
  have hannual := tableId_productTable hcalendar
  have htrail := tableId_productTable htrailing
  refine ⟨calendar.map layoutOf, trailing.map layoutOf, ?_, ?_, ?_⟩
  · intro l hl
    obtain ⟨table, htable, rfl⟩ := Option.mem_map.mp hl
    exact hannual table htable
  · intro l hl
    obtain ⟨table, htable, rfl⟩ := Option.mem_map.mp hl
    exact htrail table htable
  · cases calendar with
    | none =>
        cases trailing with
        | none =>
            cases h
            exact ⟨rfl, rfl, rfl⟩
        | some table =>
            cases h
            exact ⟨rfl, rfl, layout_moveToEnd _ table⟩
    | some table =>
        cases trailing with
        | none =>
            cases h
            exact ⟨rfl, lookup_withoutUncaptured _, layout_moveToEnd _ table⟩
        | some table' =>
            cases h
            refine ⟨rfl, lookup_withoutUncaptured _, ?_⟩
            rw [layout_moveToEnd, layout_moveToEnd]
            rfl

/-- The layout of a membership history: each row is named by a membership and a decision. -/
inductive HistoryLayout (membershipCount : Nat) : Layout → Prop
  | mk (rowIds : List String) (h : ∀ rowId ∈ rowIds, ∃ i < membershipCount,
        ∃ ordinal < rowIds.length, rowId = "r" ++ toString i ++ ":d" ++ toString ordinal) :
      HistoryLayout membershipCount ⟨"MembershipHistory", historyFields, rowIds⟩

theorem layout_history {d d' : Dataset} {memberships : List Json}
    (h : projectMembershipHistory d memberships = .ok d') : ∃ history,
      HistoryLayout memberships.length history ∧ d'.document = d.document ∧
      lookup d'.facts "Methods" = lookup d.facts "Methods" ∧
      d'.tables.map layoutOf = placed (d.tables.map layoutOf) (some history) := by
  obtain ⟨plans, hplans, h⟩ := bind_eq_ok.mp h
  obtain ⟨rows, hrows, h⟩ := bind_eq_ok.mp h
  obtain ⟨table, htable, h⟩ := bind_eq_ok.mp h
  cases h
  have hlayout : layoutOf table = ⟨"MembershipHistory", historyFields, plans.map (·.rowId)⟩ := by
    rw [checkedTable_eq htable, layoutOf, rowIds_buildRows hrows]
    rfl
  refine ⟨layoutOf table, ?_, rfl, lookup_withoutUncaptured _, layout_moveToEnd _ table⟩
  rw [hlayout]
  apply HistoryLayout.mk
  intro rowId hrowId
  obtain ⟨plan, hplan, rfl⟩ := List.mem_map.mp hrowId
  obtain ⟨parts, hparts, hplans⟩ := bind_eq_ok.mp hplans
  cases hplans
  obtain ⟨part, hpart, hplan⟩ := List.mem_flatten.mp hplan
  obtain ⟨⟨capture, i⟩, hcapture, hbuilt⟩ := exists_of_mem_mapM hparts hpart
  obtain ⟨_, -, hbuilt⟩ := bind_eq_ok.mp hbuilt
  obtain ⟨decisions, -, hbuilt⟩ := bind_eq_ok.mp hbuilt
  cases hbuilt
  obtain ⟨ordinal, hordinal, rfl⟩ := List.mem_map.mp hplan
  refine ⟨i, (List.mem_zipIdx' hcapture).1, ordinal, ?_, rfl⟩
  have hlength := List.Sublist.length_le (List.sublist_flatten_of_mem hpart)
  rw [List.length_map, List.length_range] at hlength
  rw [List.length_map]
  exact Nat.lt_of_lt_of_le (List.mem_range.mp hordinal) hlength

/-- The layouts of a projection: the primary ones, with those of the attachments put in place. -/
structure Projected (document : Fields) (paths : List String)
    (layouts : List Layout) where
  primary : List Layout
  since : Bool
  calendar : Option Layout
  trailing : Option Layout
  history : Option Layout
  isPrimary : PrimaryLayout paths.length primary
  isCalendar : ∀ l ∈ calendar, l.tableId = "AnnualReturns"
  isTrailing : ∀ l ∈ trailing, l.tableId = "TrailingReturns"
  isHistory : ∀ l ∈ history, ∃ memberships, (subscript (.obj document) "supplied_memberships").bind
    itemsOf = .ok memberships ∧ HistoryLayout memberships.length l
  eq : layouts = placed (placed (placed
    (primary ++ if since then [sinceInceptionLayout] else []) calendar) trailing) history

theorem layout_projection {document : Fields} {d : Dataset}
    (h : projectSourceContext py co document = .ok d) : ∃ paths,
      methodPointers (.obj document) = .ok paths ∧ lookup d.facts "Methods" = some (ofTexts paths) ∧
      Nonempty (Projected document paths (d.tables.map layoutOf)) := by
  unfold projectSourceContext at h
  obtain ⟨since, -, h⟩ := bind_eq_ok.mp h
  obtain ⟨first, hfirst, h⟩ := bind_eq_ok.mp h
  obtain ⟨products, -, h⟩ := bind_eq_ok.mp h
  obtain ⟨second, hsecond, h⟩ := bind_eq_ok.mp h
  obtain ⟨value, hvalue, h⟩ := bind_eq_ok.mp h
  obtain ⟨memberships, hmemberships, h⟩ := bind_eq_ok.mp h
  have hbase : ∃ base, buildCompositeTables py document = .ok base ∧
      lookup first.facts "Methods" = lookup base.facts "Methods" ∧ first.tables.map layoutOf =
        base.tables.map layoutOf ++ if since.truthy then [sinceInceptionLayout] else [] := by
    split at hfirst
    · obtain ⟨base, hbase, -, hfacts, htables⟩ := layout_inception hfirst
      rename_i hsince
      exact ⟨base, hbase, hfacts, by rw [htables, if_pos hsince]⟩
    · rename_i hsince
      exact ⟨first, hfirst, rfl, by rw [if_neg hsince, List.append_nil]⟩
  obtain ⟨base, hbase, hfacts₁, htables₁⟩ := hbase
  have hproducts : ∃ calendar trailing : Option Layout,
      (∀ l ∈ calendar, l.tableId = "AnnualReturns") ∧
      (∀ l ∈ trailing, l.tableId = "TrailingReturns") ∧
      lookup second.facts "Methods" = lookup first.facts "Methods" ∧ second.tables.map layoutOf =
        placed (placed (first.tables.map layoutOf) calendar) trailing := by
    split at hsecond
    · cases hsecond
      exact ⟨none, none, by simp, by simp, rfl, rfl⟩
    · obtain ⟨calendar, trailing, hcalendar, htrailing, -, hfacts, htables⟩ :=
        layout_products hsecond
      exact ⟨calendar, trailing, hcalendar, htrailing, hfacts, htables⟩
  obtain ⟨calendar, trailing, hcalendar, htrailing, hfacts₂, htables₂⟩ := hproducts
  have hhistory : ∃ history : Option Layout,
      (∀ l ∈ history, HistoryLayout memberships.length l) ∧
      lookup d.facts "Methods" = lookup second.facts "Methods" ∧
      d.tables.map layoutOf = placed (second.tables.map layoutOf) history := by
    split at h
    · cases h
      exact ⟨none, by simp, rfl, rfl⟩
    · obtain ⟨history, hlayout, -, hfacts, htables⟩ := layout_history h
      refine ⟨some history, ?_, hfacts, htables⟩
      rintro l ⟨⟩
      exact hlayout
  obtain ⟨history, hhistory, hfacts₃, htables₃⟩ := hhistory
  obtain ⟨paths, hpaths, hmethods, -, hprimary⟩ := layout_build hbase
  refine ⟨paths, hpaths, ?_, ⟨⟨_, since.truthy, calendar, trailing, history, hprimary, hcalendar,
    htrailing, ?_, ?_⟩⟩⟩
  · rw [hfacts₃, hfacts₂, hfacts₁, hmethods]
  · intro l hl
    refine ⟨memberships, ?_, hhistory l hl⟩
    rw [hvalue]
    exact hmemberships
  · rw [htables₃, htables₂, htables₁]

end Layout

section Order

/-- The first mark ends what has no mark. -/
theorem append_cons_inj {c : Char} {xs ys as bs : List Char} (hx : c ∉ xs) (hy : c ∉ ys)
    (h : xs ++ c :: as = ys ++ c :: bs) : xs = ys ∧ as = bs := by
  have htake : ∀ {zs cs : List Char}, c ∉ zs → (zs ++ c :: cs).takeWhile (· ≠ c) = zs := by
    intro zs cs hz
    rw [List.takeWhile_append_of_pos]
    · simp
    · intro z hzmem
      exact decide_eq_true (by rintro rfl; exact hz hzmem)
  have hfirst : xs = ys := by rw [← htake hx, h, htake hy]
  rw [hfirst] at h
  exact ⟨hfirst, (List.cons.inj (List.append_cancel_left h)).2⟩

theorem escapeKey_inj {a b : String} (h : escapeKey a = escapeKey b) : a = b := by
  have hread := unescapeKey_escapeKey a
  rw [h, unescapeKey_escapeKey] at hread
  exact hread.symm

/-- The pointer to a method of a window. -/
def methodPointer (index : Nat) (name : String) : String :=
  "/selection/windows/" ++ toString index ++ "/method_binding/" ++ escapeKey name

theorem toList_append_append (a b c d : String) :
    (a ++ b ++ c ++ d).toList = a.toList ++ (b.toList ++ (c.toList ++ d.toList)) := by
  simp only [String.toList_append, List.append_assoc]

theorem toList_methodPointer (index : Nat) (name : String) : (methodPointer index name).toList =
    "/selection/windows/".toList ++ ((toString index).toList ++
      '/' :: ("method_binding/".toList ++ (escapeKey name).toList)) := by
  have hmark : "/method_binding/".toList = '/' :: "method_binding/".toList := by decide
  have hparts := toList_append_append "/selection/windows/" (toString index) "/method_binding/"
    (escapeKey name)
  rw [hmark, List.cons_append] at hparts
  exact hparts

theorem methodPointer_inj {i j : Nat} {a b : String} (h : methodPointer i a = methodPointer j b) :
    i = j ∧ a = b := by
  have hchars := congrArg String.toList h
  rw [toList_methodPointer, toList_methodPointer] at hchars
  obtain ⟨hindex, hname⟩ := append_cons_inj (slash_not_mem_index i) (slash_not_mem_index j)
    (List.append_cancel_left hchars)
  have hi := indexOf_toString i
  rw [String.ext hindex, indexOf_toString] at hi
  exact ⟨(Option.some.inj hi).symm, escapeKey_inj (String.ext (List.append_cancel_left hname))⟩

theorem methodPointer_ne {index : Nat} {name text : String}
    (h : text.toList.take 19 ≠ "/selection/windows/".toList) : methodPointer index name ≠ text := by
  rintro rfl
  rw [toList_methodPointer] at h
  exact h (List.take_left' (by decide))

/-- The windows bind their methods by dictionaries. -/
def BindsMethods (document : Json) : Prop :=
  ∀ windows, (readAt document ["selection", "windows"]).bind itemsOf = .ok windows →
    ∀ window ∈ windows, ∃ fields, subscript window "method_binding" = .ok (.obj fields)

theorem wellFormed_subscript {value found : Json} {key : String}
    (hwf : wellFormed value = true) (h : subscript value key = .ok found) :
    wellFormed found = true := by
  cases value with
  | obj fields =>
      obtain ⟨hdistinct, hall⟩ := wellFormed_obj.mp hwf
      simp only [subscript] at h
      split at h
      · rename_i value hvalue
        cases h
        exact hall _ ((lookup_eq_some_iff hdistinct).mp hvalue)
      · cases h
  | null | bool _ | int _ | float _ | str _ | arr _ => cases h

theorem wellFormed_itemsOf {value : Json} {items : List Json} (hwf : wellFormed value = true)
    (h : itemsOf value = .ok items) : ∀ item ∈ items, wellFormed item = true := by
  cases value with
  | arr _ =>
      cases h
      exact wellFormed_arr.mp hwf
  | obj fields =>
      cases h
      intro item hitem
      obtain ⟨field, -, rfl⟩ := List.mem_map.mp hitem
      rfl
  | str text =>
      cases h
      intro item hitem
      obtain ⟨c, -, rfl⟩ := List.mem_map.mp hitem
      rfl
  | null | bool _ | int _ | float _ => cases h

theorem nodup_boundNames {window : Json} {fields : Fields} {names : List String}
    (hwf : wellFormed window = true) (hfields : subscript window "method_binding" = .ok (.obj fields))
    (h : (do (← itemsOf (← subscript window "method_binding")).mapM textOf) = .ok names) :
    (sortedTexts names).Nodup := by
  rw [hfields] at h
  have hdistinct := (wellFormed_obj.mp (wellFormed_subscript hwf hfields)).1
  have hnames : names = fields.map Prod.fst := by
    have htexts : (fields.map fun f => Json.str f.1).mapM textOf = .ok names := h
    have hpairs := mapM_eq_ok.mp htexts
    rw [List.forall₂_map_left_iff] at hpairs
    rw [← List.forall₂_eq_eq_eq, List.forall₂_map_right_iff]
    exact hpairs.flip.imp fun field name heq => (Except.ok.inj heq).symm
  rw [hnames]
  exact (List.perm_insertionSort _ _).nodup_iff.mpr hdistinct

theorem nodup_methodPointers {document : Json} {paths : List String}
    (hwf : wellFormed document = true) (hbinds : BindsMethods document)
    (h : methodPointers document = .ok paths) : paths.Nodup := by
  obtain ⟨value, hvalue, h⟩ := bind_eq_ok.mp h
  obtain ⟨windows, hwindows, h⟩ := bind_eq_ok.mp h
  obtain ⟨bound, hbound, h⟩ := bind_eq_ok.mp h
  cases h
  have hread : (readAt document ["selection", "windows"]).bind itemsOf = .ok windows := by
    rw [hvalue]
    exact hwindows
  have hwfValue : wellFormed value = true := by
    obtain ⟨selection, hselection, hvalue⟩ := bind_eq_ok.mp hvalue
    obtain ⟨_, hvalue, hlast⟩ := bind_eq_ok.mp hvalue
    cases hlast
    exact wellFormed_subscript (wellFormed_subscript hwf hselection) hvalue
  -- each part of the paths has the index of its window
  have hparts : ∀ index (hindex : index < bound.length), ∃ names : List String, names.Nodup ∧
      bound[index] = names.map (methodPointer index) := by
    obtain ⟨hlength, hpairs⟩ := List.forall₂_iff_get.mp (mapM_eq_ok.mp hbound)
    intro index hindex
    have hpart := hpairs index (by rwa [hlength]) hindex
    simp only [List.get_eq_getElem, List.getElem_zipIdx, Nat.zero_add] at hpart
    have hlt : index < windows.length := by
      rw [List.length_zipIdx] at hlength
      omega
    have hmem : windows[index] ∈ windows := List.getElem_mem hlt
    obtain ⟨fields, hfields⟩ := hbinds windows hread _ hmem
    obtain ⟨binding, hbinding, hpart⟩ := bind_eq_ok.mp hpart
    obtain ⟨items, hitems, hpart⟩ := bind_eq_ok.mp hpart
    obtain ⟨names, hnames, hpart⟩ := bind_eq_ok.mp hpart
    refine ⟨sortedTexts names, ?_, (Except.ok.inj hpart).symm⟩
    apply nodup_boundNames (wellFormed_itemsOf hwfValue hwindows _ hmem) hfields
    exact bind_eq_ok.mpr ⟨binding, hbinding, bind_eq_ok.mpr ⟨items, hitems, hnames⟩⟩
  have hflat : bound.flatten.Nodup := by
    rw [List.nodup_flatten]
    constructor
    · intro part hpart
      obtain ⟨index, hindex, rfl⟩ := List.getElem_of_mem hpart
      obtain ⟨names, hnames, heq⟩ := hparts index hindex
      rw [heq]
      exact hnames.map fun a b h => (methodPointer_inj h).2
    · apply List.pairwise_iff_getElem.mpr
      intro i j hi hj hlt
      obtain ⟨names, -, heq⟩ := hparts i hi
      obtain ⟨names', -, heq'⟩ := hparts j hj
      rw [heq, heq', List.disjoint_left]
      intro path hpath hpath'
      obtain ⟨a, -, rfl⟩ := List.mem_map.mp hpath
      obtain ⟨b, -, h⟩ := List.mem_map.mp hpath'
      exact Nat.ne_of_gt hlt (methodPointer_inj h).1
  have hmethod : ∀ path ∈ bound.flatten, ∃ index name, path = methodPointer index name := by
    intro path hpath
    obtain ⟨part, hpart, hpath⟩ := List.mem_flatten.mp hpath
    obtain ⟨index, hindex, rfl⟩ := List.getElem_of_mem hpart
    obtain ⟨names, -, heq⟩ := hparts index hindex
    rw [heq] at hpath
    obtain ⟨name, -, rfl⟩ := List.mem_map.mp hpath
    exact ⟨index, name, rfl⟩
  apply List.Nodup.append (by decide) hflat
  apply List.disjoint_left.mpr
  intro path hfixed hpath
  obtain ⟨index, name, rfl⟩ := hmethod path hpath
  rcases List.mem_cons.mp hfixed with h | h
  · exact methodPointer_ne (by decide) h
  · exact methodPointer_ne (by decide) (List.mem_singleton.mp h)

theorem layoutOf_sameTable {a b : CompositeTable} (h : sameTable a b = true) :
    layoutOf a = layoutOf b := by
  simp only [sameTable, Bool.and_eq_true, beq_iff_eq, decide_eq_true_eq, List.all_eq_true] at h
  obtain ⟨⟨⟨⟨htable, -⟩, hcolumns⟩, hlength⟩, hrows⟩ := h
  have hids : a.rows.map (·.rowId) = b.rows.map (·.rowId) := by
    apply List.ext_getElem
    · rw [List.length_map, List.length_map, hlength]
    · intro index ha hb
      rw [List.length_map] at ha hb
      have hpair : (a.rows[index], b.rows[index]) ∈ a.rows.zip b.rows := by
        rw [← List.getElem_zip (h := by rw [List.length_zip]; omega)]
        exact List.getElem_mem _
      have hsame := hrows _ hpair
      simp only [sameRow, Bool.and_eq_true, beq_iff_eq] at hsame
      rw [List.getElem_map, List.getElem_map, hsame.1]
  rw [layoutOf, layoutOf, htable, hcolumns, hids]

theorem layoutOf_sameTables {as bs : List CompositeTable} (h : sameTables as bs = true) :
    as.map layoutOf = bs.map layoutOf := by
  simp only [sameTables, Bool.and_eq_true, beq_iff_eq, List.all_eq_true] at h
  obtain ⟨hlength, htables⟩ := h
  apply List.ext_getElem
  · rw [List.length_map, List.length_map, hlength]
  · intro index ha hb
    rw [List.length_map] at ha hb
    have hpair : (as[index], bs[index]) ∈ as.zip bs := by
      rw [← List.getElem_zip (h := by rw [List.length_zip]; omega)]
      exact List.getElem_mem _
    rw [List.getElem_map, List.getElem_map]
    exact layoutOf_sameTable (htables _ hpair)

theorem layoutOf_replaceTable {new table : CompositeTable} {tables : List CompositeTable}
    (hfind : tables.find? (·.tableId = new.tableId) = some table)
    (hlayout : layoutOf new = layoutOf table) :
    (replaceTable new tables).map layoutOf = tables.map layoutOf := by
  induction tables with
  | nil => rfl
  | cons first tables ih =>
      rw [List.find?_cons] at hfind
      rw [replaceTable]
      by_cases hname : first.tableId = new.tableId
      · rw [decide_eq_true hname] at hfind
        cases hfind
        rw [if_pos hname, List.map_cons, List.map_cons, hlayout]
      · rw [decide_eq_false hname] at hfind
        rw [if_neg hname, List.map_cons, List.map_cons, ih hfind]

theorem movedRow_eq_ok {rows : List CompositeRow} {oldIndex index : Nat} {pointer : String}
    {moved : CompositeRow} (h : movedRow rows oldIndex index pointer = .ok moved) :
    moved.rowId = toString index ∧ ∃ row, rows[oldIndex]? = some row ∧ row.rowId = toString oldIndex := by
  unfold movedRow at h
  split at h
  · cases h
  · rename_i row hrow
    split at h
    · cases h
    · split at h
      · cases h
      · rename_i hnot
        cases h
        push Not at hnot
        exact ⟨rfl, row, hrow, hnot.1⟩

theorem texts_of_ofTexts (texts : List String) : (texts.map Json.str).mapM textOf = .ok texts := by
  rw [mapM_eq_ok, List.forall₂_map_left_iff]
  exact List.forall₂_same.mpr fun text _ => rfl

/-- Rows that can be moved are named by their places. -/
theorem rowIds_moved {rows moved : List CompositeRow} {retained required : List String}
    (hrequired : required.Nodup) (hperm : retained.Perm required)
    (hlength : rows.length = retained.length)
    (h : required.zipIdx.mapM (fun (pointer, index) =>
      movedRow rows (retained.idxOf pointer) index pointer) = .ok moved) :
    moved.map (·.rowId) = indices rows.length ∧ rows.map (·.rowId) = indices rows.length := by
  obtain ⟨hcount, hpairs⟩ := List.forall₂_iff_get.mp (mapM_eq_ok.mp h)
  rw [List.length_zipIdx, ← hperm.length_eq, ← hlength] at hcount
  have hsize : required.length = rows.length := by rw [← hperm.length_eq, hlength]
  have hmoved : ∀ index (hnew : index < moved.length) (hpath : index < required.length),
      moved[index].rowId = toString index ∧
      ∃ row, rows[retained.idxOf required[index]]? = some row ∧
        row.rowId = toString (retained.idxOf required[index]) := by
    intro index hnew hpath
    have hpair := hpairs index (by rw [List.length_zipIdx]; omega) hnew
    simp only [List.get_eq_getElem, List.getElem_zipIdx, Nat.zero_add] at hpair
    exact movedRow_eq_ok hpair
  constructor
  · apply List.ext_getElem
    · simp [indices, hcount]
    · intro index hindex _
      rw [List.length_map, ← hcount] at hindex
      simp [indices, (hmoved index (by omega) (by omega)).1]
  · apply List.ext_getElem
    · simp [indices]
    · intro index hindex _
      rw [List.length_map] at hindex
      -- the path that was retained at this place is required somewhere
      have hretained : index < retained.length := hlength ▸ hindex
      obtain ⟨place, hplace, heq⟩ :=
        List.getElem_of_mem (hperm.mem_iff.mp (List.getElem_mem hretained))
      obtain ⟨-, row, hrow, hid⟩ := hmoved place (by omega) hplace
      rw [heq, List.Nodup.idxOf_getElem (hperm.nodup_iff.mpr hrequired)] at hrow hid
      rw [List.getElem?_eq_getElem hindex] at hrow
      cases hrow
      simp [indices, hid]

theorem layout_normalize {actual expected normalized : Dataset} {paths : List String}
    (hpaths : paths.Nodup) (hmethods : lookup expected.facts "Methods" = some (ofTexts paths))
    (h : normalizeMethodOrder actual expected = .ok normalized) :
    normalized.tables.map layoutOf = actual.tables.map layoutOf := by
  obtain ⟨value, hvalue, h⟩ := bind_eq_ok.mp h
  simp only [subscript, hmethods] at hvalue
  cases hvalue
  obtain ⟨items, hitems, h⟩ := bind_eq_ok.mp h
  cases hitems
  obtain ⟨required, hrequired, h⟩ := bind_eq_ok.mp h
  cases (texts_of_ofTexts paths).symm.trans hrequired
  split at h
  · cases h
    rfl
  · obtain ⟨retained, -, h⟩ := bind_eq_ok.mp h
    split at h
    · cases h
    · rename_i hsorted
      split at h
      · rename_i table expectedTable htable _
        split at h
        · cases h
        · rename_i hlength
          obtain ⟨rows, hrows, h⟩ := bind_eq_ok.mp h
          split at h
          · cases h
            have hperm : retained.Perm paths := by
              have hretained : (sortedTexts retained).Perm retained := List.perm_insertionSort _ _
              rw [not_not.mp hsorted] at hretained
              exact hretained.symm.trans (List.perm_insertionSort _ _)
            obtain ⟨hnew, hold⟩ := rowIds_moved hpaths hperm (not_not.mp hlength) hrows
            have hname : table.tableId = "Methods" := by
              simpa using List.find?_some htable
            apply layoutOf_replaceTable
            · rw [← hname] at htable
              exact htable
            · rw [layoutOf, layoutOf, hnew, hold]
          · cases h
      · cases h

theorem layout_requireCompleteProjection {sameFacts : Json → Json → Bool} {actual expected : Dataset}
    {paths : List String} (hpaths : paths.Nodup)
    (hmethods : lookup expected.facts "Methods" = some (ofTexts paths))
    (h : requireCompleteProjection sameFacts actual expected = .ok ()) :
    actual.tables.map layoutOf = expected.tables.map layoutOf := by
  obtain ⟨normalized, hnormalized, h⟩ := bind_eq_ok.mp h
  rw [← layout_normalize hpaths hmethods hnormalized]
  apply layoutOf_sameTables
  by_contra hdiffer
  rw [Bool.not_eq_true] at hdiffer
  simp only [hdiffer] at h
  split at h
  · cases h
  · cases h

theorem sameTables_self (tables : List CompositeTable) : sameTables tables tables = true := by
  unfold sameTables
  rw [beq_self_eq_true, Bool.true_and, List.zip_eq_zipWith, List.zipWith_self, List.all_map,
    List.all_eq_true]
  intro table _
  have hrows : (table.rows.zip table.rows).all (fun (x, y) => sameRow x y) = true := by
    rw [List.zip_eq_zipWith, List.zipWith_self, List.all_map, List.all_eq_true]
    intro row _
    simp [sameRow]
  simp [sameTable, hrows]

theorem requireCompleteProjection_self {py : Runtime} {co : Coercions} {d : Dataset}
    {document : Fields} {sameFacts : Json → Json → Bool}
    (hsame : sameFacts (.obj d.facts) (.obj d.facts) = true)
    (h : projectSourceContext py co document = .ok d) :
    requireCompleteProjection sameFacts d d = .ok () := by
  obtain ⟨paths, -, hmethods, -⟩ := layout_projection h
  have hnormal : normalizeMethodOrder d d = .ok d := by
    unfold normalizeMethodOrder
    have hpaths : subscript (.obj d.facts) "Methods" = .ok (ofTexts paths) := by
      rw [subscript, hmethods]
    refine bind_eq_ok.mpr ⟨_, hpaths, bind_eq_ok.mpr ⟨_, rfl, ?_⟩⟩
    refine bind_eq_ok.mpr ⟨paths, texts_of_ofTexts paths, ?_⟩
    rw [hmethods, Option.getD_some, if_pos rfl]
  refine bind_eq_ok.mpr ⟨d, hnormal, ?_⟩
  rw [hsame, sameTables_self]
  rfl

end Order

section Samples

/-- A text under each of some names. -/
def named (names : List String) : Fields := names.map fun name => (name, .str name)

def sampleMemberships : List Json :=
  [.obj [("source_response", .obj (named (historyFields.take 4) ++
    [("decisions", .arr [.obj (named (historyFields.drop 4))])]))]]

/-- A document with one period, one membership decision, and a window of some methods. -/
def sampleDocument (binding : Fields) : Fields :=
  [("qualification", .str "EXPLICIT_RETAINED_CALCULATED_REPLAY"),
    ("publication_state", .str "NOT_ATTESTED"), ("source_response_digest", .str "sha256:0"),
    ("selection", .obj (named ["composite_id", "period_end", "return_view", "reporting_currency",
      "methodology", "engine_version", "calculation_id", "calculation_fingerprint"] ++
      [("period_start", .str "2024-01-15"), ("windows", .arr [.obj (named ["materialization_id",
        "definition_content_hash", "membership_content_hash", "attestation_content_hash",
        "source_cut_id", "retained_receipt_fingerprint"] ++
        [("period_start", .str "2024-01-15"), ("method_binding", .obj binding)])])])),
    ("source_response", .obj [("status", .str "READY"), ("cumulative_return", .str "0.01"),
      ("periods", .arr [.obj (assign (named (keysOf periodColumns)) "status" (.str "READY") ++
        [("member_contributions", .arr [])])])]),
    ("source_context", .obj [("since_inception", .bool true)]),
    ("definition", .obj [("source_response", .obj [("inception_date", .str "2024-01-15")]),
      ("pin", .obj (named ["definition_version", "content_hash"])),
      ("source_response_digest", .str "sha256:1")]),
    ("supplied_memberships", .arr sampleMemberships)]

def sampleBindings : List Fields := [[], [("weighting", .str "beginning-asset")]]

/-- The name of a table that is built and valid. -/
def validName (x : Except CaptureError CompositeTable) : Except CaptureError String := do
  let table ← x
  validateTable table
  return table.tableId

theorem exists_of_validName {x : Except CaptureError CompositeTable} {name : String}
    (h : validName x = .ok name) :
    ∃ table, x = .ok table ∧ validateTable table = .ok () ∧ table.tableId = name := by
  obtain ⟨table, htable, h⟩ := bind_eq_ok.mp h
  obtain ⟨⟨⟩, hvalid, h⟩ := bind_eq_ok.mp h
  cases h
  exact ⟨table, htable, hvalid, rfl⟩

variable (binding : Fields)

/-- The facts of the samples, as their tables are built. -/
def sampleFacts : Fields :=
  (reportFacts (.obj (sampleDocument []))).toOption.getD []

def sampleMethods : List String :=
  (methodPointers (.obj (sampleDocument binding))).toOption.getD []

def sampleLineage : List String :=
  (lineagePointers (.obj (sampleDocument []))).toOption.getD []

def methodFacts : Fields :=
  assign sampleFacts "Methods" (ofTexts (sampleMethods binding))

def lineageFacts : Fields :=
  assign (methodFacts binding) "Lineage" (ofTexts sampleLineage)

def sinceFacts : Fields := assign (lineageFacts binding) "since_inception" (.obj
  [("availability", .str "AVAILABLE"), ("reason", .str "NONE"), ("value", .str "0.01"),
    ("coverage_convention", .str "INCLUSIVE_SOURCE_INCEPTION")])

def sampleJson (facts : Fields) : Json :=
  Dataset.json ⟨sampleDocument binding, facts, []⟩

theorem validName_summary :
    validName (summary .verbatim (sampleJson binding sampleFacts)) = .ok "Summary" := by
  rfl

theorem validName_periods :
    validName (periods .verbatim (sampleJson binding sampleFacts)) = .ok "PeriodReturns" := by
  rfl

theorem validName_contributions :
    validName (contributions .verbatim (sampleJson binding sampleFacts)) = .ok "Contribution" := by
  rfl

theorem methodPointers_sample : ∀ binding ∈ sampleBindings,
    methodPointers (.obj (sampleDocument binding)) = .ok (sampleMethods binding) := by
  rw [sampleBindings, List.forall_mem_cons, List.forall_mem_singleton]
  exact ⟨rfl, rfl⟩

theorem validName_methods : ∀ binding ∈ sampleBindings,
    validName (pointerTable .verbatim (sampleJson binding (methodFacts binding)) "Methods"
      (sampleMethods binding)) = .ok "Methods" := by
  rw [sampleBindings, List.forall_mem_cons, List.forall_mem_singleton]
  exact ⟨rfl, rfl⟩

theorem validName_lineage : validName (pointerTable .verbatim
    (sampleJson binding (lineageFacts binding)) "Lineage" sampleLineage) = .ok "Lineage" := by
  rfl

theorem validName_disclosures :
    validName (disclosures .verbatim (sampleJson binding (lineageFacts binding))) =
      .ok "Disclosures" := by
  rfl

theorem validNames_uncaptured :
    (uncapturedTables .verbatim (sampleJson binding (lineageFacts binding)) >>= fun tables =>
      tables.mapM fun table => validName (.ok table)) = .ok (uncapturedLabels.map Prod.fst) := by
  rfl

theorem validName_inception : validName (do
    let rows ← buildRows (inceptionCell .verbatim (sampleJson binding (sinceFacts binding)) none)
      [⟨"since_inception", inceptionPointers none⟩]
    checkedTable ⟨"SinceInception", "Since inception — calculated replay",
      (inceptionPointers none).map fun (key, _) => (inceptionColumn key).column .null, rows⟩) =
    .ok "SinceInception" := by
  rfl

theorem validName_history : validName (do
    let rows ← buildRows (historyCell (sampleJson binding (sinceFacts binding)))
      (← historyRows sampleMemberships)
    checkedTable ⟨"MembershipHistory", "Supplied membership history",
      historyFields.map fun field => (⟨field, capitalized field, textPolicy⟩ : ColumnPlan).column
        .null, rows⟩) = .ok "MembershipHistory" := by
  rfl

variable {binding}

theorem wellFormed_sample : ∀ binding ∈ sampleBindings,
    wellFormed (.obj (sampleDocument binding)) = true := by
  decide +kernel

theorem build_sample (h : binding ∈ sampleBindings) : ∃ tables,
    buildCompositeTables .verbatim (sampleDocument binding) =
      .ok ⟨sampleDocument binding, lineageFacts binding, tables⟩ ∧
    tables.map (·.tableId) = ["Summary", "PeriodReturns", "Contribution", "Methods", "Lineage",
      "Disclosures"] ++ uncapturedLabels.map Prod.fst ∧
    ∀ table ∈ tables, validateTable table = .ok () := by
  obtain ⟨summaryTable, hsummary, hsummaryValid, hsummaryId⟩ :=
    exists_of_validName (validName_summary binding)
  obtain ⟨periodTable, hperiods, hperiodValid, hperiodId⟩ :=
    exists_of_validName (validName_periods binding)
  obtain ⟨contributionTable, hcontributions, hcontributionValid, hcontributionId⟩ :=
    exists_of_validName (validName_contributions binding)
  obtain ⟨methodTable, hmethods, hmethodValid, hmethodId⟩ :=
    exists_of_validName (validName_methods binding h)
  obtain ⟨lineageTable, hlineage, hlineageValid, hlineageId⟩ :=
    exists_of_validName (validName_lineage binding)
  obtain ⟨disclosureTable, hdisclosures, hdisclosureValid, hdisclosureId⟩ :=
    exists_of_validName (validName_disclosures binding)
  obtain ⟨uncaptured, huncaptured, hnames⟩ := bind_eq_ok.mp (validNames_uncaptured binding)
  have hids : (uncapturedLabels.map Prod.fst).map id = uncaptured.map (·.tableId) := by
    apply map_eq_of_mapM _ hnames
    intro table name hname
    obtain ⟨_, ⟨⟩, -, hname⟩ := exists_of_validName hname
    exact hname.symm
  have hvalid : ∀ table ∈ uncaptured, validateTable table = .ok () := by
    intro table htable
    obtain ⟨name, -, hname⟩ := converts_of_mapM hnames htable
    obtain ⟨_, ⟨⟩, hvalid, -⟩ := exists_of_validName hname
    exact hvalid
  refine ⟨[summaryTable, periodTable, contributionTable, methodTable, lineageTable,
    disclosureTable] ++ uncaptured, ?_, ?_, ?_⟩
  · unfold buildCompositeTables
    refine bind_eq_ok.mpr ⟨sampleFacts, rfl, ?_⟩
    refine bind_eq_ok.mpr ⟨_, hsummary, ?_⟩
    refine bind_eq_ok.mpr ⟨_, hperiods, ?_⟩
    refine bind_eq_ok.mpr ⟨_, hcontributions, ?_⟩
    refine bind_eq_ok.mpr ⟨_, methodPointers_sample binding h, ?_⟩
    refine bind_eq_ok.mpr ⟨_, hmethods, ?_⟩
    refine bind_eq_ok.mpr ⟨sampleLineage, rfl, ?_⟩
    refine bind_eq_ok.mpr ⟨_, hlineage, ?_⟩
    refine bind_eq_ok.mpr ⟨_, hdisclosures, ?_⟩
    exact bind_eq_ok.mpr ⟨_, huncaptured, rfl⟩
  · rw [List.map_append, ← hids, List.map_id]
    simp only [List.map_cons, List.map_nil, hsummaryId, hperiodId, hcontributionId, hmethodId,
      hlineageId, hdisclosureId]
  · simp only [List.cons_append, List.nil_append, List.forall_mem_cons]
    exact ⟨hsummaryValid, hperiodValid, hcontributionValid, hmethodValid, hlineageValid,
      hdisclosureValid, hvalid⟩

theorem project_sample (h : binding ∈ sampleBindings) : ∃ d,
    projectSourceContext .verbatim .standard (sampleDocument binding) = .ok d ∧
    d.document = sampleDocument binding ∧
    d.facts = withoutUncaptured (sinceFacts binding) "MembershipHistory" ∧
    d.tables.map (·.tableId) = ["Summary", "PeriodReturns", "Contribution", "Methods", "Lineage",
      "Disclosures", "AnnualReturns", "Risk", "Members", "EligibilityReasons", "Attribution",
      "Restatement", "SinceInception", "MembershipHistory"] ∧
    ∀ table ∈ d.tables, validateTable table = .ok () := by
  obtain ⟨tables, hbuilt, hids, hvalid⟩ := build_sample h
  obtain ⟨since, hsince, hsinceValid, hsinceId⟩ := exists_of_validName (validName_inception binding)
  obtain ⟨sinceRows, hsinceRows, hsince⟩ := bind_eq_ok.mp hsince
  obtain ⟨history, hhistory, hhistoryValid, hhistoryId⟩ :=
    exists_of_validName (validName_history binding)
  obtain ⟨plans, hplans, hhistory⟩ := bind_eq_ok.mp hhistory
  obtain ⟨historyRows, hhistoryRows, hhistory⟩ := bind_eq_ok.mp hhistory
  have hinception : projectInceptionTables .verbatim .standard (sampleDocument binding) =
      .ok ⟨sampleDocument binding, sinceFacts binding, tables ++ [since]⟩ := by
    refine bind_eq_ok.mpr ⟨_, hbuilt, ?_⟩
    refine bind_eq_ok.mpr ⟨none, rfl, ?_⟩
    refine bind_eq_ok.mpr ⟨.str "0.01", rfl, ?_⟩
    refine bind_eq_ok.mpr ⟨sinceRows, hsinceRows, ?_⟩
    exact bind_eq_ok.mpr ⟨since, hsince, rfl⟩
  refine ⟨⟨sampleDocument binding, withoutUncaptured (sinceFacts binding) "MembershipHistory",
    moveToEnd (tables ++ [since]) history⟩, ?_, rfl, rfl, ?_, ?_⟩
  · refine bind_eq_ok.mpr ⟨.bool true, rfl, ?_⟩
    refine bind_eq_ok.mpr ⟨_, hinception, ?_⟩
    refine bind_eq_ok.mpr ⟨[], rfl, ?_⟩
    refine bind_eq_ok.mpr ⟨_, rfl, ?_⟩
    refine bind_eq_ok.mpr ⟨.arr sampleMemberships, rfl, ?_⟩
    refine bind_eq_ok.mpr ⟨sampleMemberships, rfl, ?_⟩
    refine bind_eq_ok.mpr ⟨plans, hplans, ?_⟩
    refine bind_eq_ok.mpr ⟨historyRows, hhistoryRows, ?_⟩
    exact bind_eq_ok.mpr ⟨history, hhistory, rfl⟩
  · have hkept : ((tables ++ [since]).filter fun table => table.tableId ≠ history.tableId).map
        (·.tableId) = ((tables ++ [since]).map (·.tableId)).filter (· ≠ history.tableId) := by
      rw [List.filter_map]
      rfl
    rw [moveToEnd, List.map_append, hkept, List.map_append, hids, List.map_singleton,
      List.map_singleton, hsinceId, hhistoryId]
    decide
  · intro table htable
    rcases List.mem_append.mp htable with htable | htable
    · rcases List.mem_append.mp (List.mem_of_mem_filter htable) with htable | htable
      · exact hvalid table htable
      · exact List.mem_singleton.mp htable ▸ hsinceValid
    · exact List.mem_singleton.mp htable ▸ hhistoryValid

end Samples

end LotusReport.Composite.SourceContext
