import LotusReport.Composite.Eligibility.Admission
import LotusReport.Composite.Tables.Contract
import Mathlib.Data.List.Infix

/-!
# The tables of an eligibility report

The source months of a report are laid out in eight tables. Every cell names
the place that its value was read from; the places are put together from the
indices of months, portfolios, rules and reasons.
-/

namespace LotusReport.Composite.Eligibility

open Encoding

section Columns

inductive EligibilityTableId where
  | summary
  | members
  | assessments
  | reasons
  | history
  | methods
  | lineage
  | disclosures
deriving DecidableEq, Repr

/-- The tables in their order. -/
def tableIds : List EligibilityTableId :=
  [.summary, .members, .assessments, .reasons, .history, .methods, .lineage, .disclosures]

/-- `TABLE_FIELDS`. -/
def tableFields : EligibilityTableId → List String
  | .summary =>
      ["month", "evidence_kind", "expected_count", "observed_count", "included_count",
        "excluded_count", "pending_review_count", "population_verification", "official_activation"]
  | .members => ["month", "portfolio_id", "status", "observations_present"]
  | .assessments =>
      ["month", "portfolio_id", "rule", "outcome", "numerator", "denominator", "ratio",
        "gross_inflow", "gross_outflow", "admitted_flow_count"]
  | .reasons => ["month", "portfolio_id", "rule", "kind", "reason_code"]
  | .history =>
      ["month", "membership_revision", "portfolio_id", "effective_from", "effective_to", "status",
        "reason_code", "discretionary", "approval_ref", "source_snapshot_id",
        "supersedes_membership_revision", "affected_from", "affected_to"]
  | .methods =>
      ["month", "profile_kind", "flow_threshold", "cash_threshold", "flow_measure",
        "flow_breach_operator", "cash_breach_operator", "reentry", "content_hash"]
  | .lineage => ["month", "evidence_kind", "product", "revision", "content_hash", "response_digest"]
  | .disclosures => ["code", "text"]

/-- The values that a column holds. -/
inductive FieldType where
  | text
  | count
  | money
  | decimalFactor
  | boolean
deriving DecidableEq, Repr

inductive FieldUnit where
  | text
  | portfolioCount
  | eventCount
  | currencyUnits
  | decimalRatio
  | boolean
deriving DecidableEq, Repr

/-- A column; it is displayed in its own unit, rounded half up and in the scale one. -/
structure EligibilityColumn where
  columnId : String
  label : String
  valueType : FieldType
  unit : FieldUnit
  displayDecimalPlaces : Option Nat
  currency : Option Json
deriving DecidableEq

/-- `COUNTS`. -/
def countFields : List String :=
  ["expected_count", "observed_count", "included_count", "excluded_count", "pending_review_count"]

/-- `MONEY`. -/
def moneyFields : List String := ["numerator", "denominator", "gross_inflow", "gross_outflow"]

/-- `RATIOS`. -/
def ratioFields : List String := ["ratio", "flow_threshold", "cash_threshold"]

/-- `BOOLEANS`. -/
def booleanFields : List String := ["observations_present", "discretionary"]

/-- `column_policy`. -/
def columnPolicy (field : String) (currency : Json) : EligibilityColumn :=
  let (kind, unit, places) : FieldType × FieldUnit × Option Nat :=
    if field ∈ countFields then (.count, .portfolioCount, some 0)
    else if field = "admitted_flow_count" then (.count, .eventCount, some 0)
    else if field ∈ moneyFields then (.money, .currencyUnits, some 2)
    else if field ∈ ratioFields then (.decimalFactor, .decimalRatio, some 12)
    else if field ∈ booleanFields then (.boolean, .boolean, none)
    else (.text, .text, none)
  { columnId := field
    label := field.map fun c => if c = '_' then ' ' else c
    valueType := kind
    unit
    displayDecimalPlaces := places
    currency := if kind = .money then some currency else none }

/-- A table; its title is its id. -/
structure EligibilityTable where
  tableId : EligibilityTableId
  columns : List EligibilityColumn
  rows : List CompositeRow
deriving DecidableEq

end Columns

section Facts

/-- A disclosure: its code and its text. -/
def disclosure (code text : String) : Json := .obj [("code", .str code), ("text", .str text)]

def eligibilityDisclosures : List Json :=
  [ disclosure "CONTROLLED_SYNTHETIC_ONLY"
      ("Controlled synthetic source replay / NOT_ATTESTED. Population and " ++
        "published completeness are UNVERIFIED; official activation is UNAVAILABLE."),
    disclosure "SOURCE_OWNED_DECISIONS"
      ("Manage owns eligibility and publication. Report preserves all three " ++
        "assessments and does not evaluate thresholds or manufacture approvals."),
    disclosure "FIRST_REASON_LOSS_BOUNDARY"
      ("Membership reason_code is only the first reason. EligibilityReasons " ++
        "preserves every failure and unknown occurrence; occurrences are not " ++
        "unique excluded members."),
    disclosure "EVALUATED_IS_NOT_PUBLISHED"
      ("EVALUATED_ONLY retains a proposal and missing-observation UNKNOWN cases. " ++
        "Approval, publication and membership history are unavailable for that " ++
        "variant; no receipt is inferred."),
    disclosure "EXACT_HISTORY"
      ("History retains original inclusive revision intervals. Selected month " ++
        "gaps are not filled; same-month policy diffs are not cross-month history. " ++
        "Cleared cash alone does not imply re-entry."),
    disclosure "SOURCE_UNITS"
      ("Ratios are source decimal ratios, not return percentages. Money, " ++
        "portfolio counts, event counts and booleans remain distinct. " ++
        "Raw decimal spelling and nulls remain retained.") ]

/-- The disclosures and the facts that a family of reports adds. -/
structure AddedFacts where
  facts : Fields
  disclosures : List Json

/-- `eligibility_facts`, with what a family adds. -/
def factsWith (added : AddedFacts) : Json := .obj (
  [ ("unavailable", .null),
    ("no_reasons", .obj
      [ ("value", .null),
        ("statement", .str ("All captured assessment reason arrays for this month are empty; " ++
          "no applicable reason occurrences.")) ]),
    ("reason_kinds", .obj
      [("failure_reasons", .str "FAILURE"), ("unknown_reasons", .str "UNKNOWN")]),
    ("disclosures", .arr (eligibilityDisclosures ++ added.disclosures)) ] ++ added.facts)

/-- What `amendment_facts` and `historical_facts` add to the facts of an original. -/
def addedFacts : EligibilityFamily → AddedFacts
  | .original => ⟨[], []⟩
  | .amendment => ⟨[], [disclosure "SOURCE_CORRECTION_ONLY"
      ("Ordinary-month source correction with unchanged approved policy " ++
        "and expected population. Full predecessor/original custody is retained; " ++
        "no Performance aggregates are joined. " ++
        "XLSX is unavailable until explicit Render and Archive v6 support.")]⟩
  | .historical =>
      ⟨[("no_amendment", .null),
          ("evidence_roles", .obj (["POLICY_ADMISSION", "EVALUATION_PROPOSAL",
            "EVALUATION_APPROVAL"].map fun key => (key, .str key)))],
        [disclosure "HISTORICAL_POLICY_CUSTODY_BOUNDARY" calculationBoundary]⟩

end Facts

section Dataset

/-- A pin of a retained receipt, as it is dumped. -/
def receiptPinDump (pin : ReceiptPin) : Json := .obj
  [ ("product_version", .str pin.productVersion.text),
    ("evaluation_revision", .str pin.evaluationRevision),
    ("approval_content_hash", .str pin.approvalContentHash),
    ("receipt_content_hash", .str pin.receiptContentHash),
    ("receipt_response_digest", .str pin.receiptResponseDigest) ]

/-- What a pin states about its evidence, as it is dumped. -/
def pinnedEvidenceDump : PinnedEvidence → Fields
  | .evaluatedOnly proposalResponseDigest =>
      [ ("evidence_kind", .str "EVALUATED_ONLY"),
        ("proposal_response_digest", .str proposalResponseDigest) ]
  | .published approvalContentHash receiptContentHash receiptResponseDigest membershipRevision
      membershipContentHash membershipResponseDigest attestationVersion universeContentHash
      universeResponseDigest parentResponseDigest publicationSequence publicationResponseDigest =>
      [ ("evidence_kind", .str "PUBLISHED"),
        ("approval_content_hash", .str approvalContentHash),
        ("receipt_content_hash", .str receiptContentHash),
        ("receipt_response_digest", .str receiptResponseDigest),
        ("membership_revision", .str membershipRevision),
        ("membership_content_hash", .str membershipContentHash),
        ("membership_response_digest", .str membershipResponseDigest),
        ("attestation_version", .str attestationVersion),
        ("universe_content_hash", .str universeContentHash),
        ("universe_response_digest", .str universeResponseDigest),
        ("parent_response_digest", .str parentResponseDigest),
        ("publication_sequence", .int publicationSequence),
        ("publication_response_digest", .str publicationResponseDigest) ]

/-- The pin of a month, as the selection of its family dumps it. -/
def monthPinDump (family : EligibilityFamily) (pin : MonthPin) : Json := .obj (
  [ ("month", .str pin.month),
    ("evaluation_revision", .str pin.evaluationRevision),
    ("proposal_content_hash", .str pin.proposalContentHash),
    ("parent_membership_revision", .str pin.parentMembershipRevision),
    ("parent_membership_content_hash", .str pin.parentMembershipContentHash),
    ("source_cut_id", .str pin.sourceCutId) ] ++
  pinnedEvidenceDump pin.evidence ++
  (if family = .historical then [("product_version", .str pin.sourceVersion.text)] else []) ++
  (pin.lineageReceipts.elim [] fun receipts =>
    [("lineage_receipts", .arr (receipts.map receiptPinDump))]) ++
  (pin.parentPublicationResponseDigest.elim [] fun digest =>
    [("parent_publication_response_digest", .str digest)]))

/-- `selection_version`, which the selections of corrections state. -/
def selectionVersion : EligibilityFamily → Fields
  | .original => []
  | .amendment => [("selection_version", .str "v2")]
  | .historical => [("selection_version", .str "v3")]

/-- `selection.model_dump(mode="json")`. -/
def selectionDump (selection : EligibilitySelection) : Json := .obj (
  selectionVersion selection.family ++
  [ ("tenant_id", .str selection.tenantId),
    ("composite_id", .str selection.compositeId),
    ("definition_version", .str selection.definitionVersion),
    ("reporting_currency", .str selection.reportingCurrency),
    ("period_start", .str selection.periodStart.1.isoformat),
    ("period_end", .str selection.periodEnd.1.isoformat),
    ("months", .arr (selection.months.map (monthPinDump selection.family))) ])

/-- The contract version and the qualification of the reports of a family. -/
def reportContract : EligibilityFamily → String × String
  | .original => ("composite_review.v4", "CONTROLLED_ELIGIBILITY_SOURCE_REPLAY")
  | .amendment => ("composite_review.v6", "CONTROLLED_MONTHLY_SOURCE_AMENDMENT_REPLAY")
  | .historical => ("composite_review.v7", "CONTROLLED_HISTORICAL_POLICY_EVIDENCE_REPLAY")

/-- The dataset that the builder of a family hands to the tables. -/
def eligibilityData (selection : EligibilitySelection) (months : List Json) : Json := .obj
  [ ("contract_version", .str (reportContract selection.family).1),
    ("qualification", .str (reportContract selection.family).2),
    ("publication_state", .str "NOT_ATTESTED"),
    ("tenant_id", .str selection.tenantId),
    ("selection", selectionDump selection),
    ("source_months", .arr months),
    ("report_facts", factsWith (addedFacts selection.family)) ]

end Dataset

section Cells

variable (lib : SourceLibrary) (data : Json)

/-- `pointer.rsplit("/", 1)`. -/
def lastPart (pointer : String) : String × String :=
  let reversed := pointer.toList.reverse
  (String.ofList (reversed.dropWhile fun c => c != '/').tail.reverse,
    String.ofList (reversed.takeWhile fun c => c != '/').reverse)

/-- The fields of an assessment that a rule does not use. -/
def unusedFields (rule : Json) : List String :=
  if lib.eq rule (.str "READINESS") then moneyFields ++ ratioFields ++ ["admitted_flow_count"]
  else if lib.eq rule (.str "CASH") then ["gross_inflow", "gross_outflow", "admitted_flow_count"]
  else []

def fieldNotApplicable : Availability × List String := (.notApplicable, ["RULE_FIELD_NOT_APPLICABLE"])

def valueUnavailable : Availability × List String := (.unavailable, ["SOURCE_VALUE_UNAVAILABLE"])

def noReasons : Availability × List String := (.notApplicable, ["NO_APPLICABLE_REASONS"])

/-- `_null_semantics`. -/
def nullSemantics (pointer : String) : Except CaptureError (Availability × List String) :=
  if pointer = "/report_facts/no_reasons/value" then .ok noReasons
  else if "/assessments/".toList <:+: pointer.toList then do
    let (parent, field) := lastPart pointer
    let assessment ← resolveSourcePointer data parent
    let rule ← subscript assessment "rule"
    return if field ∈ unusedFields lib rule then fieldNotApplicable else valueUnavailable
  else .ok valueUnavailable

/-- `value is None or isinstance(value, (str, int, bool))`. -/
def isScalar : Json → Bool
  | .null | .str _ | .int _ | .bool _ => true
  | _ => false

/-- The text of a scalar; nothing is written for a null. -/
def canonicalText : Json → Option String
  | .str text => some text
  | .int n => some (toString n)
  | .bool b => some (if b then "true" else "false")
  | _ => none

/-- The refusal of a value that is no scalar. -/
def scalarRequired : CaptureError := .evidenceRefused "COMPOSITE_ELIGIBILITY_CELL_SCALAR_REQUIRED"

/-- The availability of a value, with the codes of its reasons. -/
def availabilityOf (pointer : String) (value : Json) :
    Except CaptureError (Availability × List String) :=
  if value = .null then nullSemantics lib data pointer else .ok (.available, [])

/-- `_cell`. -/
def cellAt (pointer : String) : Except CaptureError CompositeCell := do
  let value ← resolveSourcePointer data pointer
  if isScalar value then
    let availability ← availabilityOf lib data pointer value
    return ⟨canonicalText value, availability.1, availability.2, pointer⟩
  else .error scalarRequired

/-- `_row`. -/
def row (rowId : String) (pointers : List (String × String)) : Except CaptureError CompositeRow := do
  return ⟨rowId, ← pointers.mapM fun (field, pointer) => do
    return (field, ← cellAt lib data pointer)⟩

/-- A pointer for each field: the common one of its name, or else another one. -/
def pointersOf (fields : List String) (common : List (String × String)) (other : String → String) :
    List (String × String) :=
  fields.map fun field => (field, (common.lookup field).getD (other field))

/-- `_blank`. -/
def blank (fields : List String) (common : List (String × String)) : List (String × String) :=
  pointersOf fields common fun _ => "/report_facts/unavailable"

end Cells

section Rows

variable (lib : SourceLibrary) (data : Json)

/-- A row that is appended to a table. -/
structure Appended where
  table : EligibilityTableId
  row : CompositeRow
deriving DecidableEq

/-- `rows[table].append(_row(data, row_id, pointers))`. -/
def append (table : EligibilityTableId) (rowId : String) (pointers : List (String × String)) :
    Except CaptureError (List Appended) := do
  return [⟨table, ← row lib data rowId pointers⟩]

/-- The rows of a table, in the order in which they were appended. -/
def rowsFor (table : EligibilityTableId) (appended : List Appended) : List CompositeRow :=
  (appended.filter fun a => a.table = table).map (·.row)

/-- Loops append their rows one after the other. -/
def appendAll (parts : List (Except CaptureError (List Appended))) :
    Except CaptureError (List Appended) := do
  return (← parts.mapM id).flatten

/-- `pointer/name`. -/
def below (pointer name : String) : String := pointer ++ "/" ++ name

/-- `pointer/index`. -/
def itemBelow (pointer : String) (index : Nat) : String := pointer ++ "/" ++ toString index

/-- `data["source_months"][index]`. -/
def sourceMonthAt (index : Nat) : Except CaptureError Json := do
  match (← itemsOf (← subscript data "source_months"))[index]? with
  | some month => .ok month
  | none => .error (.raised "IndexError")

/-- `proposal_for_month`, with the place of the proposal. -/
def proposalAt (month : Json) : Except CaptureError (Json × String) := do
  if lib.eq (← subscript month "evidence_kind") (.str "PUBLISHED") then
    return (← readAt month ["receipt", "approval", "proposal"], "receipt/approval/proposal")
  else return (← subscript month "proposal", "proposal")

/-- The pointers to a month and to what was retained of it. -/
def selectedMonth (index : Nat) : String := below (itemBelow "/selection/months" index) "month"

def sourceMonthPointer (index : Nat) : String := itemBelow "/source_months" index

def commonPointers (index : Nat) : List (String × String) :=
  [ ("month", selectedMonth index),
    ("evidence_kind", below (sourceMonthPointer index) "evidence_kind") ]

/-- `m\x7bindex\x7d`. -/
def monthId (index : Nat) : String := "m" ++ toString index

/-- The two kinds of reasons of an assessment. -/
def reasonKinds : List String := ["failure_reasons", "unknown_reasons"]

/-- The rows of the reasons of an assessment. -/
def reasonRows (index : Nat) (portfolio ruleRoot ruleId : String) (assessment : Json) :
    Except CaptureError (List Appended) :=
  appendAll (reasonKinds.map fun kind => do
    let reasons ← itemsOf (← subscript assessment kind)
    appendAll ((List.range reasons.length).map fun ordinal =>
      append lib data .reasons (ruleId ++ ":" ++ kind ++ ":" ++ toString ordinal)
        [ ("month", selectedMonth index),
          ("portfolio_id", portfolio),
          ("rule", below ruleRoot "rule"),
          ("kind", below "/report_facts/reason_kinds" kind),
          ("reason_code", itemBelow (below ruleRoot kind) ordinal) ]))

/-- The rows of an assessment and of its reasons. -/
def assessmentRows (index : Nat) (common : List (String × String)) (portfolio rulesRoot rowId : String)
    (assessment : Json × Nat) : Except CaptureError (List Appended) := do
  let ruleRoot := itemBelow rulesRoot assessment.2
  let ruleId := rowId ++ ":a" ++ toString assessment.2
  appendAll
    [ append lib data .assessments ruleId
        (pointersOf (tableFields .assessments) common (below ruleRoot)),
      reasonRows lib data index portfolio ruleRoot ruleId assessment.1 ]

/-- The rows of an evaluated portfolio. -/
def memberRows (index : Nat) (portfoliosRoot : String) (member : Json × Nat) :
    Except CaptureError (List Appended) := do
  let memberRoot := itemBelow portfoliosRoot member.2
  let portfolio := below memberRoot "portfolio_id"
  let common := commonPointers index ++ [("portfolio_id", portfolio)]
  let rowId := monthId index ++ ":p" ++ toString member.2
  appendAll
    [ append lib data .members rowId (pointersOf (tableFields .members) common (below memberRoot)),
      do
        let assessments ← itemsOf (← subscript member.1 "assessments")
        appendAll (assessments.zipIdx.map
          (assessmentRows lib data index common portfolio (below memberRoot "assessments") rowId)) ]

/-- `_evaluation_rows`. -/
def evaluationRows (index : Nat) : Except CaptureError (List Appended) := do
  let month ← sourceMonthAt data index
  let (proposal, suffix) ← proposalAt lib month
  let root := below (below (sourceMonthPointer index) suffix) "evaluation"
  let common := commonPointers index
  let appended ← appendAll
    [ append lib data .summary (monthId index)
        (pointersOf (tableFields .summary) common (below root)),
      append lib data .methods (monthId index)
        (pointersOf (tableFields .methods) common (below (below root "resolved_policy"))),
      do
        let members ← itemsOf (← readAt proposal ["evaluation", "portfolios"])
        appendAll (members.zipIdx.map (memberRows lib data index (below root "portfolios"))) ]
  if rowsFor .reasons appended = [] then
    return appended ++ (← append lib data .reasons (monthId index ++ ":not_applicable")
      (pointersOf (tableFields .reasons) common fun _ => "/report_facts/no_reasons/value"))
  else return appended

/-- The fields of a membership that each of its decisions repeats. -/
def membershipMetadata : List String :=
  ["membership_revision", "supersedes_membership_revision", "affected_from", "affected_to"]

/-- `_history_rows`. -/
def historyRows (index : Nat) : Except CaptureError (List Appended) := do
  let month ← sourceMonthAt data index
  let common := [("month", selectedMonth index)]
  if lib.eq (← subscript month "evidence_kind") (.str "EVALUATED_ONLY") then
    append lib data .history (monthId index ++ ":unavailable") (blank (tableFields .history) common)
  else
    appendAll (["parent_membership", "membership"].map fun product => do
      let base := below (sourceMonthPointer index) product
      let metadata := membershipMetadata.map fun field => (field, below base field)
      let decisions ← itemsOf (← readAt month [product, "decisions"])
      appendAll ((List.range decisions.length).map fun ordinal =>
        append lib data .history (monthId index ++ ":" ++ product ++ ":d" ++ toString ordinal)
          (pointersOf (tableFields .history) (common ++ metadata)
            (below (itemBelow (below base "decisions") ordinal)))))

/-- A product of a month: its place, the field of its revision, and the key of its digest. -/
structure LineageProduct where
  path : String
  revision : String
  digestKey : String

/-- The products of a month. -/
def lineageProducts (suffix : String) (published : Bool) : List LineageProduct :=
  ⟨suffix, "evaluation_revision", if published then "receipt" else "proposal"⟩ ::
    if published then
      [ ⟨"membership", "membership_revision", "membership"⟩,
        ⟨"parent_membership", "membership_revision", "parent_membership"⟩,
        ⟨"universe", "attestation_version", "universe"⟩,
        ⟨"receipt", "publication_sequence", "receipt"⟩ ]
    else []

/-- `_lineage_rows`. -/
def lineageRows (index : Nat) : Except CaptureError (List Appended) := do
  let month ← sourceMonthAt data index
  let (_, suffix) ← proposalAt lib month
  let published := lib.eq (← subscript month "evidence_kind") (.str "PUBLISHED")
  appendAll ((lineageProducts suffix published).zipIdx.map fun product =>
    let base := below (sourceMonthPointer index) product.1.path
    append lib data .lineage (monthId index ++ ":s" ++ toString product.2)
      (commonPointers index ++
        [ ("product", below base "product_name"),
          ("revision", below base product.1.revision),
          ("content_hash", below base "content_hash"),
          ("response_digest", below (below (sourceMonthPointer index) "response_digests")
            product.1.digestKey) ]))

/-- The rows of a month. -/
def monthRows (index : Nat) : Except CaptureError (List Appended) :=
  appendAll [evaluationRows lib data index, historyRows lib data index, lineageRows lib data index]

/-- The rows of the disclosures. -/
def disclosureRows : Except CaptureError (List Appended) := do
  let disclosures ← itemsOf (← readAt data ["report_facts", "disclosures"])
  appendAll ((List.range disclosures.length).map fun index =>
    append lib data .disclosures ("d" ++ toString index)
      (pointersOf (tableFields .disclosures) []
        (below (itemBelow "/report_facts/disclosures" index))))

/-- The most rows that a table may have. -/
def tableCapacity : Nat := 10000

def capacityExceeded : CaptureError :=
  .evidenceRefused "COMPOSITE_ELIGIBILITY_TABLE_CAPACITY_EXCEEDED"

/-- `eligibility_tables`. -/
def eligibilityTables : Except CaptureError (List EligibilityTable) := do
  let months ← itemsOf (← subscript data "source_months")
  let appended ← appendAll
    [ appendAll ((List.range months.length).map (monthRows lib data)), disclosureRows lib data ]
  if tableIds.any fun table => tableCapacity < (rowsFor table appended).length then
    .error capacityExceeded
  else
    let currency ← readAt data ["selection", "reporting_currency"]
    return tableIds.map fun table =>
      ⟨table, (tableFields table).map fun field => columnPolicy field currency,
        rowsFor table appended⟩

end Rows

end LotusReport.Composite.Eligibility
