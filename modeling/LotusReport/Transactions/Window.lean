import LotusReport.Encoding.Equality
import LotusReport.Encoding.Runtime
import LotusReport.Encoding.Text

/-!
# The transaction window

The read of a transaction window asks for page after page until a budget is spent, a
page is empty or the stated total is reached. What it proved about its own evidence
travels with the rows as notes: the truncation of the window, and the quality of the
pages that were consumed.
-/

namespace LotusReport.Transactions

open Encoding

/-- The Unicode and number operations of the platform. -/
structure Platform where
  upper : String → String
  intOfText : String → Option Int
  floatValue : String → FloatValue

/-- A Python integer; a boolean counts as one. -/
structure Count where
  value : Int
  isBool : Bool := false
deriving DecidableEq

/-- The integer as a JSON value. -/
def Count.json (n : Count) : Json := if n.isBool then .bool (n.value != 0) else .int n.value

section Evidence

variable (py : Platform)

/-- `TRUST_METADATA_FIELDS` and `REQUIRED_PAGE_SCOPE_FIELDS`. -/
def trustFields : List String :=
  ["product_name", "product_version", "tenant_id", "generated_at", "as_of_date",
    "data_quality_status", "reconciliation_status", "latest_evidence_timestamp",
    "restatement_version", "source_batch_fingerprint", "snapshot_id", "policy_version",
    "correlation_id", "portfolio_id"]

/-- `WINDOW_IDENTITY_FIELDS`. -/
def windowIdentityFields : List String :=
  ["product_name", "product_version", "tenant_id", "portfolio_id", "reporting_currency",
    "as_of_date", "latest_evidence_timestamp", "restatement_version", "source_batch_fingerprint",
    "snapshot_id", "policy_version"]

/-- The fields that a page hands over to the source product. -/
def handedFields : List String :=
  ["product_name", "product_version", "tenant_id", "generated_at", "as_of_date",
    "latest_evidence_timestamp", "restatement_version", "source_batch_fingerprint", "snapshot_id",
    "content_hash", "policy_version", "correlation_id", "portfolio_id", "reporting_currency",
    "missing_instrument_reference_count"]

/-- `MAX_SOURCE_REASON_CODES`. -/
def maxSourceReasonCodes : Nat := 64

def isAlphanumeric (c : Char) : Bool :=
  ('A' ≤ c && c ≤ 'Z') || ('a' ≤ c && c ≤ 'z') || ('0' ≤ c && c ≤ '9')

/-- `SOURCE_REASON_CODE.fullmatch`. -/
def isReasonCode (text : String) : Bool :=
  match text.toList with
  | [] => false
  | c :: cs =>
      isAlphanumeric c && cs.length ≤ 127 &&
        cs.all fun c => isAlphanumeric c || c == '_' || c == '.' || c == ':' || c == '-'

/-- `dict.get`. -/
def get (fields : Fields) (name : String) : Json :=
  (Json.lookup fields name).getD .null

/-- `_as_list`. -/
def asList : Json → List Json
  | .arr items => items
  | _ => []

/-- `_as_dict`. -/
def asDict : Json → Fields
  | .obj fields => fields
  | _ => []

/-- `_safe_str`. -/
def safeStr : Json → String
  | .str text => text
  | _ => ""

/-- The fields of a value that is a dictionary. -/
def dict? : Json → Option Fields
  | .obj fields => some fields
  | _ => none

/-- `dict.setdefault`. -/
def setDefault (fields : Fields) (name : String) (value : Json) :
    Fields :=
  if (Json.lookup fields name).isSome then fields else Json.assign fields name value

/-- `_page_reason_codes`. -/
def pageReasonCodes (payload : Fields) : List String × Bool :=
  let raw := (Json.lookup payload "reason_codes").getD (.arr [])
  let values := asList raw
  let valid := ((values.map safeStr).filter isReasonCode).dedup
  let bounded := !(raw matches .arr _) || values.any (fun code => !isReasonCode (safeStr code)) ||
    decide (maxSourceReasonCodes < valid.length)
  ((sortedTexts valid).take maxSourceReasonCodes, bounded)

/-- `_missing_trust_fields`; a decoded payload has no date objects. -/
def missingTrustFields (payload : Fields) : List String :=
  trustFields.filter fun field => strip (safeStr (get payload field)) == ""

/-- `_page_records`. -/
def pageRecords (sourceProduct : Fields) : List Fields :=
  (asList (get sourceProduct "page_evidence")).filterMap dict?

/-- `_page_status`. -/
def pageStatus (value : Json) : String :=
  let status := py.upper (strip (safeStr value))
  if isReasonCode status then status else "UNKNOWN"

/-- `_aggregate_page_status`. -/
def aggregatePageStatus (pages : List Fields) (field : String) : String :=
  let states := (pages.map fun page => py.upper (strip (safeStr (get page field)))).dedup
  if "" ∈ states || "UNKNOWN" ∈ states then "UNKNOWN"
  else if field == "data_quality_status" then
    if states == ["COMPLETE"] then "COMPLETE" else "PARTIAL"
  else
    match states.filter fun state => state != "RECONCILED" && state != "COMPLETE" with
    | [] => "RECONCILED"
    | [state] => state
    | _ => "UNKNOWN"

/-- The evidence of one page. -/
def pageEvidence (current payload : Fields) (fetchedPages : Nat) : Json :=
  let missing := missingTrustFields payload
  let conflicts := sortedTexts (windowIdentityFields.filter fun field =>
    match Json.lookup current field with
    | none => false
    | some value => field ∉ missing &&
        (get payload field != .null || field == "reporting_currency") &&
        !pyEq py.floatValue value (get payload field))
  .obj [("page", .int fetchedPages), ("missing_fields", .ofTexts missing),
    ("identity_conflicts", .ofTexts conflicts),
    ("reason_codes", .ofTexts (pageReasonCodes payload).1),
    ("reasons_bounded", .bool (pageReasonCodes payload).2),
    ("data_quality_status", .str (pageStatus py (get payload "data_quality_status"))),
    ("reconciliation_status", .str (pageStatus py (get payload "reconciliation_status")))]

/-- The fields that a page hands over, the first value of an identity field staying. -/
def handOverFields (current payload : Fields) : Fields :=
  handedFields.foldl
    (fun product field =>
      if get payload field == .null || field ∈ missingTrustFields payload ||
        (field ∈ windowIdentityFields && (Json.lookup product field).isSome) then product
      else Json.assign product field (get payload field))
    current

/-- The fields that every merge assigns. -/
def assignedFields (current payload : Fields) (returnedCount : Nat)
    (sourceTotal : Count) (fetchedPages : Nat) : Fields :=
  let pages := (pageRecords current).map Json.obj ++ [pageEvidence py current payload fetchedPages]
  let records := pages.filterMap dict?
  let reasons := sortedSet
    ((records.flatMap fun page => asList (get page "reason_codes")).map safeStr)
  [("source_service", .str "lotus-core"),
    ("source_endpoint", .str "/portfolios/\x7bportfolio_id\x7d/transactions"),
    ("source_total", sourceTotal.json), ("returned_count", .int returnedCount),
    ("fetched_page_count", .int fetchedPages), ("skip", get payload "skip"),
    ("limit", get payload "limit"), ("page_evidence", .arr pages),
    ("page_evidence_policy", .str "transaction-page-evidence.v1"),
    ("data_quality_status", .str (aggregatePageStatus py records "data_quality_status")),
    ("reconciliation_status", .str (aggregatePageStatus py records "reconciliation_status")),
    ("reason_codes", .ofTexts (reasons.take maxSourceReasonCodes)),
    ("reason_evidence_bounded", .bool (decide (maxSourceReasonCodes < reasons.length) ||
      records.any fun page => (get page "reasons_bounded").truthy))]

/-- The fields that the defaults fill. -/
def filledFields (current payload : Fields) : Fields :=
  setDefault (setDefault (setDefault (handOverFields current payload) "reporting_currency"
    (get payload "reporting_currency")) "product_name" (.str "TransactionLedgerWindow"))
    "product_version" (.str "v1")

/-- `merge_transaction_source_product`. -/
def mergeTransactionSourceProduct (current payload : Fields) (returnedCount : Nat)
    (sourceTotal : Count) (fetchedPages : Nat) : Fields :=
  let product := (assignedFields py current payload returnedCount sourceTotal fetchedPages).foldl
    (fun product field => Json.assign product field.1 field.2) (filledFields current payload)
  match asList (get payload "missing_instrument_security_ids") with
  | [] => product
  | ids => Json.assign product "missing_instrument_security_ids"
      (.ofTexts (ids.map safeStr))

/-- A note that is taken under a condition. -/
def noteIf (present : Bool) (fields : Fields) : List Json :=
  if present then [.obj fields] else []

/-- `transaction_source_product_supportability_notes`. -/
def sourceProductNotes (sourceProduct : Fields) (returnedCount : Nat)
    (sourceTotal : Option Count) (fetchedPages : Nat) : List Json :=
  let pages := pageRecords sourceProduct
  let fieldsOf := fun name => sortedSet ((pages.flatMap fun page => asList (get page name)).map safeStr)
  let pagesWith := fun name => Json.arr ((pages.filter fun page => (get page name).truthy).map
    fun page => get page "page")
  let missing :=
    if pages.isEmpty then missingTrustFields sourceProduct else fieldsOf "missing_fields"
  let conflicts := fieldsOf "identity_conflicts"
  let quality := py.upper (safeStr (get sourceProduct "data_quality_status"))
  let reconciliation := py.upper (safeStr (get sourceProduct "reconciliation_status"))
  let counts := [("returned_count", Json.int returnedCount),
    ("source_total", (sourceTotal.map Count.json).getD .null), ("fetched_pages", .int fetchedPages)]
  noteIf (!missing.isEmpty)
      ([("code", .str "transaction_window_trust_metadata_incomplete"), ("severity", .str "warning"),
        ("missing_fields", .ofTexts missing), ("pages", pagesWith "missing_fields"),
        ("message", .str ("TransactionLedgerWindow source-product metadata is incomplete; " ++
          "transaction supportability is partial until core trust metadata is available."))] ++
        counts) ++
    noteIf (!conflicts.isEmpty)
      [("code", .str "transaction_window_source_identity_incoherent"), ("severity", .str "warning"),
        ("fields", .ofTexts conflicts), ("pages", pagesWith "identity_conflicts"),
        ("message", .str ("Consumed transaction pages do not share one source scope and revision; " ++
          "combined evidence is partial."))] ++
    noteIf (get sourceProduct "reason_evidence_bounded").truthy
      [("code", .str "transaction_window_reason_evidence_bounded"), ("severity", .str "warning"),
        ("message", .str ("Source reason evidence exceeded the bounded machine-code contract; " ++
          "full supportability is not established."))] ++
    noteIf (quality != "" && quality != "COMPLETE")
      [("code", .str "transaction_window_source_quality_not_complete"), ("severity", .str "warning"),
        ("data_quality_status", .str quality),
        ("reason_codes", (Json.lookup sourceProduct "reason_codes").getD (.arr [])),
        ("message", .str ("lotus-core marked the transaction ledger window as not complete; " ++
          "report transaction coverage must remain partial."))] ++
    noteIf (reconciliation != "" && reconciliation != "RECONCILED" && reconciliation != "COMPLETE")
      [("code", .str "transaction_window_reconciliation_not_complete"), ("severity", .str "warning"),
        ("reconciliation_status", .str reconciliation),
        ("message", .str
          "lotus-core transaction ledger reconciliation is not complete for this window.")] ++
    noteIf (sourceTotal.any fun total => decide ((returnedCount : Int) < total.value))
      ([("code", .str "transaction_window_page_partial"), ("severity", .str "warning"),
        ("message", .str ("The report payload contains fewer transaction rows than the source " ++
          "ledger window."))] ++ counts)

/-- Why the read stopped before the end of the window. -/
inductive StopReason where
  | maxRowsReached
  | maxPagesReached
deriving DecidableEq, Repr

/-- The text of a stop reason. -/
def StopReason.text : StopReason → String
  | .maxRowsReached => "max_rows_reached"
  | .maxPagesReached => "max_pages_reached"

/-- The budgets of a transaction read. -/
structure Budgets where
  maxRows : Nat := 5000
  maxPages : Nat := 20
  positive : 1 ≤ maxRows ∧ 1 ≤ maxPages := by decide

/-- The message of a truncated window. -/
def Budgets.message (budgets : Budgets) : StopReason → String
  | .maxRowsReached => "Transaction rows were truncated at the report-owned row budget of " ++
      toString budgets.maxRows ++ "; request a narrower window for complete transaction detail."
  | .maxPagesReached => "Transaction paging stopped at the report-owned page budget of " ++
      toString budgets.maxPages ++ "; request a narrower window for complete transaction detail."

/-- The note of a truncated window. -/
def truncationNote (budgets : Budgets) (reason : StopReason) (returnedCount : Nat)
    (sourceTotal : Option Count) (fetchedPages : Nat) : Json :=
  .obj [("code", .str "transaction_window_truncated"), ("severity", .str "warning"),
    ("reason", .str reason.text), ("message", .str (budgets.message reason)),
    ("returned_count", .int returnedCount),
    ("source_total", (sourceTotal.map Count.json).getD .null), ("fetched_pages", .int fetchedPages),
    ("max_rows", .int budgets.maxRows), ("max_pages", .int budgets.maxPages)]

/-- `transaction_window_supportability`: the status and the notes. -/
def transactionWindowSupportability (budgets : Budgets) (returnedCount : Nat)
    (sourceTotal : Option Count) (fetchedPages : Nat) (stopReason : Option StopReason)
    (sourceProduct : Fields) : String × List Json :=
  let notes := sourceProductNotes py sourceProduct returnedCount sourceTotal fetchedPages
  match stopReason with
  | none => (if notes.isEmpty then "ready" else "partial", notes)
  | some reason =>
      ("partial", truncationNote budgets reason returnedCount sourceTotal fetchedPages :: notes)

end Evidence

section Reading

variable (py : Platform) (budgets : Budgets)

/-- An answer of `get_portfolio_transactions`. -/
structure Answer where
  statusCode : Int
  payload : Json

/-- The failures of a transaction read. -/
inductive ReadError where
  | notFound (payload : Json)
  | validation (payload : Json)
  | upstream (payload : Json)
  | missingFields
  | unreadableTotal

/-- `_to_int`; an infinite number or NaN is refused. -/
def toInt : Json → Except ReadError Count
  | .int n => .ok ⟨n, false⟩
  | .bool b => .ok ⟨if b then 1 else 0, true⟩
  | .float text =>
      match py.floatValue text with
      | .finite q => .ok ⟨if 0 ≤ q then q.floor else q.ceil, false⟩
      | _ => .error .unreadableTotal
  | .str text => .ok ⟨(py.intOfText text).getD 0, false⟩
  | _ => .ok ⟨0, false⟩

/-- A page that was read. -/
structure Page where
  payload : Fields
  rows : List Fields
  total : Count

/-- The reading of an answer. -/
def readPage (answer : Answer) : Except ReadError Page :=
  if answer.statusCode < 400 then
    match dict? answer.payload with
    | none => .error .missingFields
    | some payload =>
        match Json.lookup payload "transactions" with
        | none => .error .missingFields
        | some transactions => do
            let total ← toInt py (get payload "total")
            return ⟨payload, (asList transactions).filterMap dict?, total⟩
  else if answer.statusCode = 404 then .error (.notFound answer.payload)
  else if answer.statusCode = 422 then .error (.validation answer.payload)
  else .error (.upstream answer.payload)

/-- The variables of the loop; the queries that were sent are recorded. -/
structure Reading where
  rows : List Fields := []
  skip : Nat := 0
  sourceTotal : Option Count := none
  fetchedPages : Nat := 0
  sourceProduct : Fields := []
  queries : List (Nat × Int) := []

/-- What the loop keeps of a page. -/
def Reading.consume (r : Reading) (limit : Int) (page : Page) : Reading :=
  let rows := r.rows ++ page.rows.take (budgets.maxRows - r.rows.length)
  { rows := rows
    skip := r.skip + page.rows.length
    sourceTotal := some page.total
    fetchedPages := r.fetchedPages + 1
    sourceProduct := mergeTransactionSourceProduct py r.sourceProduct page.payload rows.length
      page.total (r.fetchedPages + 1)
    queries := r.queries ++ [(r.skip, min limit (budgets.maxRows - r.rows.length : Nat))] }

/-- The loop of `_list_transaction_rows_result`; the argument counts the pages that are left in the
budget. -/
def readPages (limit : Int) (answers : Nat → Answer) :
    Nat → Reading → Except ReadError (Reading × Option StopReason)
  | 0, r =>
      .ok (r, some (if budgets.maxRows ≤ r.rows.length then .maxRowsReached else .maxPagesReached))
  | remaining + 1, r =>
      if budgets.maxRows ≤ r.rows.length then .ok (r, some .maxRowsReached)
      else
        match readPage py (answers r.fetchedPages) with
        | .error e => .error e
        | .ok page =>
            let next := r.consume py budgets limit page
            if budgets.maxRows - r.rows.length < page.rows.length ∨
                budgets.maxRows ≤ next.rows.length then
              .ok (next, some .maxRowsReached)
            else if page.rows = [] ∨ page.total.value ≤ next.skip then .ok (next, none)
            else readPages limit answers remaining next

/-- `_TransactionRowsResult`. -/
structure TransactionRowsResult where
  rows : List Fields
  sourceTotal : Option Count
  fetchedPages : Nat
  supportability : String × List Json
  sourceProduct : Fields

/-- `_list_transaction_rows_result`, given the `limit` of its parameters and the answers to its
calls. -/
def listTransactionRowsResult (limit : Int) (answers : Nat → Answer) :
    Except ReadError TransactionRowsResult := do
  let (r, stopReason) ←
    readPages py budgets (if limit = 0 then 500 else limit) answers budgets.maxPages {}
  return {
    rows := r.rows
    sourceTotal := r.sourceTotal
    fetchedPages := r.fetchedPages
    supportability := transactionWindowSupportability py budgets r.rows.length r.sourceTotal
      r.fetchedPages stopReason r.sourceProduct
    sourceProduct := r.sourceProduct }

end Reading

end LotusReport.Transactions
