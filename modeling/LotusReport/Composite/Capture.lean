import LotusReport.Composite.Documents
import LotusReport.Composite.Request
import LotusReport.StateMachine.Program

/-!
# The composite capture

`CompositeInputProvider.collect_for_job` as a program over its ports: the
invocation provider, the job ledger and the clients of the two source
services. Building and checking datasets is pure and is a parameter here.
-/

namespace LotusReport.Composite

open Encoding Jobs StateMachine

/-- The event of an admitted invocation, as `append_job_event` receives it. -/
structure InvocationEvent where
  jobId : String
  eventType : String
  message : String
  eventPayload : Fields
  eventIdempotencyKey : String
  actor : String
  correlationId : String
  traceId : String
deriving DecidableEq

/-- The calls that a capture makes. -/
inductive CaptureCall where
  | uuid4
  | authorizeAttempt (binding : TwrJobBinding) (exactSelector : Json) (context : TwrAttemptContext)
  | appendJobEvent (event : InvocationEvent)
  | getCompositeTwr (payload : Json) (admittedTenantId : String) (invocation : TwrInvocation)
  | getCompositeAnalytics (payload : Json) (admittedTenantId : String)
  | getRetainedCompositePooledResult (calculationId admittedTenantId : String)
  | readEligibility (endpoint : String) (binding : Option Fields)
      (admittedTenantId : String)
deriving DecidableEq

/-- The exceptions of a client, as far as the capture tells them apart. -/
inductive ClientException where
  | timeout
  | transport
  | other
deriving DecidableEq, Repr

/-- What a source service answers. -/
inductive SourceAnswer where
  | answered (status : Int) (response : Fields)
  | raised (exception : ClientException)
deriving DecidableEq

/-- The answers to the calls of a capture. -/
def CaptureCall.Answer : CaptureCall → Type
  | .uuid4 => String
  | .authorizeAttempt _ _ _ => ProviderAnswer
  | .appendJobEvent _ => Except CaptureError Unit
  | .getCompositeTwr _ _ _ => SourceAnswer
  | .getCompositeAnalytics _ _ => SourceAnswer
  | .getRetainedCompositePooledResult _ _ => SourceAnswer
  | .readEligibility _ _ _ => SourceAnswer

/-- `_RecordedUpstreamCall`, without its clock readings and trace identifiers. -/
structure RecordedUpstreamCall where
  serviceName : String
  endpoint : String
  method : String
  contractVersion : String
  requestPayload : Json
  responsePayload : Option Json
  responseRef : Option Json
  statusCode : Int
  supportabilityStatus : String
  completenessStatus : String
  failureCategory : String
  failureMessage : Option String
deriving DecidableEq

/-- The evidence that a capture has collected so far. -/
structure CaptureState where
  upstreamCalls : List RecordedUpstreamCall := []
  capturedBytes : Nat := 0

/-- A computation of the capture. -/
def Capture (α : Type) : Type :=
  CaptureState → Program CaptureCall CaptureCall.Answer
    (Except (CaptureError × CaptureState) (α × CaptureState))

namespace Capture

variable {α β : Type}

/-- Carry on with the value of the first computation. -/
def andThen (m : Capture α) (k : α → Capture β) : Capture β :=
  fun s => Program.andThen (m s) fun result => k result.1 result.2

instance : Monad Capture where
  pure a := fun s => .done (.ok (a, s))
  bind := andThen

/-- Make one call. -/
def perform (op : CaptureCall) : Capture op.Answer := fun s => .call op fun r => .done (.ok (r, s))

/-- A computation without calls. -/
def lift (x : Except CaptureError α) : Capture α := fun s =>
  match x with
  | .ok a => .done (.ok (a, s))
  | .error e => .done (.error (e, s))

/-- Raise an exception. -/
def raise (e : CaptureError) : Capture α := lift (.error e)

/-- Change the collected evidence. -/
def modify (f : CaptureState → CaptureState) : Capture Unit := fun s => .done (.ok ((), f s))

/-- Append to the recorded calls. -/
def record (call : RecordedUpstreamCall) : Capture Unit :=
  modify fun s => { s with upstreamCalls := s.upstreamCalls ++ [call] }

/-- Change the call that was recorded last. -/
def amendLast (f : RecordedUpstreamCall → RecordedUpstreamCall) : Capture Unit :=
  modify fun s => { s with
    upstreamCalls := s.upstreamCalls.dropLast ++ (s.upstreamCalls.getLast?.map f).toList }

/-- One computation for each item, in order. -/
def forEach (f : α → Capture β) : List α → Capture (List β)
  | [] => pure []
  | a :: as => do
      let b ← f a
      let bs ← forEach f as
      return b :: bs

end Capture

/-- What the capture uses besides its ports: which of them are configured, the release switch of
historical policies, and the pure construction and validation of datasets. -/
structure CaptureServices where
  hasPerformanceClient : Bool
  hasManageClient : Bool
  hasJobLedger : Bool
  historicalPolicyEnabled : Bool
  parsers : SelectionParsers
  admitCompositeResponse : CompositeReportSelection → String → Int → Fields →
    Except CaptureError Json
  buildCompositeTables : Json → Except CaptureError Json
  capturedReturnProduct : ReturnProductSelection → Json → Except CaptureError Json
  buildProductTables : Json → List Json → Except CaptureError Json
  projectSourceContext : Json → CompositeSourceContextSelection → Fields →
    List Fields → Except CaptureError Json
  admitPooledResponse : PooledAnalysisSelection → String → Fields →
    Except CaptureError Unit
  buildPooledDataset : PooledAnalysisSelection → String → Fields →
    Option Fields → Except CaptureError Json
  buildLinkedDataset : LinkedAnalysisSelection → String → Int → Fields →
    Except CaptureError Json
  monthlyDataset : EligibilitySelection → List Json → Except CaptureError Json
  requireHash : Fields → Except CaptureError Unit
  responseDigest : Json → String
  validateCompositeDataset : Json → Except CaptureError Unit

section Ports

variable (py : Runtime) (co : Coercions) (services : CaptureServices) (record : JobFile)

/-- The call that `append_failure` records. -/
def failureCall (serviceName endpoint method : String) (requestPayload : Json)
    (exception : ClientException) : RecordedUpstreamCall :=
  let (statusCode, posture, category, message) : Int × String × String × String :=
    match exception with
    | .timeout => (504, "unavailable", "timeout",
        "Upstream request timed out before a complete response was returned.")
    | _ => (500, "error", "upstream_error",
        "Upstream request failed before a usable response was returned.")
  { serviceName, endpoint, method
    contractVersion := "unknown"
    requestPayload
    responsePayload := none
    responseRef := none
    statusCode
    supportabilityStatus := posture
    completenessStatus := posture
    failureCategory := category
    failureMessage := some message }

/-- The exception as the capture passes it on. -/
def ClientException.error : ClientException → CaptureError
  | .timeout => .raised "TimeoutError"
  | .transport => .raised "TransportError"
  | .other => .raised "Exception"

/-- `_source_call`. -/
def sourceCall (endpoint contractVersion : String) (requestPayload : Json) (calculationId : String)
    (status : Int) (response : Fields) : RecordedUpstreamCall where
  serviceName := "lotus-performance"
  endpoint := endpoint
  method := "POST"
  contractVersion := contractVersion
  requestPayload := requestPayload
  responsePayload := some (.obj response)
  responseRef := some (.str calculationId)
  statusCode := status
  supportabilityStatus := "complete"
  completenessStatus := "complete"
  failureCategory := "none"
  failureMessage := none

/-- The posture of a call with a failure. -/
def RecordedUpstreamCall.marked (call : RecordedUpstreamCall)
    (posture category message : String) : RecordedUpstreamCall :=
  { call with
    supportabilityStatus := posture
    completenessStatus := posture
    failureCategory := category
    failureMessage := some message }

/-- The event that `_authorize_twr_send` appends. -/
def invocationEvent (invocation : TwrInvocation) (context : TwrAttemptContext) :
    InvocationEvent where
  jobId := record.job.reportJobId
  eventType := "composite_twr_invocation_authorized"
  message := "Current TWR invocation authority admitted."
  eventPayload :=
    [ ("credential_id", .ofText? invocation.credentialId),
      ("validated_at", .ofText? (invocation.validatedAt.map (·.isoformat))),
      ("selector_digest", .ofText? invocation.exactSelectorDigest) ]
  eventIdempotencyKey := "composite-twr:" ++ context.attemptId
  actor := record.request.triggeredBy
  correlationId := record.request.correlationId
  traceId := record.request.traceId

/-- `authorize_selection`. -/
def authorizeSelection (selection : CompositeReportSelection) (context : TwrAttemptContext) :
    Capture TwrInvocation := do
  let binding ← Capture.lift (jobBinding co record)
  let answer ← Capture.perform (.authorizeAttempt binding selection.dump context)
  Capture.lift (admitAnswer py binding selection record.request.tenantId answer)

/-- The context of one attempt. -/
def attemptContext (attemptId : String) : TwrAttemptContext :=
  ⟨record.job.reportJobId, record.request.reportRequestId, record.request.correlationId,
    record.request.traceId, attemptId⟩

/-- `_authorize_twr_send`. -/
def authorizeTwrSend (selection : CompositeReportSelection) : Capture TwrInvocation := do
  let attemptId ← Capture.perform .uuid4
  let context := attemptContext record attemptId
  let invocation ← authorizeSelection py co record selection context
  if services.hasJobLedger then
    let appended ← Capture.perform (.appendJobEvent (invocationEvent record invocation context))
    Capture.lift appended
  return invocation

/-- `_capture_selection` behind the answer of the source. -/
def admitTwrAnswer (selection : CompositeReportSelection) : SourceAnswer → Capture Json
  | .raised .timeout | .raised .transport => Capture.raise .retryable
  | .raised .other => do
      Capture.record (failureCall "lotus-performance" "/performance/composites/twr" "POST"
        selection.performanceRequest .other)
      Capture.raise (ClientException.error .other)
  | .answered status response => do
      if status ∈ [429, 502, 503, 504] then Capture.raise .retryable
      else
        Capture.record (sourceCall "/performance/composites/twr"
          "composite-twr.explicit-retained-selection.v1" selection.performanceRequest
          selection.calculationId status response)
        if status ∈ [401, 403] then
          Capture.amendLast (·.marked "error" "upstream_error"
            "Composite TWR receiver refused invocation authority.")
          Capture.raise (.authorityRefused "COMPOSITE_TWR_RECEIVER_AUTHORITY_REFUSED")
        else
          let dataset ← Capture.lift
            (services.admitCompositeResponse selection record.request.tenantId status response)
          match Json.lookup response "status" with
          | none => Capture.raise (.raised "KeyError")
          | some value =>
              if value ≠ .str "READY" then
                Capture.amendLast (·.marked "partial" "partial_data"
                  "Composite source retains unavailable financial evidence.")
              return dataset

/-- `_capture_selection`. -/
def captureSelection (selection : CompositeReportSelection) : Capture Json := do
  if services.hasPerformanceClient then
    let invocation ← authorizeTwrSend py co services record selection
    let answer ← Capture.perform
      (.getCompositeTwr selection.performanceRequest record.request.tenantId invocation)
    admitTwrAnswer services record selection answer
  else Capture.raise (.raised "AssertionError")

/-- The part of `_manage_read` behind the answer of the service. -/
def admitManageAnswer (endpoint : String) (binding : Option Fields)
    (contractVersion : String) : SourceAnswer → Capture Fields
  | .raised exception => do
      Capture.record (failureCall "lotus-manage" endpoint
        (if binding.isNone then "GET" else "POST") (.obj (binding.getD [])) exception)
      Capture.raise exception.error
  | .answered status response => do
      Capture.record {
        serviceName := "lotus-manage"
        endpoint := endpoint
        method := if binding.isNone then "GET" else "POST"
        contractVersion := contractVersion
        requestPayload := .obj (binding.getD [])
        responsePayload := some (.obj response)
        responseRef := Json.lookup response "content_hash"
        statusCode := status
        supportabilityStatus := "partial"
        completenessStatus := "partial"
        failureCategory := "partial_data"
        failureMessage :=
          if contractVersion = "composite-eligibility.exact-custody.v1" then
            some "Controlled eligibility source is not attested."
          else some "Controlled source custody is not attested." }
      if status ≠ 200 then
        Capture.raise (.evidenceRefused "COMPOSITE_ELIGIBILITY_SOURCE_UNAVAILABLE")
      else return response

/-- `_manage_read`. -/
def manageRead (endpoint : String) (binding : Option Fields)
    (contractVersion : String) : Capture Fields := do
  if services.hasManageClient then
    let answer ← Capture.perform (.readEligibility endpoint binding record.request.tenantId)
    admitManageAnswer endpoint binding contractVersion answer
  else
    Capture.record (failureCall "lotus-manage" endpoint
      (if binding.isNone then "GET" else "POST") (.obj (binding.getD [])) .other)
    Capture.raise (.evidenceRefused "COMPOSITE_MANAGE_READ_CLIENT_REQUIRED")

end Ports

section Operations

/-- `quote(text, safe="")`: every byte outside the unreserved characters is written in hex. -/
def quoteSegment (text : String) : String :=
  String.ofList (text.toUTF8.toList.flatMap fun byte =>
    let c := Char.ofNat byte.toNat
    if c.isAlphanum || c == '_' || c == '.' || c == '-' || c == '~' then [c]
    else ['%', (Nat.digitChar (byte.toNat / 16)).toUpper, (Nat.digitChar (byte.toNat % 16)).toUpper])

mutual

/-- The blanks that default separators add to the text of a value. -/
def separatorBlanks : Json → Nat
  | .arr items => (items.length - 1) + separatorBlanksItems items
  | .obj fields => (fields.length - 1) + fields.length + separatorBlanksFields fields
  | _ => 0

def separatorBlanksItems : List Json → Nat
  | [] => 0
  | j :: items => separatorBlanks j + separatorBlanksItems items

def separatorBlanksFields : Fields → Nat
  | [] => 0
  | (_, j) :: fields => separatorBlanks j + separatorBlanksFields fields

end

variable (py : Runtime) (co : Coercions) (services : CaptureServices) (record : JobFile)

/-- `_read_pooled`. -/
def readPooled (calculationId : String) : Capture Fields := do
  let endpoint := "/performance/composites/analytics/results/" ++ calculationId
  if services.hasPerformanceClient then
    let answer ← Capture.perform
      (.getRetainedCompositePooledResult calculationId record.request.tenantId)
    match answer with
    | .raised exception =>
        Capture.record (failureCall "lotus-performance" endpoint "GET" (.obj []) exception)
        Capture.raise exception.error
    | .answered status response =>
        Capture.record {
          serviceName := "lotus-performance"
          endpoint := endpoint
          method := "GET"
          contractVersion := "composite-pooled-mwr.v1"
          requestPayload := .obj []
          responsePayload := some (.obj response)
          responseRef := some (.str calculationId)
          statusCode := status
          supportabilityStatus := "partial"
          completenessStatus := "partial"
          failureCategory := "partial_data"
          failureMessage := some "Source authority is not attested." }
        if status ≠ 200 then
          Capture.raise (.evidenceRefused "COMPOSITE_REPORT_SOURCE_UNAVAILABLE")
        else return response
  else Capture.raise (.raised "AssertionError")

/-- The result that a corrected one replaced. -/
def readPredecessor : Option String → Capture (Option Fields)
  | none => pure none
  | some corrected => do
      let response ← readPooled services record corrected
      return some response

/-- `_capture_pooled`. -/
def capturePooled (selection : PooledAnalysisSelection) : Capture Json := do
  let payload ← readPooled services record selection.calculationId
  Capture.lift (services.admitPooledResponse selection record.request.tenantId payload)
  let predecessor ← readPredecessor services record selection.correctionOfCalculationId
  let sizes := (payload :: predecessor.toList).map fun response =>
    (Json.dumps false (.obj response)).utf8ByteSize + separatorBlanks (.obj response)
  if 8388608 < sizes.sum then
    Capture.raise (.evidenceRefused "COMPOSITE_POOLED_CAPTURE_CAPACITY_EXCEEDED")
  else
    Capture.lift (services.buildPooledDataset selection record.request.tenantId payload predecessor)

/-- `_capture_linked`. -/
def captureLinked (selection : LinkedAnalysisSelection) : Capture Json := do
  if services.hasPerformanceClient then
    let answer ← Capture.perform
      (.getCompositeAnalytics selection.performanceRequest record.request.tenantId)
    match answer with
    | .raised exception =>
        Capture.record (failureCall "lotus-performance" "/performance/composites/analytics" "POST"
          selection.performanceRequest exception)
        Capture.raise exception.error
    | .answered status response =>
        Capture.record (sourceCall "/performance/composites/analytics"
          "composite-linked.explicit-retained-selection.v1" selection.performanceRequest
          selection.calculationId status response)
        Capture.lift
          (services.buildLinkedDataset selection record.request.tenantId status response)
  else Capture.raise (.raised "AssertionError")

/-- The capacity of an eligibility capture. -/
def requireCapacity : Capture Unit := fun s =>
  if 8388608 < s.capturedBytes then
    .done (.error (.evidenceRefused "COMPOSITE_ELIGIBILITY_CAPTURE_CAPACITY_EXCEEDED", s))
  else .done (.ok ((), s))

/-- The inner `read` of `_capture_eligibility`. -/
def eligibilityRead (endpoint : String) (binding : Option Fields) :
    Capture Fields := do
  let response ← manageRead services record endpoint binding
    "composite-eligibility.exact-custody.v1"
  Capture.modify fun s => { s with
    capturedBytes := s.capturedBytes + (Json.dumps false (.obj response)).utf8ByteSize }
  requireCapacity
  return response

/-- The items of `universe.get("source_products", [])`. -/
def sourceProductItems (attested : Fields) :
    Except CaptureError (List Fields) :=
  match Json.lookup attested "source_products" with
  | none | some (.str "") | some (.obj []) => .ok []
  | some (.arr items) => items.mapM fun
      | .obj fields => .ok fields
      | _ => .error (.raised "AttributeError")
  | some (.str _) | some (.obj _) => .error (.raised "AttributeError")
  | some _ => .error (.raised "TypeError")

/-- The one approval that the attested universe of a published month locates, which must be the pinned
one. -/
def approvalLocator (pin : MonthPin) (approvalContentHash : String)
    (attested : Fields) : Except CaptureError Fields := do
  let items ← sourceProductItems attested
  let locators := items.filter fun item =>
    Json.lookup item "owner_service" == some (.str "lotus-manage") &&
      Json.lookup item "product_name" == some (.str "CompositeMonthlyEvaluationApproval")
  match locators with
  | [locator] =>
      let binding : Fields :=
        [ ("product_name", ← subscript (.obj locator) "product_name"),
          ("product_version", ← subscript (.obj locator) "contract_version"),
          ("revision", ← subscript (.obj locator) "source_watermark"),
          ("digest", ← subscript (.obj locator) "content_hash") ]
      if binding ≠
          [ ("product_name", .str "CompositeMonthlyEvaluationApproval"),
            ("product_version", .str pin.sourceVersion.text),
            ("revision", .str pin.evaluationRevision),
            ("digest", .str approvalContentHash) ] then
        .error (.evidenceRefused "COMPOSITE_ELIGIBILITY_APPROVAL_LOCATOR_CONFLICT")
      else .ok binding
  | _ => .error (.evidenceRefused "COMPOSITE_ELIGIBILITY_APPROVAL_LOCATOR_CONFLICT")

/-- `/api/v1/rebalance/composites`. -/
def compositesBase : String := "/api/v1/rebalance/composites"

/-- The path of a definition. -/
def definitionPath (compositeId definitionVersion : String) : String :=
  compositesBase ++ "/" ++ quoteSegment compositeId ++ "/definitions/" ++
    quoteSegment definitionVersion

/-- The evidence of the month itself. -/
def captureMonthEvidence (definition : String) (pin : MonthPin) :
    Capture Fields :=
  match pin.evidence with
  | .evaluatedOnly _ => do
      let proposal ← eligibilityRead services record
        (definition ++ "/monthly-eligibility/evaluations/" ++ quoteSegment pin.evaluationRevision)
        none
      return [("evidence_kind", .str "EVALUATED_ONLY"), ("proposal", .obj proposal)]
  | .published approvalContentHash _ _ membershipRevision _ _ attestationVersion _ _ _
      publicationSequence _ => do
      let memberPath := definition ++ "/membership/" ++ quoteSegment membershipRevision
      let member ← eligibilityRead services record memberPath none
      let attested ← eligibilityRead services record
        (memberPath ++ "/universe-attestations/" ++ quoteSegment attestationVersion) none
      Capture.lift (services.requireHash attested)
      let binding ← Capture.lift (approvalLocator pin approvalContentHash attested)
      let receipt ← eligibilityRead services record (definition ++ "/eligibility-evidence/resolve")
        (some binding)
      let parent ← eligibilityRead services record
        (definition ++ "/membership/" ++ quoteSegment pin.parentMembershipRevision) none
      let publication ← eligibilityRead services record
        (compositesBase ++ "/publications/" ++ toString publicationSequence) none
      return [("evidence_kind", .str "PUBLISHED"), ("membership", .obj member),
        ("universe", .obj attested), ("receipt", .obj receipt), ("parent_membership", .obj parent),
        ("publication", .obj publication)]

/-- `proposal_for_month`. -/
def proposalForMonth (month : Fields) : Except CaptureError Json := do
  if (← subscript (.obj month) "evidence_kind") = .str "PUBLISHED" then
    let receipt ← subscript (.obj month) "receipt"
    let approval ← subscript receipt "approval"
    subscript approval "proposal"
  else subscript (.obj month) "proposal"

/-- The publication that a published correction replaced. -/
def captureParentPublication (proposal : Json) : PinnedEvidence → Capture Fields
  | .evaluatedOnly _ => pure []
  | .published .. => do
      let amendment ← Capture.lift (subscript proposal "amendment")
      let sequence ← Capture.lift (subscript amendment "expected_current_publication_sequence")
      let publication ← eligibilityRead services record
        (compositesBase ++ "/publications/" ++ pyStr py sequence) none
      return [("parent_publication", Json.obj publication)]

/-- The parent publication and the lineage that a correction needs. -/
def captureLineage (definition : String) (pin : MonthPin) (receipts : List ReceiptPin)
    (month : Fields) : Capture Fields := do
  let proposal ← Capture.lift (proposalForMonth month)
  let parent ← captureParentPublication py services record proposal pin.evidence
  let lineage ← Capture.forEach (fun (prior : ReceiptPin) =>
      eligibilityRead services record (definition ++ "/eligibility-evidence/resolve")
        (some [ ("product_name", .str "CompositeMonthlyEvaluationApproval"),
          ("product_version", .str prior.productVersion.text),
          ("revision", .str prior.evaluationRevision),
          ("digest", .str prior.approvalContentHash) ]))
    receipts
  return month ++ parent ++ [("lineage_receipts", .arr (lineage.map Json.obj))]

/-- The month with its lineage; an original of the historical family states an empty one. -/
def withLineage (selection : EligibilitySelection) (definition : String) (pin : MonthPin)
    (month : Fields) : Capture Fields :=
  match pin.lineageReceipts, pin.evidence with
  | some receipts, _ => captureLineage py services record definition pin receipts month
  | none, evidence =>
      if selection.family = .historical then
        match evidence with
        | .published .. => pure (month ++ [("lineage_receipts", Json.arr []),
            ("parent_publication", Json.null)])
        | .evaluatedOnly _ => pure (month ++ [("lineage_receipts", Json.arr [])])
      else pure month

/-- One month of `_capture_eligibility`. -/
def captureMonth (selection : EligibilitySelection) (pin : MonthPin) : Capture Json := do
  let definition := definitionPath selection.compositeId selection.definitionVersion
  let month ← captureMonthEvidence services record definition pin
  let month ← withLineage py services record selection definition pin month
  let digests := month.filterMap fun f =>
    match f.2 with
    | .obj fields => some (f.1, Json.str (services.responseDigest (.obj fields)))
    | _ => none
  return .obj (month ++ [("response_digests", .obj digests)])

/-- `_capture_eligibility`. -/
def captureEligibility (selection : EligibilitySelection) : Capture Json := do
  if selection.family = .historical ∧ services.historicalPolicyEnabled = false then
    Capture.raise (.evidenceRefused "COMPOSITE_HISTORICAL_POLICY_RELEASE_NOT_ADMITTED")
  else
    let months ← Capture.forEach (captureMonth py services record selection) selection.months
    Capture.lift (services.monthlyDataset selection months)

/-- `_capture_source_context`. -/
def captureSourceContext (selection : CompositeReportSelection)
    (context : CompositeSourceContextSelection) (dataset : Json) : Capture Json := do
  let endpoint := definitionPath selection.compositeId context.definition.version
  let definition ← manageRead services record endpoint none "composite-definition.exact-custody.v1"
  let memberships ← Capture.forEach (fun (pin : CustodyPin) =>
      manageRead services record (endpoint ++ "/membership/" ++ quoteSegment pin.version) none
        "composite-membership.exact-custody.v1")
    context.memberships
  Capture.lift (services.projectSourceContext dataset context definition memberships)

end Operations

section Collect

variable (py : Runtime) (co : Coercions) (services : CaptureServices) (record : JobFile)

/-- The request that the options of the job state. -/
def captureRequest : Except CaptureError CompositeReviewJobRequest :=
  match CompositeReviewJobRequest.ofOptions co services.parsers record.request.options with
  | .ok request => .ok request
  | .error .refused => .error (.evidenceRefused "COMPOSITE_REPORT_SELECTION_INVALID")
  | .error .overflow => .error (.raised "OverflowError")

/-- The job is a composite review of the selected identity. -/
def requireJobIdentity (request : CompositeReviewJobRequest) : Except CaptureError Unit :=
  match request.primaryIdentity with
  | none => .error (.raised "AssertionError")
  | some (tenantId, compositeId, periodEnd, reportingCurrency) =>
      if record.job.reportType ≠ "composite_review" ∨ tenantId ≠ record.request.tenantId ∨
          Json.agrees (.obj record.request.portfolioScope)
            (.obj [("composite_id", .str compositeId)]) = false ∨
          record.request.asOfDate ≠ periodEnd.1.isoformat ∨
          record.request.reportingCurrency ≠ some reportingCurrency then
        .error (.evidenceRefused "COMPOSITE_REPORT_JOB_IDENTITY_MISMATCH")
      else .ok ()

/-- `_require_capture_contract`. -/
def requireCaptureContract (dataset : Json) : Except CaptureError Unit :=
  let accepted := match record.job.acceptedDocumentContract with
    | some (.obj contract) => Json.lookup contract "input_snapshot_contract_version"
    | _ => none
  match accepted with
  | none | some .null => .ok ()
  | some version => do
      let stated ← subscript dataset "contract_version"
      if version ≠ stated then
        .error (.evidenceRefused "COMPOSITE_REPORT_CAPTURE_CONTRACT_CONFLICT")
      else .ok ()

/-- The evidence of the primary operation. -/
def capturePrimary (request : CompositeReviewJobRequest) : Capture Json :=
  match request.pooledSelection, request.eligibilitySelection, request.linkedSelection,
      request.selection with
  | some pooled, _, _, _ => capturePooled services record pooled
  | none, some eligibility, _, _ => captureEligibility py services record eligibility
  | none, none, some linked, _ => captureLinked services record linked
  | none, none, none, some selection => do
      let binding ← Capture.lift (jobBinding co record)
      Capture.lift (request.requireAdmission py record.request.tenantId (some binding.admission))
      let dataset ← captureSelection py co services record selection
      Capture.lift (services.buildCompositeTables dataset)
  | none, none, none, none => Capture.raise (.raised "AssertionError")

/-- The evidence of one return product. -/
def captureProduct (product : ReturnProductSelection) : Capture Json := do
  let captured ← captureSelection py co services record product.selection
  Capture.lift (services.capturedReturnProduct product captured)

/-- The dataset with the tables of the products, if there are any. -/
def attachProducts (dataset : Json) (products : List Json) : Except CaptureError Json :=
  if products = [] then .ok dataset else services.buildProductTables dataset products

/-- The dataset with its source context, if one is selected. -/
def attachContext (request : CompositeReviewJobRequest) (dataset : Json) : Capture Json :=
  match request.sourceContext, request.selection with
  | none, _ => pure dataset
  | some context, some selection => captureSourceContext services record selection context dataset
  | some _, none => Capture.raise (.raised "AssertionError")

/-- The captured dataset with what belongs to it, checked against the contracts. -/
def completeDataset (request : CompositeReviewJobRequest) (dataset : Json) (products : List Json) :
    Capture Json := do
  let dataset ← Capture.lift (attachProducts services dataset products)
  let dataset ← attachContext services record request dataset
  Capture.lift (services.validateCompositeDataset dataset)
  Capture.lift (requireCaptureContract record dataset)
  return dataset

/-- The body of `collect_for_job`. -/
def collect : Capture Json := do
  let request ← Capture.lift (captureRequest co services record)
  Capture.lift (requireJobIdentity record request)
  let dataset ← capturePrimary py co services record request
  let products ← Capture.forEach (captureProduct py co services record)
    (request.sourceProducts.getD [])
  completeDataset services record request dataset products

/-- `PortfolioReviewInputCapture`. -/
structure InputCapture where
  snapshotPayload : Json
  upstreamCalls : List RecordedUpstreamCall

/-- `PortfolioReviewInputCaptureError`. -/
structure InputCaptureError where
  originalError : CaptureError
  upstreamCalls : List RecordedUpstreamCall

/-- The recorded calls of a failed capture: a response that was refused is no success, unless
authority or transport failed. -/
def failedCalls (error : CaptureError) (calls : List RecordedUpstreamCall) :
    List RecordedUpstreamCall :=
  match error, calls.getLast? with
  | .authorityRefused _, _ | .retryable, _ | _, none => calls
  | _, some last =>
      if last.responsePayload.isNone then calls
      else calls.dropLast ++ [last.marked "error" "upstream_error"
        "Pinned composite source evidence failed admission."]

/-- `CompositeInputProvider.collect_for_job`. -/
def collectForJob : Program CaptureCall CaptureCall.Answer (Except InputCaptureError InputCapture) :=
  (collect py co services record {}).bind fun
    | .ok (dataset, s) => .done (.ok ⟨dataset, s.upstreamCalls⟩)
    | .error (error, s) => .done (.error ⟨error, failedCalls error s.upstreamCalls⟩)

end Collect

end LotusReport.Composite
