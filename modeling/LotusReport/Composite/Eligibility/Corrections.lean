import LotusReport.Composite.Eligibility.Admission

/-!
# Admission of corrected months

A corrected month retains the receipts of its predecessors, from the latest
to the original. Amendments correct original months of the first version with
proposals of the second; historical corrections do the same with the versions
three and four. Both walk the receipts and check each link to the next.
-/

namespace LotusReport.Composite.Eligibility

open Encoding

section Bindings

/-- `approval_binding`. -/
def approvalBinding (approval : Json) : Except CaptureError Json := do
  return .obj
    [ ("product_name", .str "CompositeMonthlyEvaluationApproval"),
      ("product_version", ← subscript approval "product_version"),
      ("revision", ← readAt approval ["proposal", "evaluation_revision"]),
      ("digest", ← subscript approval "content_hash") ]

/-- `receipt_binding`. -/
def receiptBinding (receipt : Json) : Except CaptureError Json := do
  return .obj
    [ ("product_name", .str "CompositeMonthlyEligibilityPublicationReceipt"),
      ("product_version", ← subscript receipt "product_version"),
      ("revision", ← readAt receipt ["approval", "proposal", "evaluation_revision"]),
      ("digest", ← subscript receipt "content_hash") ]

/-- `refuse`. -/
def refuse (condition : Except CaptureError Bool) (code : String) : Except CaptureError Unit :=
  refuseIf condition ("COMPOSITE_AMENDMENT_" ++ code)

end Bindings

section PriorSelection

variable (lib : SourceLibrary) (selection : EligibilitySelection)

/-- `^[0-9]\x7b4\x7d-(?:0[1-9]|1[0-2])$`. -/
def isMonthText (text : String) : Bool :=
  match text.toList with
  | [y₁, y₂, y₃, y₄, '-', m₁, m₂] =>
      [y₁, y₂, y₃, y₄].all Char.isDigit &&
        ((m₁ = '0' && '1' ≤ m₂ && m₂ ≤ '9') || (m₁ = '1' && '0' ≤ m₂ && m₂ ≤ '2'))
  | _ => false

/-- `EvaluatedEligibilityPin`. -/
def evaluatedEligibilityPin : Schema := .object false
  [ field "evidence_kind" (.literal ["EVALUATED_ONLY"]),
    field "month" (.text isMonthText),
    field "evaluation_revision" identifier,
    field "proposal_content_hash" digest,
    field "proposal_response_digest" digest,
    field "parent_membership_revision" identifier,
    field "parent_membership_content_hash" digest,
    field "source_cut_id" identifier ]

/-- `int(text)`. -/
def intOf (text : String) : Except CaptureError Int :=
  match lib.parseInt text with
  | some n => .ok n
  | none => .error (.raised "ValueError")

/-- `calendar.monthrange(int(month[:4]), int(month[5:]))[1]`; leap years repeat after four
centuries. -/
def lastDayOf (month : String) : Except CaptureError Nat := do
  let year ← intOf lib (clip 4 month)
  let number ← intOf lib (String.ofList (month.toList.drop 5))
  if 1 ≤ number ∧ number ≤ 12 then .ok (daysInMonth (year % 400).toNat number.toNat)
  else .error (.raised "ValueError")

/-- A date that the validating library converts. -/
def convertedDate (text : String) : Except CaptureError Date :=
  match lib.coercions.date (.str text) with
  | some date => .ok date
  | none => .error (.raised "ValidationError")

/-- `EligibilitySelection.model_validate` of one evaluated month: the selection of a proposal
that a receipt retains. -/
def priorSelection (proposal : Json) : Except CaptureError (EligibilitySelection × MonthPin) := do
  let month ← textOf (← readAt proposal ["evaluation", "month"])
  let lastDay ← lastDayOf lib month
  let revision ← subscript proposal "evaluation_revision"
  let contentHash ← subscript proposal "content_hash"
  let sourceCut ← readAt proposal ["observations", "source_cut_id"]
  let parentRevision ← subscript proposal "parent_membership_revision"
  let parentHash ← subscript proposal "parent_membership_content_hash"
  let responseDigest := lib.responseDigest proposal
  lib.validate evaluatedEligibilityPin (.obj
    [ ("evidence_kind", .str "EVALUATED_ONLY"), ("month", .str month),
      ("evaluation_revision", revision), ("proposal_content_hash", contentHash),
      ("proposal_response_digest", .str responseDigest), ("source_cut_id", sourceCut),
      ("parent_membership_revision", parentRevision),
      ("parent_membership_content_hash", parentHash) ])
  let periodStart ← convertedDate lib (month ++ "-01")
  let periodEnd ← convertedDate lib (month ++ "-" ++ toString lastDay)
  let valid := isIdentifier selection.tenantId && isIdentifier selection.compositeId &&
    isIdentifier selection.definitionVersion && isCurrency selection.reportingCurrency &&
    !periodEnd.1.before periodStart.1 && lib.yearMonth periodStart == month &&
    lib.yearMonth periodEnd == month && periodStart.1.day == 1 &&
    periodEnd.1.day == daysInMonth periodEnd.1.year periodEnd.1.month
  if valid then
    let pin : MonthPin :=
      { sourceVersion := .v1
        month
        evaluationRevision := ← textOf revision
        proposalContentHash := ← textOf contentHash
        parentMembershipRevision := ← textOf parentRevision
        parentMembershipContentHash := ← textOf parentHash
        sourceCutId := ← textOf sourceCut
        evidence := .evaluatedOnly responseDigest
        lineageReceipts := none
        parentPublicationResponseDigest := none }
    return ({ selection with family := .original, periodStart, periodEnd, months := [pin] }, pin)
  else .error (.raised "ValidationError")

end PriorSelection

section Links

variable (lib : SourceLibrary)

/-- Two of the tuples are equal. -/
def hasRepeated : List (List Json) → Bool
  | [] => false
  | item :: items => items.any (lib.eqAll item) || hasRepeated items

/-- The claim of a correction names the approval and the receipt of its predecessor, and the
approval of the original. -/
def authorityConflict (claim predecessor original : Json) : Except CaptureError Bool :=
  firstTrue
    [ lib.differ (subscript claim "predecessor_approval_binding")
        (do approvalBinding (← subscript predecessor "approval")),
      lib.differ (subscript claim "expected_authority_binding")
        (subscript claim "predecessor_approval_binding"),
      lib.differ (subscript claim "predecessor_receipt_binding") (receiptBinding predecessor),
      lib.differ (subscript claim "original_approval_binding")
        (do approvalBinding (← subscript original "approval")) ]

/-- The claim of a correction continues the publication of its predecessor. -/
def cascadeConflict (claim predecessor : Json) : Except CaptureError Bool :=
  firstTrue
    [ lib.differ (subscript claim "projection_parent_membership_binding")
        (subscript predecessor "membership_binding"),
      lib.differ (subscript claim "expected_current_publication_sequence")
        (subscript predecessor "publication_sequence") ]

/-- The correction was proposed before its predecessor was approved. -/
def clockConflict (proposal predecessor : Json) : Except CaptureError Bool := do
  let proposedAt ← lib.datetimeOf (← subscript proposal "proposed_at")
  proposedAt.before (← lib.datetimeOf (← readAt predecessor ["approval", "approved_at"]))

/-- The stated evidence of a correction: a reason, and bindings that differ. -/
def requireStatedEvidence (claim : Json) : Except CaptureError Unit := do
  match ← subscript claim "reason" with
    | .str reason => refuse (.ok (strip reason == "")) "REASON_REQUIRED"
    | _ => .error (.raised "AttributeError")
  let identities ← (← itemsOf (← subscript claim "evidence_bindings")).mapM fun item =>
    [subscript item "product_name", subscript item "product_version", subscript item "revision"].mapM id
  if identities.all fun identity => identity.all isHashable then
    refuse (.ok (hasRepeated lib identities)) "AMBIGUOUS_EVIDENCE"
  else .error (.raised "TypeError")

/-- The revision of a correction is neither that of its predecessor nor of the original. -/
def requireOwnRevision (proposal prior original : Json) : Except CaptureError Unit :=
  refuse
    (do
      let revision ← subscript proposal "evaluation_revision"
      let used ← setOf [← subscript prior "evaluation_revision",
        ← readAt original ["approval", "proposal", "evaluation_revision"]]
      return lib.isIn revision used)
    "REVISION_REUSED"

/-- The correction affects its whole month, which is the month of its predecessor. -/
def requireWindow (proposal claim prior : Json) : Except CaptureError Unit := do
  let month ← readAt proposal ["evaluation", "month"]
  let bounds ← monthBounds (← textOf month)
  refuse
    (firstTrue
      [ lib.differAll [subscript claim "affected_from", subscript claim "affected_to"]
          [given bounds.1.isoformat, given bounds.2.isoformat],
        lib.differ (readAt prior ["evaluation", "month"]) (.ok month) ])
    "WINDOW_CONFLICT"

/-- The claim of a correction names the membership that its proposal names as parent. -/
def requireParentBinding (proposal claim : Json) : Except CaptureError Unit :=
  refuse
    (lib.differ (subscript claim "projection_parent_membership_binding")
      (do
        let revision ← subscript proposal "parent_membership_revision"
        let digest ← subscript proposal "parent_membership_content_hash"
        return productBinding "CompositeMembership" revision digest))
    "PARENT_BINDING_CONFLICT"

/-- A correction keeps the policy and the population, and changes the observations. -/
def requireSourceCorrection (proposal prior : Json) : Except CaptureError Unit := do
  refuse (lib.differ (subscript proposal "policy_approval") (subscript prior "policy_approval"))
    "POLICY_CHANGE_UNSUPPORTED"
  refuse
    (lib.differ (readAt proposal ["universe", "expected_portfolio_ids"])
      (readAt prior ["universe", "expected_portfolio_ids"]))
    "POPULATION_CHANGE_UNSUPPORTED"
  let old ← subscript prior "observations"
  let new ← subscript proposal "observations"
  refuse
    (allTrue
      [ lib.same (subscript old "source_cut_id") (subscript new "source_cut_id"),
        lib.same (subscript old "source_revision") (subscript new "source_revision"),
        lib.same (subscript old "portfolios") (subscript new "portfolios") ])
    "SOURCE_UNCHANGED"

/-- The proposal of a correction is valid in its version. -/
def validateCorrection (proposal : Json) (version : String) : Except CaptureError Unit :=
  if version = "v4" then validateProduct lib proposal else lib.validate amendmentProposal proposal

/-- `require_link`. -/
def requireLink (proposal predecessor original : Json) (version : String) :
    Except CaptureError Unit := do
  validateCorrection lib proposal version
  let claim ← subscript proposal "amendment"
  let prior ← readAt predecessor ["approval", "proposal"]
  refuse (authorityConflict lib claim predecessor original) "AUTHORITY_BINDING_CONFLICT"
  requireOwnRevision lib proposal prior original
  requireWindow lib proposal claim prior
  requireParentBinding lib proposal claim
  refuse (cascadeConflict lib claim predecessor) "CASCADE_UNSUPPORTED"
  requireStatedEvidence lib claim
  requireSourceCorrection lib proposal prior
  refuse (clockConflict lib proposal predecessor) "CLOCK_CONFLICT"

/-- The decision about an evaluated portfolio is the one that its evaluation states. -/
def requireProjectedDecision (month evaluation : Json) (observations decisions : List (Json × Json))
    (result : Json) : Except CaptureError Unit := do
  let status ← subscript result "status"
  let assessments ← itemsOf (← subscript result "assessments")
  let reasons ← assessments.mapM fun assessment => do
    itemsOf (← subscript assessment
      (if lib.eq status (.str "EXCLUDED") then "failure_reasons" else "unknown_reasons"))
  let expectedReason :=
    if lib.eq status (.str "INCLUDED") then .null else reasons.flatten.head?.getD .null
  let portfolio ← subscript result "portfolio_id"
  refuse
    (match findKey lib portfolio decisions with
      | none => .ok true
      | some decision =>
          lib.differAll
            [ subscript decision "status", subscript decision "reason_code",
              subscript decision "discretionary", subscript decision "approval_ref",
              subscript decision "source_snapshot_id" ]
            [ .ok status, .ok expectedReason,
              match findKey lib portfolio observations with
                | some row => subscript row "discretionary"
                | none => .error (.raised "KeyError"),
              readAt month ["receipt", "approval", "claims_digest"],
              subscript evaluation "content_hash" ])
    "PROJECTED_DECISION_CONFLICT"

/-- `require_projected_decisions`. -/
def requireProjectedDecisions (month proposal : Json) : Except CaptureError Unit := do
  let evaluation ← subscript proposal "evaluation"
  let observations ← rowsBy lib "portfolio_id" .ok []
    (← itemsOf (← readAt proposal ["observations", "portfolios"]))
  let affected ← (← itemsOf (← readAt month ["membership", "decisions"])).filterM fun row =>
    allTrue
      [ lib.same (subscript row "effective_from") (readAt proposal ["amendment", "affected_from"]),
        lib.same (subscript row "effective_to") (readAt proposal ["amendment", "affected_to"]) ]
  let decisions ← rowsBy lib "portfolio_id" .ok [] affected
  (← itemsOf (← subscript evaluation "portfolios")).forM
    (requireProjectedDecision lib month evaluation observations decisions)

end Links

section Amendments

variable (lib : SourceLibrary) (selection : EligibilitySelection)

/-- `require_receipt`. -/
def requireReceipt (receipt : Json) : Except CaptureError Unit := do
  let version ← getItem receipt "product_version"
  let isAmendment := lib.eq version (.str "v2")
  lib.validate (if isAmendment then amendmentReceipt else eligibilityReceipt) receipt
  let approval ← subscript receipt "approval"
  let proposal ← subscript approval "proposal"
  let definition ← subscript receipt "definition"
  refuse
    (firstTrue
      [ lib.differ (getItem definition "product_name") (given "CompositeDefinition"),
        do return !(lib.isIn (← getItem definition "product_version") [.str "v1", .str "v2"]) ])
    "DEFINITION_VERSION_CONFLICT"
  requireScope lib selection definition
  refuse (lib.differ (subscript definition "reporting_currency") (given selection.reportingCurrency))
    "CURRENCY_CONFLICT"
  lib.requireHash (lib.eq (← subscript definition "product_version") (.str "v1")) definition
  [receipt, approval, proposal].forM (lib.requireHash false)
  refuse
    (lib.differ (subscript receipt "source_cut_id") (readAt proposal ["universe", "source_cut_id"]))
    "SOURCE_CUT_CONFLICT"
  let membershipBinding := productBinding "CompositeMembership"
    (← subscript proposal "target_membership_revision")
    (← subscript approval "membership_content_hash")
  let universeBinding := productBinding "CompositeUniverseAttestation"
    (← subscript proposal "evaluation_revision")
    (← subscript approval "published_universe_content_hash")
  refuse (lib.differ (subscript receipt "membership_binding") (.ok membershipBinding))
    "RECEIPT_BINDING_CONFLICT"
  refuse (lib.differ (subscript receipt "universe_binding") (.ok universeBinding))
    "RECEIPT_BINDING_CONFLICT"
  let prior ← priorSelection lib selection proposal
  requireProposal lib prior.1 prior.2 proposal (if isAmendment then "v2" else "v1")
  refuse (lacksPublicationEvidence lib proposal) "PUBLICATION_EVIDENCE_UNAVAILABLE"
  if isAmendment then
    refuse (lib.differ (subscript receipt "lineage") (subscript proposal "amendment"))
      "RECEIPT_LINEAGE_CONFLICT"
    refuse
      (do
        let sequence ← subscript receipt "publication_sequence"
        lib.atMost sequence
          (← readAt proposal ["amendment", "expected_current_publication_sequence"]))
      "PUBLICATION_SEQUENCE_CONFLICT"

/-- The identity of a retained receipt is the one that its pin states. -/
def pinConflict (expected : ReceiptPin) (receipt approval revision : Json) :
    Except CaptureError Bool :=
  lib.differAll
    [ subscript receipt "product_version", .ok revision, subscript approval "content_hash",
      subscript receipt "content_hash", given (lib.responseDigest receipt) ]
    [ given expected.productVersion.text, given expected.evaluationRevision,
      given expected.approvalContentHash, given expected.receiptContentHash,
      given expected.receiptResponseDigest ]

/-- The first loop over the receipts of an amended month. -/
def requireRetained : List Json → List (ReceiptPin × Json) → Except CaptureError Unit
  | _, [] => .ok ()
  | seen, (expected, receipt) :: rest => do
      requireReceipt lib selection receipt
      let approval ← subscript receipt "approval"
      let revision ← readAt approval ["proposal", "evaluation_revision"]
      refuse (.ok (lib.isIn revision seen)) "LINEAGE_CYCLE"
      refuse (pinConflict lib expected receipt approval revision) "LINEAGE_PIN_CONFLICT"
      requireRetained (revision :: seen) rest

/-- The second loop over the receipts of an amended month: the proposal it ends at. -/
def requireLinks (original : Json) : Json → List Json → Except CaptureError Json
  | current, [] => .ok current
  | current, receipt :: receipts => do
      requireLink lib current receipt original "v2"
      requireLinks original (← readAt receipt ["approval", "proposal"]) receipts

/-- `items[-1]`. -/
def lastOf (items : List Json) : Except CaptureError Json :=
  match items.getLast? with
  | some item => .ok item
  | none => .error (.raised "IndexError")

/-- The pinned receipts of a month. -/
def lineagePins (pin : MonthPin) : Except CaptureError (List ReceiptPin) :=
  match pin.lineageReceipts with
  | some receipts => .ok receipts
  | none => .error (.raised "AttributeError")

/-- The checks on an amended month that was published. -/
def requireAmendedPublication (month proposal : Json) (receipts : List Json) :
    Except CaptureError Unit := do
  let receipt ← subscript month "receipt"
  requireReceipt lib selection receipt
  refuse
    (firstTrue (receipts.map fun item =>
      lib.differ (subscript item "definition") (subscript receipt "definition")))
    "DEFINITION_CONFLICT"
  let parent ← subscript month "parent_membership"
  let publication ← subscript month "parent_publication"
  requireScope lib selection publication
  refuse
    (lib.differAll
      [ subscript publication "sequence", subscript publication "membership_revision",
        subscript publication "membership_content_hash" ]
      [ readAt proposal ["amendment", "expected_current_publication_sequence"],
        subscript parent "membership_revision", subscript parent "content_hash" ])
    "PARENT_PUBLICATION_CONFLICT"
  refuse
    (do
      lib.atMost (← subscript receipt "publication_sequence") (← subscript publication "sequence"))
    "PUBLICATION_SEQUENCE_CONFLICT"
  requireProjectedDecisions lib month proposal

/-- One month of `require_amendment_months`. -/
def requireAmendmentMonth (pin : MonthPin) (month : Json) : Except CaptureError Unit := do
  let proposal ← proposalForMonth lib month
  let receipts ← itemsOf (← subscript month "lineage_receipts")
  let pins ← lineagePins pin
  refuse (.ok (receipts.length != pins.length)) "LINEAGE_POPULATION_CONFLICT"
  requireRetained lib selection [← subscript proposal "evaluation_revision"] (pins.zip receipts)
  let original ← lastOf receipts
  refuse (lib.differ (subscript original "product_version") (given "v1")) "ORDINARY_ROOT_REQUIRED"
  let root ← requireLinks lib original proposal receipts
  refuse (lib.differ (subscript root "product_version") (given "v1")) "INCOMPLETE_LINEAGE"
  if lib.eq (← subscript month "evidence_kind") (.str "PUBLISHED") then
    requireAmendedPublication lib selection month proposal receipts

/-- `require_amendment_months`. -/
def requireAmendmentMonths (months : List Json) : Except CaptureError Unit := do
  requireSourceMonths lib selection months "v2"
  (selection.months.zip months).forM fun pair => requireAmendmentMonth lib selection pair.1 pair.2

end Amendments

section Historical

variable (lib : SourceLibrary) (selection : EligibilitySelection)

/-- `require_retained_receipt`. -/
def requireRetainedReceipt (receipt : Json) : Except CaptureError Unit := do
  validateProduct lib receipt
  let approval ← subscript receipt "approval"
  let proposal ← subscript approval "proposal"
  let version ← subscript receipt "product_version"
  require (allTrue
    [ lib.same (.ok version) (subscript approval "product_version"),
      lib.same (subscript approval "product_version") (subscript proposal "product_version") ])
  validateProduct lib approval
  require (lib.differ (subscript approval "approved_by") (subscript proposal "proposed_by"))
  let approvedAt ← instant lib (← subscript approval "approved_at")
  let proposedAt ← instant lib (← subscript proposal "proposed_at")
  require (.ok (decide (proposedAt.microseconds ≤ approvedAt.microseconds)))
  requireOperation lib approval proposal "EVALUATION_APPROVAL"
  let definition ← subscript receipt "definition"
  require (allTrue
    [ lib.same (getItem definition "product_name") (given "CompositeDefinition"),
      do
        let found ← setOf [← getItem definition "product_version"]
        return found.all fun version => lib.isIn version [.str "v1", .str "v2"] ])
  requireScope lib selection definition
  require (lib.same (subscript definition "reporting_currency") (given selection.reportingCurrency))
  lib.requireHash (lib.eq (← subscript definition "product_version") (.str "v1")) definition
  let prior ← priorSelection lib selection proposal
  requireProposal lib prior.1 prior.2 proposal (← textOf version)
  let membershipBinding := productBinding "CompositeMembership"
    (← subscript proposal "target_membership_revision")
    (← subscript approval "membership_content_hash")
  let universeBinding := productBinding "CompositeUniverseAttestation"
    (← subscript proposal "evaluation_revision")
    (← subscript approval "published_universe_content_hash")
  require (lib.same (subscript receipt "membership_binding") (.ok membershipBinding))
  require (lib.same (subscript receipt "universe_binding") (.ok universeBinding))
  require (lib.same (subscript receipt "source_cut_id")
    (readAt proposal ["universe", "source_cut_id"]))
  if lib.eq version (.str "v4") then
    require (lib.same (subscript receipt "lineage") (subscript proposal "amendment"))
    require (do
      let sequence ← subscript receipt "publication_sequence"
      lib.greater sequence
        (← readAt proposal ["amendment", "expected_current_publication_sequence"]))

/-- The loop over the receipts of a corrected historical month: the proposal it ends at. -/
def requireHistoricalLinks (original : Json) :
    List Json → Json → List (ReceiptPin × Json) → Except CaptureError Json
  | _, current, [] => .ok current
  | seen, current, (expected, receipt) :: rest => do
      requireRetainedReceipt lib selection receipt
      let approval ← subscript receipt "approval"
      let revision ← readAt approval ["proposal", "evaluation_revision"]
      require (.ok !(lib.isIn revision seen))
      require (negated (pinConflict lib expected receipt approval revision))
      require (lib.same (subscript current "product_version") (given "v4"))
      requireLink lib current receipt original "v4"
      requireHistoricalLinks original (revision :: seen) (← readAt receipt ["approval", "proposal"])
        rest

/-- The checks on a corrected historical month that was published. -/
def requireCorrectedPublication (pin : MonthPin) (month proposal : Json) (receipts : List Json) :
    Except CaptureError Unit := do
  let parent ← subscript month "parent_publication"
  requireScope lib selection parent
  require (lib.same (subscript parent "sequence")
    (readAt proposal ["amendment", "expected_current_publication_sequence"]))
  require (negated (lib.differAll
    [subscript parent "membership_revision", subscript parent "membership_content_hash"]
    [given pin.parentMembershipRevision, given pin.parentMembershipContentHash]))
  require (allTrue (receipts.map fun row =>
    lib.same (subscript row "definition") (readAt month ["receipt", "definition"])))
  requireProjectedDecisions lib month proposal

/-- The lineage of a corrected historical month. -/
def requireHistoricalLineage (pin : MonthPin) (month proposal : Json) (receipts : List Json) :
    Except CaptureError Unit := do
  let pins ← lineagePins pin
  require (.ok (receipts.length == pins.length))
  let original ← lastOf receipts
  require (lib.same (subscript original "product_version") (given "v3"))
  let root ← requireHistoricalLinks lib selection original
    [← subscript proposal "evaluation_revision"] proposal (pins.zip receipts)
  require (lib.same (subscript root "product_version") (given "v3"))
  if isPublished pin.evidence then
    requireCorrectedPublication lib selection pin month proposal receipts

/-- The receipts that a historical month retains: none for an original. -/
def requireRetainedLineage (pin : MonthPin) (month proposal : Json) (receipts : List Json) :
    Except CaptureError Unit :=
  if pin.sourceVersion = .v3 then
    require (allTrue
      [ .ok receipts.isEmpty,
        do return (← getItem month "parent_publication") = .null ])
  else requireHistoricalLineage lib selection pin month proposal receipts

/-- One month of `require_months`. -/
def requireMonth (pin : MonthPin) (month : Json) : Except CaptureError Unit := do
  requireSourceMonths lib { selection with months := [pin] } [month] pin.sourceVersion.text
  let proposal ← proposalForMonth lib month
  let receipts ← itemsOf (← subscript month "lineage_receipts")
  requireRetainedLineage lib selection pin month proposal receipts
  if isPublished pin.evidence then
    requireRetainedReceipt lib selection (← subscript month "receipt")

/-- `require_months`. -/
def requireMonths (months : List Json) : Except CaptureError Unit := do
  require (.ok (selection.months.length == months.length))
  (selection.months.zip months).forM fun pair => requireMonth lib selection pair.1 pair.2

end Historical

end LotusReport.Composite.Eligibility
