import LotusReport.Composite.Eligibility.Source

/-!
# Admission of monthly evidence

The structural checks on a month: the evaluated population and its counts, the
scope, the hashes and the bindings of a proposal, and for a published month
the joins between its receipt, memberships, attestation and publication.
-/

namespace LotusReport.Composite.Eligibility

open Encoding

section Rows

variable (lib : SourceLibrary)

/-- `rows[key] = value` in a dictionary. -/
def insertKey (key value : Json) : List (Json × Json) → List (Json × Json)
  | [] => [(key, value)]
  | entry :: entries =>
      if lib.eq entry.1 key then (entry.1, value) :: entries
      else entry :: insertKey key value entries

/-- The value of a key in a dictionary. -/
def findKey (key : Json) (entries : List (Json × Json)) : Option Json :=
  (entries.find? fun entry => lib.eq entry.1 key).map (·.2)

/-- `\x7brow[key]: value(row) for row in rows\x7d`. -/
def rowsBy (key : String) (value : Json → Except CaptureError Json) :
    List (Json × Json) → List Json → Except CaptureError (List (Json × Json))
  | entries, [] => .ok entries
  | entries, row :: rows => do
      let name ← subscript row key
      let found ← value row
      if isHashable name then rowsBy key value (insertKey lib name found entries) rows
      else .error (.raised "TypeError")

/-- `==` on dictionaries. -/
def sameEntries (xs ys : List (Json × Json)) : Bool :=
  xs.length == ys.length &&
    xs.all fun entry => (findKey lib entry.1 ys).any fun value => lib.eq entry.2 value

/-- The date of a field. -/
def dateAt (row : Json) (key : String) : Except CaptureError CalendarDate := do
  dateOf (← subscript row key)

end Rows

section Proposal

variable (lib : SourceLibrary) (selection : EligibilitySelection)

/-- `_require_scope`. -/
def requireScope (payload : Json) : Except CaptureError Unit :=
  refuseIf
    (firstTrue
      [ lib.differ (getItem payload "tenant_id") (given selection.tenantId),
        lib.differ (getItem payload "composite_id") (given selection.compositeId),
        lib.differ (getItem payload "definition_version") (given selection.definitionVersion) ])
    "COMPOSITE_ELIGIBILITY_SOURCE_SCOPE_CONFLICT"

/-- The versions of a root and a correction with recorded proofs. -/
def isHistorical (version : String) : Bool := ["v3", "v4"].contains version

/-- `_evaluation_for_version`: the evaluation of a valid proposal. -/
def evaluationForVersion (proposal : Json) (version : String) : Except CaptureError Json := do
  if isHistorical version then
    validateProduct lib proposal
    let evaluation ← subscript proposal "evaluation"
    lib.validate eligibilityEvaluation evaluation
    return evaluation
  else
    lib.validate (if version = "v2" then amendmentProposal else eligibilityProposal) proposal
    subscript proposal "evaluation"

/-- Rows of one portfolio are equal. -/
def requireOneObservation : List (Json × Json) → List Json → Except CaptureError Unit
  | _, [] => .ok ()
  | found, row :: rows => do
      let name ← subscript row "portfolio_id"
      refuseIf (.ok ((findKey lib name found).any fun old => !lib.eq old row))
        "COMPOSITE_ELIGIBILITY_OBSERVATION_DUPLICATE_CONFLICT"
      requireOneObservation (insertKey lib name row found) rows

/-- The counts that an evaluation states about its rows. -/
def populationCounts (rows : List Json) : Except CaptureError (List (String × Nat)) := do
  let present ← rows.mapM (subscript · "observations_present")
  let statuses ← rows.mapM (subscript · "status")
  return [
    ("expected_count", rows.length),
    ("observed_count", present.countP fun value => value = .bool true),
    ("included_count", statuses.countP fun value => value = .str "INCLUDED"),
    ("excluded_count", statuses.countP fun value => value = .str "EXCLUDED"),
    ("pending_review_count", statuses.countP fun value => value = .str "PENDING_REVIEW") ]

/-- The rules of an evaluated portfolio stand in their order. -/
def requireAssessments (row : Json) : Except CaptureError Unit := do
  let rules ← (← itemsOf (← subscript row "assessments")).mapM (subscript · "rule")
  refuseIf (.ok !(lib.eqAll rules [.str "SIGNIFICANT_FLOW", .str "CASH", .str "READINESS"]))
    "COMPOSITE_ELIGIBILITY_ASSESSMENT_SET_CONFLICT"

/-- `_require_population`. -/
def requirePopulation (proposal : Json) (version : String) : Except CaptureError Unit := do
  let evaluation ← evaluationForVersion lib proposal version
  let rows ← itemsOf (← subscript evaluation "portfolios")
  let ids ← rows.mapM fun row => do textOf (← subscript row "portfolio_id")
  let expected ← readAt proposal ["universe", "expected_portfolio_ids"]
  let observations ← itemsOf (← readAt proposal ["observations", "portfolios"])
  let observed ← setOf (← observations.mapM (subscript · "portfolio_id"))
  requireOneObservation lib [] observations
  refuseIf
    (firstTrue
      ((do
          let portfolios ← setOf (← itemsOf expected)
          return !(observed.all fun id => lib.isIn id portfolios)) ::
        rows.map fun row => do
          let id ← subscript row "portfolio_id"
          lib.differ (subscript row "observations_present") (.ok (.bool (lib.isIn id observed)))))
    "COMPOSITE_ELIGIBILITY_OBSERVATION_POPULATION_CONFLICT"
  let portfolios := Json.arr (ids.map .str)
  refuseIf
    (firstTrue
      [ .ok (decide (ids ≠ sortedSet ids)),
        lib.differ (.ok portfolios) (.ok expected),
        lib.differ (.ok portfolios) (readAt proposal ["observations", "expected_portfolio_ids"]) ])
    "COMPOSITE_ELIGIBILITY_POPULATION_CONFLICT"
  let counts ← populationCounts rows
  refuseIf
    (firstTrue (counts.map fun count =>
      lib.differ (subscript evaluation count.1) (.ok (.int count.2))))
    "COMPOSITE_ELIGIBILITY_POPULATION_COUNT_CONFLICT"
  rows.forM (requireAssessments lib)

/-- `_require_observation_locator`. -/
def requireObservationLocator (proposal : Json) : Except CaptureError Unit := do
  let locators ← itemsOf (← readAt proposal ["universe", "source_products"])
  let products ← locators.filterM fun item =>
    allTrue
      [ lib.same (getItem item "product_name") (given "CompositeMonthlyEligibilityObservations"),
        lib.same (getItem item "contract_version") (given "v1"),
        lib.same (getItem item "authority_scope") (given "POLICY_INPUT") ]
  let observations ← subscript proposal "observations"
  refuseIf
    (match products with
      | [product] =>
          lib.differAll
            [ getItem product "source_cut_id", getItem product "source_watermark",
              getItem product "content_hash" ]
            [ subscript observations "source_cut_id", subscript observations "source_revision",
              (lib.sourceHash false observations).map .str ]
      | _ => .ok true)
    "COMPOSITE_ELIGIBILITY_OBSERVATION_LOCATOR_CONFLICT"

/-- `_require_policy`. -/
def requirePolicy (month : String) (proposal : Json) : Except CaptureError Unit := do
  let approval ← subscript proposal "policy_approval"
  let policyProposal ← subscript approval "proposal"
  let policy ← subscript policyProposal "policy"
  lib.validate eligibilityPolicy policy
  [approval, policyProposal, policy].forM (lib.requireHash false)
  requireScope lib selection (← subscript policy "scope")
  refuseIf
    (firstTrue
      [ lib.differ (getItem approval "product_name") (given "CompositeMonthlyPolicyApproval"),
        lib.differ (getItem approval "evidence_kind") (given "SYNTHETIC_UNSIGNED"),
        lib.differ (getItem approval "official_activation") (given "UNAVAILABLE"),
        lib.differ (getItem policy "month") (given month),
        lib.differ (.ok policy) (readAt proposal ["evaluation", "resolved_policy"]) ])
    "COMPOSITE_ELIGIBILITY_POLICY_BINDING_CONFLICT"
  refuseIf
    (firstTrue
      [ lib.differ (getItem approval "product_version") (given "v1"),
        lib.differ (getItem policyProposal "product_version") (given "v1") ])
    "COMPOSITE_ELIGIBILITY_POLICY_BINDING_CONFLICT"
  requireObservationLocator lib proposal

/-- The policy checks of a version. -/
def requirePolicyFor (version month : String) (proposal : Json) : Except CaptureError Unit := do
  if isHistorical version then
    requireHistoricalPolicy lib selection month proposal
    requireObservationLocator lib proposal
  else requirePolicy lib selection month proposal

variable (pin : MonthPin)

/-- The bindings of a proposal to the pin of its month and to its own parts. -/
def requireProposalBindings (proposal evaluation attestation observations : Json) :
    Except CaptureError Unit := do
  let bounds ← monthBounds pin.month
  refuseIf
    (firstTrue
      [ do return bounds.1.before (← dateAt attestation "coverage_from"),
        do return (← dateAt attestation "coverage_to").before bounds.2 ])
    "COMPOSITE_ELIGIBILITY_UNIVERSE_WINDOW_CONFLICT"
  refuseIf
    (firstTrue
      [ lib.differ (subscript proposal "evaluation_revision") (given pin.evaluationRevision),
        lib.differ (subscript proposal "parent_membership_revision")
          (given pin.parentMembershipRevision),
        lib.differ (subscript proposal "parent_membership_content_hash")
          (given pin.parentMembershipContentHash),
        lib.differ (subscript proposal "content_hash") (given pin.proposalContentHash) ])
    "COMPOSITE_ELIGIBILITY_PROPOSAL_PIN_CONFLICT"
  refuseIf
    (firstTrue
      [ lib.differ (subscript evaluation "month") (given pin.month),
        lib.differ (subscript observations "month") (given pin.month),
        lib.differ (subscript observations "reporting_currency")
          (given selection.reportingCurrency) ])
    "COMPOSITE_ELIGIBILITY_MONTH_CURRENCY_CONFLICT"
  refuseIf
    (firstTrue
      [ lib.differAll
          [subscript attestation "membership_revision", subscript attestation "membership_content_hash"]
          [given pin.parentMembershipRevision, given pin.parentMembershipContentHash],
        lib.differ (subscript evaluation "universe_content_hash")
          (subscript attestation "content_hash"),
        -- the hash that the observations state is replaced before it is left out
        lib.differ (subscript evaluation "input_content_hash")
          ((lib.sourceHash false observations).map .str) ])
    "COMPOSITE_ELIGIBILITY_INPUT_BINDING_CONFLICT"

/-- `_require_proposal`. -/
def requireProposal (proposal : Json) (version : String) : Except CaptureError Unit := do
  requirePopulation lib proposal version
  lib.validate eligibilityObservations (← subscript proposal "observations")
  lib.requireHash false proposal
  let evaluation ← subscript proposal "evaluation"
  let attestation ← subscript proposal "universe"
  let observations ← subscript proposal "observations"
  [evaluation, attestation, observations].forM (requireScope lib selection)
  [evaluation, observations].forM fun product =>
    refuseIf (lib.differ (getItem product "source_cut_id") (given pin.sourceCutId))
      "COMPOSITE_ELIGIBILITY_SOURCE_CUT_CONFLICT"
  lib.requireHash false evaluation
  lib.requireHash true attestation
  lib.validate eligibilityUniverse attestation
  requirePolicyFor lib selection version pin.month proposal
  requireProposalBindings lib selection pin proposal evaluation attestation observations

end Proposal

section Publication

variable (lib : SourceLibrary) (selection : EligibilitySelection)

/-- `_require_history_intervals`. -/
def requireHistoryIntervals :
    List (Json × CalendarDate × CalendarDate) → List Json → Except CaptureError Unit
  | _, [] => .ok ()
  | prior, decision :: decisions => do
      let start ← dateAt decision "effective_from"
      let stop ← match ← subscript decision "effective_to" with
        | .null => .ok ⟨9999, 12, 31⟩
        | value => dateOf value
      let name ← subscript decision "portfolio_id"
      refuseIf
        (.ok (stop.before start || prior.any fun old =>
          lib.eq old.1 name && !old.2.2.before start && !stop.before old.2.1))
        "COMPOSITE_ELIGIBILITY_HISTORY_INTERVAL_CONFLICT"
      requireHistoryIntervals ((name, start, stop) :: prior) decisions

/-- The decision covers a day between two dates. -/
def overlaps (first last : CalendarDate) (row : Json) : Except CaptureError Bool := do
  if last.before (← dateAt row "effective_from") then return false
  match ← subscript row "effective_to" with
    | .null => return true
    | value => return !(← dateOf value).before first

/-- `_require_published_population`. -/
def requirePublishedPopulation (month : String) (member attestation proposal : Json) :
    Except CaptureError Unit := do
  let rows ← itemsOf (← readAt proposal ["evaluation", "portfolios"])
  let evaluated ← rowsBy lib "portfolio_id" (subscript · "status") [] rows
  let bounds ← monthBounds month
  let decisions ← itemsOf (← subscript member "decisions")
  let selected ← decisions.filterM (overlaps bounds.1 bounds.2)
  refuseIf
    (firstTrue
      [ .ok (selected.length != evaluated.length),
        do
          let statuses ← rowsBy lib "portfolio_id" (subscript · "status") [] selected
          return !(sameEntries lib statuses evaluated) ])
    "COMPOSITE_ELIGIBILITY_PUBLISHED_POPULATION_CONFLICT"
  let ids ← evaluated.mapM fun entry => textOf entry.1
  refuseIf
    (firstTrue
      [ lib.differ (subscript attestation "expected_portfolio_ids")
          (.ok (.arr ((sortedTexts ids).map .str))),
        lib.differ (subscript attestation "expected_portfolio_count")
          (.ok (.int evaluated.length)) ])
    "COMPOSITE_ELIGIBILITY_PUBLISHED_POPULATION_CONFLICT"

/-- The fields of a membership that its publication repeats. -/
def publishedFields : List (String × String) :=
  [ ("membership_revision", "membership_revision"),
    ("membership_content_hash", "content_hash"),
    ("source_cut_id", "source_cut_id"),
    ("policy_version", "policy_version"),
    ("supersedes_membership_revision", "supersedes_membership_revision"),
    ("affected_from", "affected_from"),
    ("affected_to", "affected_to"),
    ("decided_at", "decided_at") ]

/-- `_require_published_joins`. -/
def requirePublishedJoins (pin : MonthPin) (sequence : Int) (month : Json) :
    Except CaptureError Unit := do
  let member ← subscript month "membership"
  let attestation ← subscript month "universe"
  let publication ← subscript month "publication"
  let receipt ← subscript month "receipt"
  requireScope lib selection publication
  let approval ← subscript receipt "approval"
  let proposal ← subscript approval "proposal"
  requirePublishedPopulation lib pin.month member attestation proposal
  refuseIf
    (firstTrue
      [ lib.differ (subscript member "source_cut_id")
          (readAt proposal ["universe", "source_cut_id"]),
        lib.differ (subscript attestation "source_cut_id") (subscript member "source_cut_id") ])
    "COMPOSITE_ELIGIBILITY_PUBLICATION_CUT_CONFLICT"
  refuseIf
    (firstTrue
      [ lib.differ (subscript approval "membership_content_hash") (subscript member "content_hash"),
        lib.differ (subscript approval "published_universe_content_hash")
          (subscript attestation "content_hash"),
        lib.differ (subscript proposal "target_membership_revision")
          (subscript member "membership_revision"),
        lib.differ (subscript member "supersedes_membership_revision")
          (given pin.parentMembershipRevision),
        lib.differ (readAt receipt ["definition", "reporting_currency"])
          (given selection.reportingCurrency) ])
    "COMPOSITE_ELIGIBILITY_PUBLICATION_JOIN_CONFLICT"
  publishedFields.forM fun names =>
    refuseIf (lib.differ (subscript publication names.1) (subscript member names.2))
      "COMPOSITE_ELIGIBILITY_PUBLICATION_JOIN_CONFLICT"
  refuseIf
    (firstTrue
      [ lib.differ (subscript publication "sequence") (.ok (.int sequence)),
        do
          let decisions ← itemsOf (← subscript member "decisions")
          lib.differ (subscript publication "decision_count") (.ok (.int decisions.length)) ])
    "COMPOSITE_ELIGIBILITY_PUBLICATION_JOIN_CONFLICT"

/-- A proposal that carries no evidence of its publication. -/
def lacksPublicationEvidence (proposal : Json) : Except CaptureError Bool :=
  firstTrue
    [ lib.differ (getItem proposal "publication_evidence_version") (given "v1"),
      do return !(← getItem proposal "source_assembly_evidence").truthy ]

/-- `_require_canonical_products`. -/
def requireCanonicalProducts (pin : MonthPin) (approvalContentHash membershipRevision
    membershipContentHash attestationVersion universeContentHash : String) (month : Json)
    (version : String) : Except CaptureError Unit := do
  let member ← subscript month "membership"
  let attestation ← subscript month "universe"
  let parent ← subscript month "parent_membership"
  let receipt ← subscript month "receipt"
  refuseIf
    (lib.differAll
      [ subscript member "membership_revision", subscript member "content_hash",
        subscript parent "membership_revision", subscript parent "content_hash",
        subscript attestation "attestation_version", subscript attestation "content_hash",
        subscript attestation "membership_revision", subscript attestation "membership_content_hash" ]
      [ given membershipRevision, given membershipContentHash,
        given pin.parentMembershipRevision, given pin.parentMembershipContentHash,
        given attestationVersion, given universeContentHash,
        given membershipRevision, given membershipContentHash ])
    "COMPOSITE_ELIGIBILITY_CANONICAL_PIN_CONFLICT"
  let proposal ← readAt receipt ["approval", "proposal"]
  refuseIf (lacksPublicationEvidence lib proposal)
    "COMPOSITE_ELIGIBILITY_PUBLICATION_EVIDENCE_UNAVAILABLE"
  let locators ← (← itemsOf (← subscript attestation "source_products")).filterM fun item =>
    allTrue
      [ lib.same (getItem item "owner_service") (given "lotus-manage"),
        lib.same (getItem item "product_name") (given "CompositeMonthlyEvaluationApproval") ]
  refuseIf
    (match locators with
      | [locator] =>
          lib.differAll
            [ getItem locator "contract_version", getItem locator "source_watermark",
              getItem locator "content_hash" ]
            [given version, given pin.evaluationRevision, given approvalContentHash]
      | _ => .ok true)
    "COMPOSITE_ELIGIBILITY_APPROVAL_LOCATOR_CONFLICT"

/-- The binding of a canonical product of the first version. -/
def productBinding (name : String) (revision digest : Json) : Json :=
  .obj [ ("product_name", .str name), ("product_version", .str "v1"),
    ("revision", revision), ("digest", digest) ]

/-- The shape of a receipt of a version, and the proof of its approval. -/
def requireReceiptProduct (receipt : Json) (version : String) : Except CaptureError Unit := do
  if isHistorical version then
    validateProduct lib receipt
    let approval ← subscript receipt "approval"
    requireOperation lib approval (← subscript approval "proposal") "EVALUATION_APPROVAL"
  else lib.validate (if version = "v2" then amendmentReceipt else eligibilityReceipt) receipt

/-- `_require_publication`, for a month whose pin is that of a published one. -/
def requirePublication (pin : MonthPin) (month : Json) (version : String) :
    Except CaptureError Unit :=
  match pin.evidence with
  | .evaluatedOnly _ => .ok ()
  | .published approvalContentHash receiptContentHash _ membershipRevision membershipContentHash _
      attestationVersion universeContentHash _ _ publicationSequence _ => do
      let receipt ← subscript month "receipt"
      let member ← subscript month "membership"
      let attestation ← subscript month "universe"
      let parent ← subscript month "parent_membership"
      refuseIf
        (lib.differAll
          [ getItem receipt "product_name", getItem receipt "product_version",
            getItem receipt "completeness" ]
          [ given "CompositeMonthlyEligibilityPublicationReceipt", given version,
            given "UNVERIFIED" ])
        "COMPOSITE_ELIGIBILITY_RECEIPT_PRODUCT_CONFLICT"
      lib.requireHash false receipt
      requireReceiptProduct lib receipt version
      let approval ← subscript receipt "approval"
      lib.requireHash false approval
      refuseIf
        (lib.differAll
          [ getItem approval "product_name", getItem approval "product_version",
            getItem approval "evidence_kind", getItem approval "official_activation" ]
          [ given "CompositeMonthlyEvaluationApproval", given version,
            given "SYNTHETIC_UNSIGNED", given "UNAVAILABLE" ])
        "COMPOSITE_ELIGIBILITY_APPROVAL_PRODUCT_CONFLICT"
      [member, attestation, parent].forM fun product => do
        requireScope lib selection product
        lib.requireHash true product
      let definition ← subscript receipt "definition"
      requireScope lib selection definition
      lib.requireHash (lib.eq (← getItem definition "product_version") (.str "v1")) definition
      lib.validate eligibilityMembership member
      lib.validate eligibilityMembership parent
      requireHistoryIntervals lib [] (← itemsOf (← subscript member "decisions"))
      requireHistoryIntervals lib [] (← itemsOf (← subscript parent "decisions"))
      lib.validate eligibilityUniverse attestation
      lib.validate eligibilityPublication (← subscript month "publication")
      refuseIf
        (lib.differ (subscript receipt "membership_binding")
          (.ok (productBinding "CompositeMembership" (.str membershipRevision)
            (.str membershipContentHash))))
        "COMPOSITE_ELIGIBILITY_PUBLICATION_BINDING_CONFLICT"
      refuseIf
        (lib.differ (subscript receipt "universe_binding")
          (.ok (productBinding "CompositeUniverseAttestation" (.str attestationVersion)
            (.str universeContentHash))))
        "COMPOSITE_ELIGIBILITY_PUBLICATION_BINDING_CONFLICT"
      refuseIf
        (lib.differAll
          [ subscript receipt "content_hash", subscript approval "content_hash",
            subscript receipt "source_cut_id", subscript receipt "publication_sequence" ]
          [ given receiptContentHash, given approvalContentHash,
            readAt approval ["proposal", "universe", "source_cut_id"],
            .ok (.int publicationSequence) ])
        "COMPOSITE_ELIGIBILITY_RECEIPT_PIN_CONFLICT"
      requireCanonicalProducts lib pin approvalContentHash membershipRevision
        membershipContentHash attestationVersion universeContentHash month version
      requirePublishedJoins lib selection pin publicationSequence month

end Publication

section Months

variable (lib : SourceLibrary) (selection : EligibilitySelection)

/-- The evidence was published. -/
def isPublished : PinnedEvidence → Bool
  | .published .. => true
  | .evaluatedOnly _ => false

/-- `evidence_kind`. -/
def evidenceKind (evidence : PinnedEvidence) : String :=
  if isPublished evidence then "PUBLISHED" else "EVALUATED_ONLY"

/-- `proposal_for_month`, without the place of the proposal. -/
def proposalForMonth (month : Json) : Except CaptureError Json := do
  if lib.eq (← subscript month "evidence_kind") (.str "PUBLISHED") then
    readAt month ["receipt", "approval", "proposal"]
  else subscript month "proposal"

/-- The model of a month of a version. -/
def monthShape (version : String) (published : Bool) : Schema :=
  if isHistorical version then historicalMonth published
  else if version = "v2" then amendmentMonth published
  else sourceMonth published

/-- The products of a month that were read, each with the digest that its pin states. -/
def capturedProducts (pin : MonthPin) (version : String) : List (String × Option String) :=
  match pin.evidence with
  | .evaluatedOnly proposalResponseDigest => [("proposal", some proposalResponseDigest)]
  | .published _ _ receiptResponseDigest _ _ membershipResponseDigest _ _ universeResponseDigest
      parentResponseDigest _ publicationResponseDigest =>
      [ ("receipt", some receiptResponseDigest),
        ("membership", some membershipResponseDigest),
        ("universe", some universeResponseDigest),
        ("parent_membership", some parentResponseDigest),
        ("publication", some publicationResponseDigest) ] ++
      if ["v2", "v4"].contains version then
        [("parent_publication", pin.parentPublicationResponseDigest)]
      else []

/-- A product has the digest that its pin and its month state. -/
def requireCaptured (month : Json) (product : String × Option String) :
    Except CaptureError Unit :=
  match product.2 with
  | none => .error (.raised "AttributeError")
  | some expected =>
      refuseIf
        (firstTrue
          [ do return lib.responseDigest (← subscript month product.1) != expected,
            lib.differ (readAt month ["response_digests", product.1]) (given expected) ])
        "COMPOSITE_ELIGIBILITY_CAPTURE_DIGEST_CONFLICT"

/-- One month of `require_source_months`. -/
def requireSourceMonth (version : String) (pin : MonthPin) (month : Json) :
    Except CaptureError Unit := do
  refuseIf (lib.differ (given (evidenceKind pin.evidence)) (getItem month "evidence_kind"))
    "COMPOSITE_ELIGIBILITY_EVIDENCE_KIND_CONFLICT"
  lib.validate (monthShape version (isPublished pin.evidence)) month
  requireProposal lib selection pin (← proposalForMonth lib month) version
  let products := capturedProducts pin version
  let digests ← itemsOf (← subscript month "response_digests")
  refuseIf
    (.ok !(products.all (fun product => lib.isIn (.str product.1) digests) &&
      digests.all fun key => lib.isIn key (products.map fun product => .str product.1)))
    "COMPOSITE_ELIGIBILITY_CAPTURE_DIGEST_SET_CONFLICT"
  products.forM (requireCaptured lib month)
  requirePublication lib selection pin month version

/-- `require_source_months`. -/
def requireSourceMonths (months : List Json) (version : String) : Except CaptureError Unit := do
  refuseIf (.ok (months.length != selection.months.length))
    "COMPOSITE_ELIGIBILITY_MONTH_POPULATION_CONFLICT"
  (selection.months.zip months).forM fun pair =>
    requireSourceMonth lib selection version pair.1 pair.2

end Months

end LotusReport.Composite.Eligibility
