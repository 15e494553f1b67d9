import LotusReport.Composite.Request
import LotusReport.Encoding.Schema

/-!
# The shapes of eligibility evidence

The transport models of monthly evaluations, approvals and receipts, of
memberships, universes and publications, and of the months that hold them.
Source models keep additional fields; months and bindings forbid them.
-/

namespace LotusReport.Composite.Eligibility

open Encoding

/-- A required field. -/
def field (name : String) (shape : Schema) : String × Bool × Schema := (name, true, shape)

/-- `Identifier`. -/
def identifier : Schema := .text isIdentifier

/-- `Digest`. -/
def digest : Schema := .text isDigest

/-- `str`. -/
def anyText : Schema := .text fun _ => true

/-- `dict[str, Any]`. -/
def anyDict : Schema := .mapping 0 .any

/-- `dict[str, str]`. -/
def textDict : Schema := .mapping 0 anyText

section Evaluation

/-- `EligibilityAssessment`. -/
def eligibilityAssessment : Schema := .object true
  [ field "rule" (.literal ["SIGNIFICANT_FLOW", "CASH", "READINESS"]),
    field "outcome" (.literal ["PASS", "FAIL", "UNKNOWN"]),
    field "failure_reasons" (.list 0 none anyText),
    field "unknown_reasons" (.list 0 none anyText),
    field "numerator" (.nullable .decimal),
    field "denominator" (.nullable .decimal),
    field "ratio" (.nullable .decimal),
    field "gross_inflow" (.nullable .decimal),
    field "gross_outflow" (.nullable .decimal),
    field "admitted_flow_count" (.nullable (.int (some 0) (some 250))) ]

/-- The three decisions about a portfolio. -/
def decisionStatus : Schema := .literal ["INCLUDED", "EXCLUDED", "PENDING_REVIEW"]

/-- `EligibilityMember`. -/
def eligibilityMember : Schema := .object true
  [ field "portfolio_id" identifier,
    field "observations_present" .bool,
    field "status" decisionStatus,
    field "assessments" (.list 3 (some 3) eligibilityAssessment) ]

/-- A count of at most a thousand portfolios. -/
def portfolioCount (least : Int) : Schema := .int (some least) (some 1000)

/-- `EligibilityEvaluation`. -/
def eligibilityEvaluation : Schema := .object true
  [ field "product_name" (.literal ["CompositeMonthlyEligibilityEvaluation"]),
    field "product_version" (.literal ["v1"]),
    field "evidence_class" (.literal ["SYNTHETIC_UNQUALIFIED", "SOURCE_UNVERIFIED"]),
    field "official_activation" (.literal ["UNAVAILABLE"]),
    field "population_verification" (.literal ["UNVERIFIED"]),
    field "tenant_id" identifier,
    field "composite_id" identifier,
    field "definition_version" identifier,
    field "month" anyText,
    field "source_cut_id" identifier,
    field "source_revision" identifier,
    field "evaluated_at" anyText,
    field "input_content_hash" digest,
    field "universe_content_hash" digest,
    field "resolved_policy" anyDict,
    field "declared_universe_coverage" (.literal ["COMPLETE", "INCOMPLETE"]),
    field "expected_count" (portfolioCount 1),
    field "observed_count" (portfolioCount 0),
    field "included_count" (portfolioCount 0),
    field "excluded_count" (portfolioCount 0),
    field "pending_review_count" (portfolioCount 0),
    field "portfolios" (.list 1 (some 1000) eligibilityMember),
    field "content_hash" digest ]

/-- `EligibilityPolicy`. -/
def eligibilityPolicy : Schema := .object true
  [ field "product_name" (.literal ["CompositeMonthlyEligibilityPolicy"]),
    field "product_version" (.literal ["v1"]),
    field "profile_kind" (.literal ["SYNTHETIC_MONTHLY_ABS_NET_CASH_READINESS"]),
    field "official_activation" (.literal ["UNAVAILABLE"]),
    field "month" anyText,
    field "scope" anyDict,
    field "layers" (.list 1 (some 5) anyDict),
    field "flow_threshold" .decimal,
    field "cash_threshold" .decimal,
    field "membership_frequency" (.literal ["CALENDAR_MONTH"]),
    field "flow_measure" (.literal ["ABS_NET"]),
    field "flow_denominator" (.literal ["PRIOR_MONTH_END_NET_ASSETS"]),
    field "flow_breach_operator" (.literal ["GREATER_THAN_OR_EQUAL"]),
    field "cash_denominator" (.literal ["MONTH_END_NET_ASSETS"]),
    field "cash_numerator" (.literal ["SETTLED_UNENCUMBERED_CASH_ONLY"]),
    field "cash_breach_operator" (.literal ["GREATER_THAN"]),
    field "ratio_unit" (.literal ["DECIMAL_FRACTION"]),
    field "flow_date_basis" (.literal ["SOURCE_BUSINESS_DATE_UTC"]),
    field "holiday_treatment" (.literal ["NO_DATE_SHIFT"]),
    field "currency_treatment" (.literal ["SOURCE_NORMALIZED_SINGLE_CURRENCY"]),
    field "observation_window" (.literal ["WHOLE_TARGET_MONTH"]),
    field "evaluation_timing" (.literal ["AFTER_MONTH_END"]),
    field "source_cut_timing" (.literal ["AFTER_MONTH_END"]),
    field "missing_data" (.literal ["REQUIRED_UNKNOWN"]),
    field "reentry" (.literal ["REEVALUATE_ALL_NEXT_MONTH_RULES"]),
    field "content_hash" digest ]

/-- `EligibilityObservationMember`. -/
def eligibilityObservationMember : Schema := .object true
  [ field "portfolio_id" identifier,
    field "currency" (.text isCurrency),
    field "prior_month_end_assets" (.nullable .decimal),
    field "prior_assets_as_of" (.nullable anyText),
    field "month_end_assets" (.nullable .decimal),
    field "settled_unencumbered_cash" (.nullable .decimal),
    field "cash_as_of" (.nullable anyText),
    field "discretionary" (.nullable .bool),
    field "funded" (.nullable .bool),
    field "invested" (.nullable .bool),
    field "readiness_as_of" (.nullable anyText),
    field "flow_coverage_from" (.nullable anyText),
    field "flow_coverage_to" (.nullable anyText),
    field "flows" (.list 0 (some 250) anyDict) ]

/-- `EligibilityObservations`. -/
def eligibilityObservations : Schema := .object true
  [ field "product_name" (.literal ["CompositeMonthlyEligibilityObservations"]),
    field "product_version" (.literal ["v1"]),
    field "evidence_class" (.literal ["SYNTHETIC_UNQUALIFIED", "SOURCE_UNVERIFIED"]),
    field "tenant_id" identifier,
    field "composite_id" identifier,
    field "definition_version" identifier,
    field "month" anyText,
    field "source_cut_id" identifier,
    field "source_revision" identifier,
    field "reporting_currency" (.text isCurrency),
    field "source_generated_at" anyText,
    field "expected_portfolio_ids" (.list 1 (some 1000) identifier),
    field "portfolios" (.list 0 (some 1000) eligibilityObservationMember) ]

end Evaluation

section Products

/-- The fields that proposals of the versions one and two share. -/
def proposalFields (version : String) : List (String × Bool × Schema) :=
  [ field "product_name" (.literal ["CompositeMonthlyEvaluationProposal"]),
    field "product_version" (.literal [version]),
    field "evaluation_revision" identifier,
    field "target_membership_revision" identifier,
    field "parent_membership_revision" identifier,
    field "parent_membership_content_hash" digest,
    field "policy_approval" anyDict,
    field "universe" anyDict,
    field "observations" anyDict,
    field "evaluation" eligibilityEvaluation,
    field "proposed_by" identifier,
    field "proposed_at" anyText,
    field "correlation_id" identifier,
    field "content_hash" digest ]

/-- The fields of an approval around its proposal. -/
def approvalFields (version : String) (proposal : Schema) : List (String × Bool × Schema) :=
  [ field "product_name" (.literal ["CompositeMonthlyEvaluationApproval"]),
    field "product_version" (.literal [version]),
    field "evidence_kind" (.literal ["SYNTHETIC_UNSIGNED"]),
    field "official_activation" (.literal ["UNAVAILABLE"]),
    field "proposal" proposal,
    field "approved_by" identifier,
    field "approved_at" anyText,
    field "claims_digest" digest,
    field "membership_content_hash" digest,
    field "published_universe_content_hash" digest,
    field "content_hash" digest ]

/-- The fields of a receipt around its approval. -/
def receiptFields (version : String) (approval : Schema) : List (String × Bool × Schema) :=
  [ field "product_name" (.literal ["CompositeMonthlyEligibilityPublicationReceipt"]),
    field "product_version" (.literal [version]),
    field "definition" anyDict,
    field "approval" approval,
    field "membership_binding" textDict,
    field "universe_binding" textDict,
    field "source_cut_id" identifier,
    field "publication_sequence" (.int (some 1) none),
    field "completeness" (.literal ["UNVERIFIED"]),
    field "content_hash" digest ]

/-- `EligibilityProposal`. -/
def eligibilityProposal : Schema := .object true (proposalFields "v1")

/-- `EligibilityApproval`. -/
def eligibilityApproval : Schema := .object true (approvalFields "v1" eligibilityProposal)

/-- `EligibilityReceipt`. -/
def eligibilityReceipt : Schema := .object true (receiptFields "v1" eligibilityApproval)

/-- `MonthlyBinding`. -/
def monthlyBinding : Schema := .object false
  [ field "product_name" (.literal ["CompositeMonthlyEvaluationApproval",
      "CompositeMonthlyEligibilityPublicationReceipt", "CompositeMembership"]),
    field "product_version" (.literal ["v1", "v2"]),
    field "revision" identifier,
    field "digest" digest ]

/-- `AmendmentEvidenceBinding`. -/
def amendmentEvidenceBinding : Schema := .object false
  [ field "product_name" identifier,
    field "product_version" (.literal ["v1"]),
    field "revision" identifier,
    field "digest" digest ]

/-- `MonthlyAmendment`. -/
def monthlyAmendment : Schema := .object false
  [ field "correction_kind" (.literal ["SOURCE_CORRECTION"]),
    field "predecessor_approval_binding" monthlyBinding,
    field "predecessor_receipt_binding" monthlyBinding,
    field "original_approval_binding" monthlyBinding,
    field "expected_authority_binding" monthlyBinding,
    field "projection_parent_membership_binding" monthlyBinding,
    field "expected_current_publication_sequence" (.int (some 1) none),
    field "affected_from" .date,
    field "affected_to" .date,
    field "reason_code" identifier,
    field "reason" (.text (lengthWithin 1 2048)),
    field "evidence_bindings" (.list 1 (some 32) amendmentEvidenceBinding) ]

/-- `AmendmentProposal`. -/
def amendmentProposal : Schema := .object true (proposalFields "v2" ++
  [ field "amendment" monthlyAmendment,
    field "publication_evidence_version" (.literal ["v1"]),
    field "source_assembly_evidence" (.mapping 1 .any) ])

/-- `AmendmentApproval`. -/
def amendmentApproval : Schema := .object true (approvalFields "v2" amendmentProposal)

/-- `AmendmentReceipt`. -/
def amendmentReceipt : Schema := .object true
  (receiptFields "v2" amendmentApproval ++ [field "lineage" monthlyAmendment])

end Products

section Publication

/-- `MembershipDecision`. -/
def membershipDecision : Schema := .object true
  [ field "portfolio_id" identifier,
    field "effective_from" anyText,
    field "effective_to" (.nullable anyText),
    field "status" decisionStatus,
    field "reason_code" (.nullable anyText),
    field "discretionary" .bool,
    field "approval_ref" (.nullable anyText),
    field "source_snapshot_id" identifier ]

/-- `EligibilityMembership`. -/
def eligibilityMembership : Schema := .object true
  [ field "product_name" (.literal ["CompositeMembership"]),
    field "product_version" (.literal ["v1"]),
    field "tenant_id" identifier,
    field "composite_id" identifier,
    field "definition_version" identifier,
    field "membership_revision" identifier,
    field "policy_version" identifier,
    field "source_cut_id" identifier,
    field "decisions" (.list 1 none membershipDecision),
    field "decided_at" anyText,
    field "decided_by" identifier,
    field "correlation_id" identifier,
    field "supersedes_membership_revision" (.nullable anyText),
    field "affected_from" (.nullable anyText),
    field "affected_to" (.nullable anyText),
    field "content_hash" digest ]

/-- `EligibilityUniverse`. -/
def eligibilityUniverse : Schema := .object true
  [ field "product_name" (.literal ["CompositeUniverseAttestation"]),
    field "product_version" (.literal ["v1"]),
    field "tenant_id" identifier,
    field "composite_id" identifier,
    field "definition_version" identifier,
    field "membership_revision" identifier,
    field "membership_content_hash" digest,
    field "attestation_version" identifier,
    field "coverage_from" anyText,
    field "coverage_to" anyText,
    field "policy_version" identifier,
    field "source_cut_id" identifier,
    field "source_products" (.list 1 none anyDict),
    field "posture" (.literal ["COMPLETE", "INCOMPLETE", "UNAVAILABLE"]),
    field "expected_portfolio_ids" (.list 0 none identifier),
    field "expected_portfolio_count" (.int (some 0) none),
    field "observed_portfolio_count" (.int (some 0) none),
    field "missing_portfolio_ids" (.list 0 none identifier),
    field "unexpected_portfolio_ids" (.list 0 none identifier),
    field "coverage_gap_portfolio_ids" (.list 0 none identifier),
    field "reason_code" (.nullable anyText),
    field "attested_at" anyText,
    field "attested_by" identifier,
    field "correlation_id" identifier,
    field "content_hash" digest ]

/-- `EligibilityPublication`. -/
def eligibilityPublication : Schema := .object true
  [ field "product_name" (.literal ["CompositeMembershipPublication"]),
    field "product_version" (.literal ["v1"]),
    field "tenant_id" identifier,
    field "composite_id" identifier,
    field "definition_version" identifier,
    field "sequence" (.int (some 1) none),
    field "membership_revision" identifier,
    field "membership_content_hash" digest,
    field "policy_version" identifier,
    field "source_cut_id" identifier,
    field "decision_count" (.int (some 1) none),
    field "supersedes_membership_revision" (.nullable anyText),
    field "affected_from" (.nullable anyText),
    field "affected_to" (.nullable anyText),
    field "decided_at" anyText,
    field "published_at" anyText,
    field "completeness" (.literal ["UNVERIFIED"]) ]

end Publication

section Months

/-- The fields of a month that is only evaluated, or published. -/
def monthFields (published : Bool) : List (String × Bool × Schema) :=
  if published then
    [ field "evidence_kind" (.literal ["PUBLISHED"]),
      field "receipt" anyDict,
      field "membership" anyDict,
      field "universe" anyDict,
      field "parent_membership" anyDict,
      field "publication" anyDict,
      field "response_digests" (.mapping 0 digest) ]
  else
    [ field "evidence_kind" (.literal ["EVALUATED_ONLY"]),
      field "proposal" anyDict,
      field "response_digests" (.mapping 0 digest) ]

/-- `EvaluatedSourceMonth` and `PublishedSourceMonth`. -/
def sourceMonth (published : Bool) : Schema := .object false (monthFields published)

/-- `AmendmentEvaluatedMonth` and `AmendmentPublishedMonth`. -/
def amendmentMonth (published : Bool) : Schema := .object false (monthFields published ++
  field "lineage_receipts" (.list 1 (some 31) anyDict) ::
    if published then [field "parent_publication" anyDict] else [])

/-- `HistoricalEvaluatedMonth` and `HistoricalPublishedMonth`. -/
def historicalMonth (published : Bool) : Schema := .object false (monthFields published ++
  ("lineage_receipts", false, .list 0 (some 31) anyDict) ::
    if published then [("parent_publication", false, .nullable anyDict)] else [])

end Months

end LotusReport.Composite.Eligibility
