import LotusReport.Composite.Documents
import LotusReport.Composite.Eligibility.Contract
import LotusReport.Encoding.Text

/-!
# Normalised historical evidence

The monthly products of the versions three and four carry recorded proofs.
Each product must conform to its published schema and state its own hash, and
each proof is bound to the operation, the actor and the time it was given for.
-/

namespace LotusReport.Composite.Eligibility

open Encoding

section Products

variable (lib : SourceLibrary)

/-- `require`. -/
def require (condition : Except CaptureError Bool) : Except CaptureError Unit :=
  refuseIf (negated condition) "COMPOSITE_HISTORICAL_SOURCE_BINDING_CONFLICT"

/-- The versions of each product that have a schema. -/
def allowedVersions : List (String × List String) :=
  [ ("CompositeMonthlyPolicyProposal", ["v2"]),
    ("CompositeMonthlyPolicyApproval", ["v2"]),
    ("CompositeMonthlyEvaluationProposal", ["v3", "v4"]),
    ("CompositeMonthlyEvaluationApproval", ["v3", "v4"]),
    ("CompositeMonthlyEligibilityPublicationReceipt", ["v3", "v4"]) ]

/-- `product_schema`: the name and the version whose schema is read. -/
def productSchema (name version : Json) : Except CaptureError (String × String) :=
  match name, version with
  | .str name, .str version =>
      if allowedVersions.any fun row => row.1 = name && row.2.contains version then
        .ok (name, version)
      else .error (.evidenceRefused "COMPOSITE_HISTORICAL_SOURCE_BINDING_CONFLICT")
  | name, version =>
      if isHashable name && isHashable version then
        .error (.evidenceRefused "COMPOSITE_HISTORICAL_SOURCE_BINDING_CONFLICT")
      else .error (.raised "TypeError")

/-- `validate_product`. -/
def validateProduct (product : Json) : Except CaptureError Unit := do
  let schema ← productSchema (← getItem product "product_name") (← getItem product "product_version")
  refuseIf (.ok !(lib.conforms schema.1 schema.2 product))
    "COMPOSITE_HISTORICAL_SOURCE_SCHEMA_CONFLICT"
  lib.requireHash false product

/-- `instant`. -/
def instant (value : Json) : Except CaptureError PyDatetime :=
  match value with
  | .str text => do
      let result ← lib.datetimeOf (.str (text.replace "Z" "+00:00"))
      require (.ok result.aware)
      return result
  | _ => .error (.raised "AttributeError")

/-- `base64.b64decode(value, validate=True)`. -/
def decoded (value : Json) : Except CaptureError (List UInt8) := do
  match lib.base64 (← textOf value) with
  | some bytes => .ok bytes
  | none => .error (.raised "ValueError")

/-- What a proof is bound to. -/
structure ProofUse where
  operation : String
  actor : Json
  revision : Json
  requestedAt : Json
  intent : Json

/-- The request that a proof answers. -/
def verificationRequest (use : ProofUse) (mapping policyProposal : Json) :
    Except CaptureError Json := do
  return .obj
    [ ("product_name", .str "CompositeHistoricalPolicyVerificationRequest"),
      ("product_version", .str "v1"),
      ("purpose", .str "COMPOSITE_HISTORICAL_MONTHLY_POLICY_ADMISSION"),
      ("reference", ← subscript mapping "reference"),
      ("scope", ← readAt policyProposal ["policy", "scope"]),
      ("month", ← readAt policyProposal ["policy", "month"]),
      ("eligibility_policy_version", ← subscript policyProposal "eligibility_policy_version"),
      ("reporting_currency", ← subscript mapping "reporting_currency"),
      ("operation", .str use.operation),
      ("revision", use.revision),
      ("actor_id", use.actor),
      ("requested_at", use.requestedAt),
      ("intent_digest", use.intent) ]

/-- `require_proof`. -/
def requireProof (proof policyProposal : Json) (use : ProofUse) : Except CaptureError Unit := do
  lib.requireHash false proof
  let mapping ← subscript proof "mapping"
  lib.requireHash false mapping
  let reference ← subscript mapping "reference"
  let original ← decoded lib (← subscript mapping "raw_original_base64")
  require (lib.same (given ("sha256:" ++ lib.sha256Bytes original))
    (subscript reference "raw_digest"))
  let request ← subscript proof "request"
  require (lib.same (.ok request) (verificationRequest use mapping policyProposal))
  require (lib.same (.ok mapping) (readAt policyProposal ["verification", "mapping"]))
  require (lib.same (subscript mapping "policy") (subscript policyProposal "policy"))
  require (lib.same (subscript mapping "attachments") (subscript policyProposal "attachments"))
  require (lib.same (subscript mapping "eligibility_policy_version")
    (subscript policyProposal "eligibility_policy_version"))
  let checked ← instant lib (← subscript proof "checked_at")
  let granted ← instant lib (← subscript proof "admitted_at")
  let expiry ← instant lib (← subscript proof "expires_at")
  let requested ← instant lib use.requestedAt
  -- five minutes, in microseconds
  require (.ok (decide (checked.microseconds ≤ requested.microseconds ∧
    requested.microseconds ≤ granted.microseconds ∧ granted.microseconds < expiry.microseconds ∧
    expiry.microseconds - checked.microseconds ≤ 300000000)))
  require (lib.same (subscript proof "original_signature_status")
    (given "VERIFIED_AT_ORIGINAL_APPROVAL"))
  require (lib.same (subscript proof "current_revocation_status") (given "CLEAR"))
  require (lib.differ (subscript proof "signer_principal_id")
    (subscript proof "verifier_principal_id"))
  require (lib.differ (subscript proof "signer_key_digest") (subscript proof "verifier_key_digest"))
  let publicKey ← decoded lib (← subscript proof "verifier_public_key_base64")
  require (allTrue
    [ .ok (publicKey.length = 32),
      lib.same (given ("sha256:" ++ lib.sha256Bytes publicKey))
        (subscript proof "verifier_key_digest") ])
  let credential ← decoded lib (← subscript proof "verifier_credential")
  require (.ok (credential.length = 64))

/-- The hash of a proposal without its hash and its proof. -/
def unprovedHash (proposal : Json) : Except CaptureError Json :=
  match proposal with
  | .obj fields =>
      let unproved := fields.filter fun f =>
        !(["content_hash", "operation_verification"].contains f.1)
      (lib.sourceHash false (.obj unproved)).map .str
  | _ => .error (.raised "AttributeError")

/-- `require_operation`. -/
def requireOperation (product proposal : Json) (operation : String) : Except CaptureError Unit := do
  let approval := operation = "EVALUATION_APPROVAL"
  let intent ← if approval then subscript proposal "content_hash" else unprovedHash lib proposal
  let proof ← subscript product "operation_verification"
  let policyProposal ← readAt proposal ["policy_approval", "proposal"]
  let actor ← subscript product (if approval then "approved_by" else "proposed_by")
  let revision ← subscript proposal "evaluation_revision"
  let requestedAt ← subscript product (if approval then "approved_at" else "proposed_at")
  requireProof lib proof policyProposal { operation, actor, revision, requestedAt, intent }

/-- `require_policy`. -/
def requireHistoricalPolicy (selection : EligibilitySelection) (month : String) (proposal : Json) :
    Except CaptureError Unit := do
  let approval ← subscript proposal "policy_approval"
  validateProduct lib approval
  let policyProposal ← subscript approval "proposal"
  validateProduct lib policyProposal
  let policy ← subscript policyProposal "policy"
  lib.validate eligibilityPolicy policy
  lib.requireHash false policy
  require (lib.same (.ok policy) (readAt proposal ["evaluation", "resolved_policy"]))
  require (lib.same (subscript policy "month") (given month))
  require (allTrue
    [ lib.same (readAt policy ["scope", "tenant_id"]) (given selection.tenantId),
      lib.same (readAt policy ["scope", "composite_id"]) (given selection.compositeId),
      lib.same (readAt policy ["scope", "definition_version"])
        (given selection.definitionVersion) ])
  require (lib.differ (subscript approval "approved_by") (subscript policyProposal "proposed_by"))
  let approvedAt ← instant lib (← subscript approval "approved_at")
  let policyProposedAt ← instant lib (← subscript policyProposal "proposed_at")
  require (.ok (decide (policyProposedAt.microseconds ≤ approvedAt.microseconds)))
  let proposedAt ← instant lib (← subscript proposal "proposed_at")
  require (.ok (decide (approvedAt.microseconds ≤ proposedAt.microseconds)))
  let mapping ← readAt policyProposal ["verification", "mapping"]
  require (lib.same (subscript mapping "reporting_currency") (given selection.reportingCurrency))
  require (lib.differ (subscript mapping "original_proposed_by")
    (subscript mapping "original_approved_by"))
  let originalProposed ← instant lib (← subscript mapping "original_proposed_at")
  let originalApproved ← instant lib (← subscript mapping "original_approved_at")
  require (do
    if originalProposed.microseconds ≤ originalApproved.microseconds then
      let monthStart ← instant lib (.str (month ++ "-01T00:00:00Z"))
      return decide (originalApproved.microseconds < monthStart.microseconds)
    else return false)
  let revision ← subscript policyProposal "proposal_revision"
  let intent ← lib.sourceHash false
    (.obj [("reference", ← subscript mapping "reference"), ("proposal_revision", revision)])
  requireProof lib (← subscript policyProposal "verification") policyProposal
    { operation := "POLICY_PROPOSAL"
      actor := ← subscript policyProposal "proposed_by"
      revision
      requestedAt := ← subscript policyProposal "proposed_at"
      intent := .str intent }
  requireProof lib (← subscript approval "verification") policyProposal
    { operation := "POLICY_APPROVAL"
      actor := ← subscript approval "approved_by"
      revision
      requestedAt := ← subscript approval "approved_at"
      intent := ← subscript policyProposal "content_hash" }
  requireOperation lib proposal proposal "EVALUATION_PROPOSAL"

end Products

end LotusReport.Composite.Eligibility
