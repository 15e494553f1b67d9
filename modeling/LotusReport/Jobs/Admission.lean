import LotusReport.Encoding.Runtime
import LotusReport.Encoding.Text
import LotusReport.Encoding.Validation
import LotusReport.Jobs.Schema

/-!
# TWR invocation authority of a job

A composite job that reads time-weighted returns is accepted under an
admission, which acceptance binds to the job in a server-owned option. A retry
must present an admission with the same security identity.
-/

namespace LotusReport.Jobs

open Encoding

/-- `BINDING_OPTION`. -/
def bindingOption : String := "composite_twr_invocation_binding"

/-- `principal_kind` with the delegation it requires. -/
inductive TwrPrincipal where
  | service
  | delegated (application actor : String)
deriving DecidableEq, Repr

/-- `principal_kind`. -/
def TwrPrincipal.kind : TwrPrincipal → String
  | service => "service"
  | delegated _ _ => "delegated"

/-- `delegated_application`. -/
def TwrPrincipal.application : TwrPrincipal → Option String
  | service => none
  | delegated application _ => some application

/-- `delegated_actor`. -/
def TwrPrincipal.actor : TwrPrincipal → Option String
  | service => none
  | delegated _ actor => some actor

/-- `AcceptedTwrAdmission`; the admission time is its ISO text. -/
structure AcceptedTwrAdmission where
  bindingReference : String
  issuer : String
  trustConfigDigest : String
  principal : TwrPrincipal
  subject : String
  tenantId : String
  resolverPolicyVersion : String
  effectiveScopeDigest : String
  selectorSetDigest : String
  authorityRevision : Option String := none
  admittedAt : String
deriving DecidableEq, Repr

/-- `security_identity`: the admission without the time it was given. -/
def AcceptedTwrAdmission.securityIdentity (a : AcceptedTwrAdmission) : Fields :=
  [ ("schema_version", .str "composite-twr-admission.v1"),
    ("provider_reference", .str "report.composite-twr.invocation.v1"),
    ("binding_reference", .str a.bindingReference),
    ("issuer", .str a.issuer),
    ("audience", .str "lotus-performance"),
    ("trust_config_digest", .str a.trustConfigDigest),
    ("principal_kind", .str a.principal.kind),
    ("subject", .str a.subject),
    ("delegated_application", .ofText? a.principal.application),
    ("delegated_actor", .ofText? a.principal.actor),
    ("tenant_id", .str a.tenantId),
    ("method", .str "POST"),
    ("endpoint", .str "/performance/composites/twr"),
    ("capability", .str "operations.runtime.read"),
    ("resolver_policy_version", .str a.resolverPolicyVersion),
    ("effective_scope_digest", .str a.effectiveScopeDigest),
    ("selector_set_digest", .str a.selectorSetDigest),
    ("authority_revision", .ofText? a.authorityRevision) ]

/-- `model_dump(mode="json")` of an admission. -/
def AcceptedTwrAdmission.dump (a : AcceptedTwrAdmission) : Json :=
  .obj (a.securityIdentity ++ [("admitted_at", .str a.admittedAt)])

/-- `TwrJobBinding`. -/
structure TwrJobBinding where
  admission : AcceptedTwrAdmission
  requestId : String
  jobId : String
  correlationId : String
  traceId : String
deriving DecidableEq, Repr

/-- `model_dump(mode="json")` of a binding. -/
def TwrJobBinding.dump (b : TwrJobBinding) : Json :=
  .obj
    [ ("admission", b.admission.dump),
      ("request_id", .str b.requestId),
      ("job_id", .str b.jobId),
      ("correlation_id", .str b.correlationId),
      ("trace_id", .str b.traceId) ]

/-- The fields of an object. -/
def objectFields : Json → Option Fields
  | .obj fields => some fields
  | _ => none

section Validate

/-- Text with `str_strip_whitespace`. -/
def strippedText (constraint : String → Bool) (text : String) : Except Invalid String :=
  let stripped := String.ofList (dropEdges patternSpace text.toList)
  if constraint stripped then .ok stripped else .error .refused

/-- A text field with `str_strip_whitespace`. -/
def strippedWith (constraint : String → Bool) : Json → Except Invalid String
  | .str text => strippedText constraint text
  | _ => .error .refused

/-- A field of one literal text, which is also its default. -/
def literal (fields : Fields) (name value : String) : Except Invalid Unit :=
  match Json.lookup fields name with
  | none => .ok ()
  | some found => if found = .str value then .ok () else .error .refused

/-- `^[!-+\--~]+$`: visible ASCII without the comma. -/
def isTenantText (text : String) : Bool :=
  lengthWithin 1 200 text &&
    text.toList.all fun c => ('!' ≤ c && c ≤ '+') || ('-' ≤ c && c ≤ '~')

/-- `require_principal_shape`: the principal that the fields name. -/
def principalOf (kind : String) (application actor : Option String) : Option TwrPrincipal :=
  match kind, application, actor with
  | "service", none, none => some .service
  | "delegated", some application, some actor => some (.delegated application actor)
  | _, _, _ => none

variable (co : Coercions)

/-- `AcceptedTwrAdmission.model_validate`. -/
def validateStoredAdmission (j : Json) : Except Invalid AcceptedTwrAdmission := do
  let fields ← fieldsOf j
  forbidExtra ["schema_version", "provider_reference", "binding_reference", "issuer", "audience",
    "trust_config_digest", "principal_kind", "subject", "delegated_application",
    "delegated_actor", "tenant_id", "method", "endpoint", "capability",
    "resolver_policy_version", "effective_scope_digest", "selector_set_digest",
    "authority_revision", "admitted_at"] fields
  literal fields "schema_version" "composite-twr-admission.v1"
  literal fields "provider_reference" "report.composite-twr.invocation.v1"
  literal fields "audience" "lotus-performance"
  literal fields "method" "POST"
  literal fields "endpoint" "/performance/composites/twr"
  literal fields "capability" "operations.runtime.read"
  let short := strippedWith (lengthWithin 1 200)
  let bindingReference ← required fields "binding_reference" short
  let issuer ← required fields "issuer" short
  let trustConfigDigest ← required fields "trust_config_digest" (strippedWith isHex64)
  let kind ← required fields "principal_kind" (textWith (["service", "delegated"].contains ·))
  let subject ← required fields "subject" short
  let application ← nullable fields "delegated_application" short
  let actor ← nullable fields "delegated_actor" short
  let tenantId ← required fields "tenant_id" (strippedWith isTenantText)
  let resolverPolicyVersion ← required fields "resolver_policy_version" short
  let effectiveScopeDigest ← required fields "effective_scope_digest" (strippedWith isHex64)
  let selectorSetDigest ← required fields "selector_set_digest" (strippedWith isHex64)
  let authorityRevision ← nullable fields "authority_revision" short
  let admittedAt ← required fields "admitted_at" (converted ∘ co.awareDatetime)
  let principal ← converted (principalOf kind application actor)
  return {
    bindingReference, issuer, trustConfigDigest, principal, subject, tenantId,
    resolverPolicyVersion, effectiveScopeDigest, selectorSetDigest, authorityRevision, admittedAt }

/-- The constraint of the ids of a binding. -/
def isBindingId (text : String) : Bool := text != ""

/-- `TwrJobBinding.model_validate`. -/
def validateStoredBinding (j : Json) : Except Invalid TwrJobBinding := do
  let fields ← fieldsOf j
  forbidExtra ["admission", "request_id", "job_id", "correlation_id", "trace_id"] fields
  let nonempty := strippedWith isBindingId
  return {
    admission := ← required fields "admission" (validateStoredAdmission co)
    requestId := ← required fields "request_id" nonempty
    jobId := ← required fields "job_id" nonempty
    correlationId := ← required fields "correlation_id" nonempty
    traceId := ← required fields "trace_id" nonempty }

end Validate

/-- `TwrJobBinding` of an admission: its ids are stripped, and none of them may be blank. -/
def TwrJobBinding.build (admission : AcceptedTwrAdmission)
    (requestId jobId correlationId traceId : String) : Except Invalid TwrJobBinding := do
  let nonempty := strippedText isBindingId
  return {
    admission := admission
    requestId := ← nonempty requestId
    jobId := ← nonempty jobId
    correlationId := ← nonempty correlationId
    traceId := ← nonempty traceId }

/-- `bind_admission`. -/
def bindAdmission (options : Fields) (admission : Option AcceptedTwrAdmission)
    (requestId jobId correlationId traceId : String) :
    Except LedgerError Fields :=
  if (Json.lookup options bindingOption).isSome then
    .error (.twrAuthorityRefused "COMPOSITE_TWR_CALLER_BINDING_FORBIDDEN")
  else
    match admission with
    | none => .ok options
    | some admission =>
        match TwrJobBinding.build admission requestId jobId correlationId traceId with
        | .ok binding => .ok (Json.assign options bindingOption binding.dump)
        | .error _ => .error (.validationError "TwrJobBinding")

variable (co : Coercions)

/-- The binding that a request stores for a job, or the code that refuses it. -/
def storedBinding (request : RequestRow) (job : JobRow) : Except String TwrJobBinding :=
  match validateStoredBinding co ((Json.lookup request.options bindingOption).getD .null) with
  | .error _ => .error "COMPOSITE_TWR_JOB_BINDING_REQUIRED"
  | .ok binding =>
      if binding.jobId ≠ job.reportJobId ∨ binding.requestId ≠ request.reportRequestId ∨
          binding.correlationId ≠ request.correlationId ∨ binding.traceId ≠ request.traceId ∨
          binding.admission.tenantId ≠ request.tenantId then
        .error "COMPOSITE_TWR_JOB_BINDING_CONFLICT"
      else .ok binding

/-- `binding_for_job`. -/
def bindingForJob (request : RequestRow) (job : JobRow) : Except LedgerError TwrJobBinding :=
  (storedBinding co request job).mapError .twrAuthorityRefused

/-- `require_same_admission`. -/
def requireSameAdmission (request : RequestRow) (job : JobRow)
    (admission : Option AcceptedTwrAdmission) : Except LedgerError Unit :=
  if admission.isNone && (Json.lookup request.options bindingOption).isNone then .ok ()
  else do
    let binding ← bindingForJob co request job
    match admission with
    | some admission =>
        if binding.admission.securityIdentity = admission.securityIdentity then .ok ()
        else .error (.twrAuthorityRefused "COMPOSITE_TWR_REPLAY_AUTHORITY_CONFLICT")
    | none => .error (.twrAuthorityRefused "COMPOSITE_TWR_REPLAY_AUTHORITY_CONFLICT")

end LotusReport.Jobs
